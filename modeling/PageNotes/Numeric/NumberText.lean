import PageNotes.Text.Basic
import PageNotes.Numeric.Binary64

/-!
Floating-point numbers as text.

* `Binary64.shortest`: the fewest digits that read back as the number, positional while the
  decimal point stands at most sixteen places behind the first digit or three before it;
* `Binary64.tenths`: one decimal, the exact value rounded with a tie to the even digit.
-/

namespace PageNotes

namespace Binary64

/-! ### The fewest digits -/

/-- The reals that round to a number: the value and both ends over one denominator, and whether
the ends belong to it. -/
structure Interval where
  low : Nat
  value : Nat
  high : Nat
  den : Nat
  closed : Bool

/-- The interval of a positive finite number; below a power of two the gap is half as wide. -/
def interval (m : Nat) (e : Int) : Interval :=
  let (n, d) := ratio 1 e
  let below := if m = Nat.pow 2 52 && -1074 < e then 1 else 2
  ⟨(4 * m - below) * n, 4 * m * n, (4 * m + 2) * n, 4 * d, m % 2 = 0⟩

/-- Whether `digits * 10 ^ place` lies in the interval. -/
def Interval.holds (i : Interval) (digits : Nat) (place : Int) : Bool :=
  let (low, point, high) := match place with
    | .ofNat k => (i.low, digits * Nat.pow 10 k * i.den, i.high)
    | .negSucc k => (i.low * Nat.pow 10 (k + 1), digits * i.den, i.high * Nat.pow 10 (k + 1))
  if i.closed then low ≤ point && point ≤ high else low < point && point < high

/-- The whole part and the doubled rest of the value on the grid `10 ^ place`, with the grid's
denominator. -/
def Interval.onGrid (i : Interval) (place : Int) : Nat × Nat × Nat :=
  match place with
  | .ofNat k =>
    let den := i.den * Nat.pow 10 k
    (i.value / den, 2 * (i.value % den), den)
  | .negSucc k =>
    let value := i.value * Nat.pow 10 (k + 1)
    (value / i.den, 2 * (value % i.den), i.den)

/-- The point of a grid that is nearest to the value among its two neighbours in the interval. -/
def Interval.gridPoint? (i : Interval) (place : Int) : Option Nat :=
  let (digits, rest, den) := i.onGrid place
  match i.holds digits place && 0 < digits, i.holds (digits + 1) place with
  | true, true => some (if rest < den || (rest = den && digits % 2 = 0) then digits else digits + 1)
  | true, false => some digits
  | false, true => some (digits + 1)
  | false, false => none

/-- Searches the grids from coarse to fine. -/
def Interval.search (i : Interval) (place : Int) : Nat → Nat × Int
  | 0 => ((i.onGrid place).1, place)
  | fuel + 1 =>
    match i.gridPoint? place with
    | some digits => (digits, place)
    | none => Interval.search i (place - 1) fuel

/-- A power of ten that is not below the number. -/
def topPlace (m : Nat) (e : Int) : Int :=
  (Int.ofNat (Nat.log2 m) + 1 + e) * 30103 / 100000 + 1

/-- Takes zeros from the end of the digits to the place. -/
def dropZeros (digits : Nat) (place : Int) : Nat → Nat × Int
  | 0 => (digits, place)
  | fuel + 1 =>
    if digits % 10 = 0 && digits ≠ 0 then dropZeros (digits / 10) (place + 1) fuel
    else (digits, place)

/-- The shortest digits and their place for a positive finite number. -/
def shortestDigits (m : Nat) (e : Int) : Nat × Int :=
  let (digits, place) := (interval m e).search (topPlace m e) 20
  dropZeros digits place 20

/-- Digits with a decimal point: positional or with an exponent of at least two digits. -/
def layOut (digits : Nat) (place : Int) : Text :=
  let ds := Text.ofNat digits
  let point : Int := ds.length + place
  if -4 < point && point ≤ 16 then
    if point ≤ 0 then ['0', '.'] ++ List.replicate (-point).toNat '0' ++ ds
    else if 0 ≤ place then ds ++ List.replicate place.toNat '0' ++ ['.', '0']
    else ds.take point.toNat ++ '.' :: ds.drop point.toNat
  else
    let exponent := point - 1
    let size := Text.ofNat exponent.natAbs
    let fraction := match ds.drop 1 with
      | [] => []
      | rest => '.' :: rest
    ds.take 1 ++ fraction ++ ['e', if exponent < 0 then '-' else '+']
      ++ (if size.length < 2 then '0' :: size else size)

/-- The shortest text of a number. -/
def shortest : Binary64 → Text
  | .finite negative m e =>
    let size := if m = 0 then "0.0".toList else
      let (digits, place) := shortestDigits m e
      layOut digits place
    if negative then '-' :: size else size
  | .infinite negative => if negative then "-inf".toList else "inf".toList
  | .nan => "nan".toList

/-! ### One decimal -/

/-- The number with one decimal. -/
def tenths : Binary64 → Text
  | .finite negative m e =>
    let (n, d) := ratio m e
    let t := roundHalfEven (10 * n) d
    let size := Text.ofNat (t / 10) ++ '.' :: Text.ofNat (t % 10)
    if negative then '-' :: size else size
  | x => x.shortest

end Binary64

end PageNotes
