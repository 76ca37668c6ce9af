/-!
Binary floating-point numbers of 64 bits as exact values: a sign, a significand and a power of
two, or one of the values that are no number. Every operation is the exact one on integers,
rounded once to the nearest number, a tie to the even significand.

* `roundHalfEven`: the integer nearest to a ratio;
* `Binary64.ofRatio`: the number nearest to a ratio;
* `Binary64.ofDecimal`, `Binary64.ofInt?`, `Binary64.add`, `Binary64.mul`, `Binary64.neg`.
-/

namespace PageNotes

/-- The integer nearest to `num / den`; of two equally near ones the even one. -/
def roundHalfEven (num den : Nat) : Nat :=
  let q := num / den
  let r := num % den
  if 2 * r < den then q else if den < 2 * r then q + 1 else if q % 2 = 0 then q else q + 1

/-- A floating-point number: `significand * 2 ^ exponent` with a sign, or a special value. The
significand of a finite number is below `2 ^ 53` and the exponent at least `-1074`. -/
inductive Binary64 where
  | finite (negative : Bool) (significand : Nat) (exponent : Int)
  | infinite (negative : Bool)
  | nan
  deriving DecidableEq, Repr

namespace Binary64

/-- The number zero. -/
def zero : Binary64 := .finite false 0 (-1074)

instance : Inhabited Binary64 := ⟨zero⟩

/-- `num * 2 ^ (-e)` as a ratio of naturals. -/
def scaleDown (num den : Nat) (e : Int) : Nat × Nat :=
  match e with
  | .ofNat k => (num, den * Nat.pow 2 k)
  | .negSucc k => (num * Nat.pow 2 (k + 1), den)

/-- The exponent with which a ratio has a significand of 53 bits, but never less than the least
exponent. -/
def exponentFor (num den : Nat) : Int :=
  let guess : Int := Int.ofNat (Nat.log2 num) - Int.ofNat (Nat.log2 den) - 52
  let (n, d) := scaleDown num den guess
  let e := if n / d < Nat.pow 2 52 then guess - 1 else guess
  max e (-1074)

/-- The number nearest to `num / den`, with a sign. -/
def ofRatio (negative : Bool) (num den : Nat) : Binary64 :=
  if num = 0 then .finite negative 0 (-1074)
  else
    let e := exponentFor num den
    let (n, d) := scaleDown num den e
    let m := roundHalfEven n d
    let (m, e) := if m = Nat.pow 2 53 then (Nat.pow 2 52, e + 1) else (m, e)
    if 971 < e then .infinite negative else .finite negative m e

/-- The number nearest to `digits * 10 ^ e`. Exponents far outside the range are not computed. -/
def ofDecimal (negative : Bool) (digits : Nat) (e : Int) : Binary64 :=
  if digits = 0 then .finite negative 0 (-1074)
  else
    let size : Int := e + Int.ofNat (Nat.log2 digits / 3)
    match e with
    | .ofNat k => if 400 < e then .infinite negative else ofRatio negative (digits * Nat.pow 10 k) 1
    | .negSucc k =>
      if size < -400 then .finite negative 0 (-1074)
      else ofRatio negative digits (Nat.pow 10 (k + 1))

/-- The number nearest to an integer; an integer beyond the range has none. -/
def ofInt? (n : Int) : Option Binary64 :=
  match ofRatio (n < 0) n.natAbs 1 with
  | .infinite _ => none
  | x => some x

/-- The exact value of a finite number as an integer times `2 ^ (-1074)`. -/
def units? : Binary64 → Option Int
  | .finite negative m e =>
    let u : Int := Int.ofNat (m * Nat.pow 2 (e + 1074).toNat)
    some (if negative then -u else u)
  | _ => none

/-- The number nearest to an integer times `2 ^ (-1074)`. -/
def ofUnits (u : Int) : Binary64 := ofRatio (u < 0) u.natAbs (Nat.pow 2 1074)

/-- The sum, rounded once. -/
def add : Binary64 → Binary64 → Binary64
  | .nan, _ => .nan
  | _, .nan => .nan
  | .infinite a, .infinite b => if a = b then .infinite a else .nan
  | .infinite a, _ => .infinite a
  | _, .infinite b => .infinite b
  | x@(.finite a 0 _), .finite b 0 _ => if a && b then x else zero
  | x, y =>
    match x.units?, y.units? with
    | some u, some v => if u + v = 0 then zero else ofUnits (u + v)
    | _, _ => .nan

/-- The product, rounded once. -/
def mul : Binary64 → Binary64 → Binary64
  | .nan, _ => .nan
  | _, .nan => .nan
  | .infinite a, .infinite b => .infinite (a != b)
  | .infinite a, .finite b m _ => if m = 0 then .nan else .infinite (a != b)
  | .finite a m _, .infinite b => if m = 0 then .nan else .infinite (a != b)
  | .finite a m e, .finite b n f =>
    let (num, den) := scaleDown (m * n) 1 (-(e + f))
    ofRatio (a != b) num den

/-- The number with the opposite sign. -/
def neg : Binary64 → Binary64
  | .finite negative m e => .finite (!negative) m e
  | .infinite negative => .infinite (!negative)
  | .nan => .nan

/-- The integer part, toward zero; none if there is no number. -/
def truncate? : Binary64 → Option Int
  | .finite negative m e =>
    let n : Nat := match e with
      | .ofNat k => m * Nat.pow 2 k
      | .negSucc k => m / Nat.pow 2 (k + 1)
    some (if negative then -(Int.ofNat n) else Int.ofNat n)
  | _ => none

/-- Whether the number is less than a natural number. -/
def ltNat (x : Binary64) (n : Nat) : Bool :=
  match x with
  | .finite negative m e =>
    negative && 0 < m || (match e with
      | .ofNat k => m * Nat.pow 2 k < n
      | .negSucc k => m < n * Nat.pow 2 (k + 1))
  | .infinite negative => negative
  | .nan => false

/-- The ratio of naturals that is the size of a finite number. -/
def ratio (m : Nat) (e : Int) : Nat × Nat :=
  match e with
  | .ofNat k => (m * Nat.pow 2 k, 1)
  | .negSucc k => (m, Nat.pow 2 (k + 1))

end Binary64

end PageNotes
