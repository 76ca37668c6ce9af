/-!
Character classes and character maps as data: closed ranges of code points in ascending order,
and runs of code points that map to a run of their own.

* `CodeRanges.contains`: membership, which may stop at the first range that starts too late;
* `CodeRun.image?`: the image of a code point under one run.
-/

namespace PageNotes

/-- A set of code points: closed ranges, in ascending order and disjoint. -/
abbrev CodeRanges := List (Nat × Nat)

/-- Membership; a range that starts beyond the code point ends the search. -/
def CodeRanges.contains : CodeRanges → Nat → Bool
  | [], _ => false
  | (first, last) :: rest, n =>
    if n < first then false else if n ≤ last then true else CodeRanges.contains rest n

/-- The code points `first, first + step, …, last` with the images `image, image + step, …`. -/
structure CodeRun where
  first : Nat
  last : Nat
  step : Nat
  image : Nat

/-- The image of a code point that lies on the run. -/
def CodeRun.image? (r : CodeRun) (n : Nat) : Option Nat :=
  if r.first ≤ n ∧ n ≤ r.last ∧ (n - r.first) % r.step = 0 then some (r.image + (n - r.first))
  else none

/-- The image under the first run of an ascending list that holds the code point. -/
def CodeRun.lookup : List CodeRun → Nat → Option Nat
  | [], _ => none
  | r :: rest, n => if n < r.first then none else (r.image? n).or (lookup rest n)

end PageNotes
