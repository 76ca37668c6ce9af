/-!
Texts as lists of characters, and the operations on them that the rest of the library is built
from: trimming, cutting at a character, splitting and joining, replacing runs.

* `Text.split` and `Text.join` undo each other: `Text.join_split`;
* `Text.cut` loses nothing: `Text.cut_before_append`;
* trimming leaves no character of the class at either end: `Text.trimStart_head`.
-/

namespace PageNotes

/-- A text is the list of its characters. -/
abbrev Text := List Char

namespace Text

/-- The text of a string. -/
abbrev ofString (s : String) : Text := s.toList

/-! ### Trimming -/

/-- Drops the characters of a class from the start. -/
def trimStart (p : Char → Bool) (t : Text) : Text := t.dropWhile p

/-- Drops the characters of a class from the end. -/
def trimEnd (p : Char → Bool) (t : Text) : Text := (t.reverse.dropWhile p).reverse

/-- Drops the characters of a class from both ends. -/
def trim (p : Char → Bool) (t : Text) : Text := trimEnd p (trimStart p t)

/-- The characters of a class at the end of a text. -/
def takeEnd (p : Char → Bool) (t : Text) : Text := (t.reverse.takeWhile p).reverse

theorem trimStart_head (p : Char → Bool) (t : Text) : ∀ c ∈ (trimStart p t).head?, p c = false := by
  intro c hc
  have := List.head?_dropWhile_not p t
  rw [trimStart] at hc
  rw [Option.mem_def] at hc
  simpa [hc] using this

/-! ### Searching -/

/-- Whether `part` stands at the start of the text. -/
abbrev startsWith (t part : Text) : Bool := part.isPrefixOf t

/-- Whether `part` stands at the end of the text. -/
abbrev endsWith (t part : Text) : Bool := part.isSuffixOf t

/-- Whether `part` stands somewhere in the text. -/
def hasPart (part : Text) : Text → Bool
  | [] => part.isEmpty
  | c :: t => part.isPrefixOf (c :: t) || hasPart part t

/-- The text behind `part` when it starts with `part`. -/
def dropPrefix? : (part t : Text) → Option Text
  | [], t => some t
  | _ :: _, [] => none
  | a :: part, c :: t => if a = c then dropPrefix? part t else none

/-! ### Cutting, splitting and joining -/

/-- The part before the first `sep`, and what follows it if there is one. -/
def cut (sep : Char) : Text → Text × Option Text
  | [] => ([], none)
  | c :: t => if c = sep then ([], some t) else
      let (before, after) := cut sep t
      (c :: before, after)

theorem cut_before_append (sep : Char) (t : Text) :
    (cut sep t).1 ++ ((cut sep t).2.map (sep :: ·)).getD [] = t := by
  induction t with
  | nil => rfl
  | cons c t ih => by_cases h : c = sep <;> simp [cut, h, ih]

/-- The pieces between the occurrences of `sep`; one more than there are occurrences. -/
def split (sep : Char) : Text → List Text
  | [] => [[]]
  | c :: t =>
    if c = sep then [] :: split sep t
    else match split sep t with
      | [] => [[c]]
      | piece :: pieces => (c :: piece) :: pieces

/-- The pieces with `sep` between them. -/
def join (sep : Text) : List Text → Text
  | [] => []
  | [piece] => piece
  | piece :: pieces => piece ++ sep ++ join sep pieces

theorem split_ne_nil (sep : Char) (t : Text) : split sep t ≠ [] := by
  induction t with
  | nil => simp [split]
  | cons c t ih =>
    by_cases h : c = sep
    · simp [split, h]
    · simp only [split, h, if_false]
      split <;> simp

/-- Joining the pieces gives the text back. -/
theorem join_split (sep : Char) (t : Text) : join [sep] (split sep t) = t := by
  induction t with
  | nil => rfl
  | cons c t ih =>
    by_cases h : c = sep
    · subst h
      cases hs : split c t with
      | nil => exact absurd hs (split_ne_nil c t)
      | cons piece pieces => simpa [split, hs, join] using ih
    · cases hs : split sep t with
      | nil => exact absurd hs (split_ne_nil sep t)
      | cons piece pieces =>
        cases pieces with
        | nil => simpa [split, hs, h, join] using ih
        | cons next pieces => simpa [split, hs, h, join] using ih

/-- The words of a text: its maximal pieces without a character of the class. -/
def words (p : Char → Bool) : Text → List Text
  | [] => []
  | c :: t =>
    if p c then words p t
    else match t with
      | [] => [[c]]
      | d :: _ =>
        if p d then [c] :: words p t
        else match words p t with
          | [] => [[c]]
          | word :: rest => (c :: word) :: rest

/-! ### Replacing -/

/-- Puts `new` in the place of every maximal run of characters of a class. -/
def replaceRuns (p : Char → Bool) (new : Text) : Text → Text
  | [] => []
  | c :: t =>
    if p c then
      if t.head?.any p then replaceRuns p new t else new ++ replaceRuns p new t
    else c :: replaceRuns p new t

/-- Puts a text in the place of every occurrence of one character. -/
def replaceChar (old : Char) (new : Text) (t : Text) : Text :=
  t.flatMap fun c => if c = old then new else [c]

/-- Replaces what `find` finds, from left to right and not overlapping: it is told whether it looks
from the start of the text, and gives the length of what it finds there and the new text. The first
`skip` characters belong to what was found before. -/
def replaceFound (find : Bool → Text → Option (Nat × Text)) (atStart : Bool) (skip : Nat) :
    Text → Text
  | [] => []
  | c :: t =>
    match skip with
    | skip + 1 => replaceFound find false skip t
    | 0 =>
      match find atStart (c :: t) with
      | some (length + 1, new) => new ++ replaceFound find false length t
      | _ => c :: replaceFound find false 0 t

/-- Every line end as one line feed: a carriage return counts as one, with a line feed behind it
they count together. -/
def unifyLineEnds : Text → Text
  | [] => []
  | '\r' :: t => if t.head? = some '\n' then unifyLineEnds t else '\n' :: unifyLineEnds t
  | c :: t => c :: unifyLineEnds t

/-- Whether a character occurs. -/
abbrev has (c : Char) (t : Text) : Bool := t.contains c

/-- The longest run of one character. -/
def longestRun (c : Char) (t : Text) : Nat :=
  (t.foldl (fun (best, now) d => if d = c then (max best (now + 1), now + 1) else (best, 0))
    (0, 0)).1

end Text

/-- The decimal digits of a number as text. -/
def Text.ofNat (n : Nat) : Text := (toString n).toList

/-- An integer as text, with a minus sign if it is negative. -/
def Text.ofInt (n : Int) : Text := if n < 0 then '-' :: Text.ofNat n.natAbs else Text.ofNat n.natAbs

/-- Code-point order, the order in which keys and paths are listed. -/
def Text.le : Text → Text → Bool
  | [], _ => true
  | _ :: _, [] => false
  | a :: s, b :: t => if a = b then Text.le s t else a.toNat < b.toNat

end PageNotes
