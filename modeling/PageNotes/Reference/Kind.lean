import PageNotes.Text.Digit
import PageNotes.Text.LetterCase

/-!
References in documents, by where they lead: to another place (absolute), into the page itself
(fragment), nowhere since they hold their data (embedded), or to a file next to the page (local).

* `isLocal_iff`: a reference is local when it is not empty and of none of the other kinds.
-/

namespace PageNotes

/-- A character of the name of a scheme behind its first letter. -/
def isSchemeChar (c : Char) : Bool :=
  isAsciiLetter c || isAsciiDigit c || c = '+' || c = '.' || c = '-'

/-- Whether a text starts with the name of a scheme and a colon. -/
def startsWithScheme : Text → Bool
  | [] => false
  | c :: t => isAsciiLetter c && (t.dropWhile isSchemeChar).head? = some ':'

/-- A reference with a scheme, or one that leaves it to the page. -/
def isAbsoluteReference (r : Text) : Bool := r.startsWith ['/', '/'] || startsWithScheme r

/-- A reference that holds its data. -/
def isEmbeddedData (r : Text) : Bool := Text.lower (r.take 5) = "data:".toList

/-- A reference into the page. -/
def isFragmentReference (r : Text) : Bool := r.head? = some '#'

/-- A reference to a file that is found from the place of the page. -/
def isLocalReference (r : Text) : Bool :=
  !r.isEmpty && !isAbsoluteReference r && !isEmbeddedData r && !isFragmentReference r

theorem isLocal_iff (r : Text) : isLocalReference r = true ↔
    r ≠ [] ∧ isAbsoluteReference r = false ∧ isEmbeddedData r = false ∧
      isFragmentReference r = false := by
  simp [isLocalReference, and_assoc]

/-- The path of a reference, and its query and fragment from the first `?` or `#` on. -/
def splitReference (r : Text) : Text × Text :=
  (r.takeWhile fun c => c ≠ '?' && c ≠ '#', r.dropWhile fun c => c ≠ '?' && c ≠ '#')

theorem splitReference_append (r : Text) : (splitReference r).1 ++ (splitReference r).2 = r :=
  List.takeWhile_append_dropWhile

end PageNotes
