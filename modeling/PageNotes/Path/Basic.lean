import PageNotes.Text.Basic

/-!
Paths of files: an optional root and the names on the way. Empty names and `.` are left out, `..`
is kept until a path is normalised.

* `Path.ofText`, `Path.toText`: reading and writing; the empty path is written `.`;
* `Path.join`, `Path.parent`, `Path.name`, `Path.stem`, `Path.extension`;
* `Path.normalize`: the path without `..`, except at the start of a relative path;
* `baseName`, `splitExtension`: the same questions about texts that are not read as paths.
-/

namespace PageNotes

/-- Where a path starts: at the working directory, or at the root, which two slashes may mark. -/
inductive PathRoot where
  | relative
  | slash
  | doubleSlash
  deriving DecidableEq, Repr

/-- The text of a root. -/
def PathRoot.toText : PathRoot → Text
  | .relative => []
  | .slash => ['/']
  | .doubleSlash => ['/', '/']

/-- The root that a text starts with: exactly two slashes differ from one or from more. -/
def PathRoot.ofText : Text → PathRoot
  | '/' :: '/' :: '/' :: _ => .slash
  | '/' :: '/' :: _ => .doubleSlash
  | '/' :: _ => .slash
  | _ => .relative

/-- A path. -/
structure Path where
  root : PathRoot
  parts : List Text
  deriving DecidableEq, Repr

namespace Path

/-- The path that a text denotes. -/
def ofText (t : Text) : Path :=
  ⟨.ofText t, (Text.split '/' t).filter fun part => !part.isEmpty && part ≠ ['.']⟩

/-- The text of a path. -/
def toText (p : Path) : Text :=
  if p.root = .relative ∧ p.parts = [] then ['.'] else p.root.toText ++ Text.join ['/'] p.parts

instance : ToString Path := ⟨fun p => String.ofList p.toText⟩

/-- Whether a path starts at the root. -/
def isAbsolute (p : Path) : Bool := p.root ≠ .relative

/-- Whether a null character stands in a path; nothing can lie there. -/
def hasNull (p : Path) : Bool := p.parts.any (·.contains '\x00')

/-- The path `q` as seen from the directory `p`. -/
def join (p q : Path) : Path := if q.isAbsolute then q else ⟨p.root, p.parts ++ q.parts⟩

/-- The path of a file in the directory `p`. -/
def child (p : Path) (name : Text) : Path := p.join (.ofText name)

/-- The directory that holds the file. -/
def parent (p : Path) : Path := { p with parts := p.parts.dropLast }

/-- The last name. -/
def name (p : Path) : Text := p.parts.getLast?.getD []

/-- The names in order, the root as the first, for sorting. -/
def sortKey (p : Path) : List Text :=
  if p.isAbsolute then p.root.toText :: p.parts else p.parts

/-! ### Extensions -/

/-- A name cut at its last point, unless the point stands first or last. -/
def cutName (name : Text) : Text × Text :=
  let ending := Text.takeEnd (· ≠ '.') name
  let stem := name.take (name.length - ending.length - 1)
  if ending.isEmpty || stem.isEmpty || ending.length = name.length then (name, [])
  else (stem, '.' :: ending)

/-- The last name without its extension. -/
def stem (p : Path) : Text := (cutName p.name).1

/-- The extension of the last name, with its point. -/
def extension (p : Path) : Text := (cutName p.name).2

/-! ### Normal paths -/

/-- Resolves `..` among names; `above` stands newest first. -/
def resolveParts (absolute : Bool) (above : List Text) : List Text → List Text
  | [] => above.reverse
  | part :: rest =>
    if part = ['.', '.'] then
      match above with
      | [] => resolveParts absolute (if absolute then [] else [part]) rest
      | last :: higher =>
        if last = ['.', '.'] then resolveParts absolute (part :: above) rest
        else resolveParts absolute higher rest
    else resolveParts absolute (part :: above) rest

/-- The path without `..`; a relative path may start with some. -/
def normalize (p : Path) : Path := { p with parts := resolveParts p.isAbsolute [] p.parts }

/-- The path from the root that a path means in the directory `working`. -/
def absolute (working p : Path) : Path := (working.join p).normalize

/-- The same with one slash at the root. -/
def resolve (working p : Path) : Path := { absolute working p with root := .slash }

/-- The names of `p` below the directory `base`. -/
def relativeTo? (p base : Path) : Option (List Text) :=
  if p.root = base.root && base.parts.isPrefixOf p.parts then
    some (p.parts.drop base.parts.length)
  else none

end Path

/-- What stands behind the last slash. -/
def baseName (t : Text) : Text := t.takeEnd (· ≠ '/')

/-- A text cut at the last point of its last name; points at the start of the name do not count. -/
def splitExtension (t : Text) : Text × Text :=
  let name := baseName t
  let body := name.dropWhile (· = '.')
  if body.contains '.' then
    let ending := Text.takeEnd (· ≠ '.') body
    (t.take (t.length - ending.length - 1), '.' :: ending)
  else (t, [])

/-- The order of paths: name by name, a path before those below it. -/
def Path.partsLe : List Text → List Text → Bool
  | [], _ => true
  | _ :: _, [] => false
  | a :: s, b :: t => if a = b then Path.partsLe s t else Text.le a b

/-- The order in which paths are listed. -/
def Path.le (p q : Path) : Bool := Path.partsLe p.sortKey q.sortKey

end PageNotes
