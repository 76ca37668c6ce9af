import PageNotes.Path.Basic
import PageNotes.Text.Quoted
import PageNotes.Text.Utf8

/-!
Disks: files and directories by their place, the list of names from the root down. A path is found
by walking from name to name, so every name but the last must be that of a directory.

* `Disk.find?`, `Disk.put`: `find?_put` says that an entry is found where it was put and that all
  others are as before;
* `Disk.locate`: the place that a path means, or why there is none;
* `DiskError`: what can go wrong, with the path that it goes wrong at.
-/

namespace PageNotes

/-- Where an entry of a disk is: the names from the root down. -/
abbrev Place := List Text

/-- What stands at a place. -/
inductive Entry where
  | directory
  | file (content : Bytes)
  deriving DecidableEq, Repr

/-- A disk. The root is always a directory and has no entry of its own. -/
structure Disk where
  entries : List (Place × Entry)
  deriving DecidableEq, Repr

/-! ### Errors -/

/-- Why the disk refuses. -/
inductive DiskCause where
  | notFound
  | alreadyExists
  | notDirectory
  | isDirectory
  | nameTooLong
  deriving DecidableEq, Repr

/-- What goes wrong on a disk. -/
inductive DiskError where
  | refused (cause : DiskCause) (path : Path)
  /-- A file would be copied onto itself. -/
  | sameFile (source target : Path)
  /-- A path with a null character. -/
  | nullCharacter
  deriving DecidableEq, Repr

/-- The number of a cause. -/
def DiskCause.number : DiskCause → Nat
  | .notFound => 2
  | .alreadyExists => 17
  | .notDirectory => 20
  | .isDirectory => 21
  | .nameTooLong => 36

/-- The words for a cause. -/
def DiskCause.words : DiskCause → String
  | .notFound => "No such file or directory"
  | .alreadyExists => "File exists"
  | .notDirectory => "Not a directory"
  | .isDirectory => "Is a directory"
  | .nameTooLong => "File name too long"

/-- A path in a message. -/
def Path.quoted (p : Path) : String := String.ofList (Text.quoted p.toText)

/-- The words for an error. -/
def DiskError.message : DiskError → String
  | .refused cause path => s!"[Errno {cause.number}] {cause.words}: {path.quoted}"
  | .sameFile source target =>
    s!"PosixPath({source.quoted}) and PosixPath({target.quoted}) are the same file"
  | .nullCharacter => "embedded null byte"

/-! ### Entries -/

namespace Disk

/-- The entry at a place. -/
def find? (d : Disk) (place : Place) : Option Entry :=
  if place = [] then some .directory else List.lookup place d.entries

/-- Puts an entry at a place, in the place of one that is there. -/
def putEntry (place : Place) (entry : Entry) : List (Place × Entry) → List (Place × Entry)
  | [] => [(place, entry)]
  | (p, old) :: rest =>
    if p = place then (place, entry) :: rest else (p, old) :: putEntry place entry rest

/-- The disk with an entry at a place. -/
def put (d : Disk) (place : Place) (entry : Entry) : Disk := ⟨putEntry place entry d.entries⟩

/-- The disk without a place and all below it. -/
def remove (d : Disk) (place : Place) : Disk :=
  ⟨d.entries.filter fun (p, _) => !place.isPrefixOf p⟩

theorem lookup_cons_eq (place q : Place) (entry : Entry) (l : List (Place × Entry)) :
    List.lookup q ((place, entry) :: l) = if q = place then some entry else List.lookup q l := by
  by_cases h : q = place
  · simp [h]
  · have : (q == place) = false := by simpa using h
    simp [List.lookup_cons, this, h]

theorem lookup_putEntry (place q : Place) (entry : Entry) (l : List (Place × Entry)) :
    List.lookup q (putEntry place entry l) =
      if q = place then some entry else List.lookup q l := by
  induction l with
  | nil => rw [putEntry, lookup_cons_eq]
  | cons head rest ih =>
    obtain ⟨p, old⟩ := head
    by_cases hp : p = place
    · subst hp
      by_cases hq : q = p <;> simp [putEntry, lookup_cons_eq, hq]
    · rw [putEntry, if_neg hp, lookup_cons_eq, lookup_cons_eq, ih]
      by_cases hq : q = p
      · simp [hq, hp]
      · simp [hq]

/-- An entry is found where it was put, and all others are as before. -/
theorem find?_put (d : Disk) {place : Place} (hp : place ≠ []) (entry : Entry) (q : Place) :
    (d.put place entry).find? q = if q = place then some entry else d.find? q := by
  by_cases hq : q = []
  · subst hq
    simp [find?, Ne.symm hp]
  · simp [find?, hq, put, lookup_putEntry]

/-! ### Walking -/

/-- The most bytes that a name may have. -/
def nameLimit : Nat := 255

/-- The most bytes that a path may have. -/
def pathLimit : Nat := 4095

/-- From a directory to the entry with a name in it; no name and a point mean the directory
itself. -/
def enter (d : Disk) (place : Place) (name : Text) : Except DiskCause Place :=
  match d.find? place with
  | none => .error .notFound
  | some (.file _) => .error .notDirectory
  | some .directory =>
    if nameLimit < (utf8Encode name).length then .error .nameTooLong
    else if name = ['.', '.'] then .ok place.dropLast
    else if name = [] || name = ['.'] then .ok place
    else .ok (place ++ [name])

/-- The place that the names of a path lead to; nothing need stand there. -/
def walk (d : Disk) (place : Place) : List Text → Except DiskCause Place
  | [] => .ok place
  | name :: rest =>
    match d.enter place name with
    | .ok next => d.walk next rest
    | .error cause => .error cause

end Disk

/-- A disk with the directory that relative paths start from. -/
structure Volume where
  disk : Disk
  working : Place

namespace Volume

/-- The place that a path means; nothing need stand there. -/
def locate (v : Volume) (p : Path) : Except DiskError Place :=
  if p.hasNull then .error .nullCharacter
  else if Disk.pathLimit < (utf8Encode p.toText).length then .error (.refused .nameTooLong p)
  else match v.disk.walk (if p.isAbsolute then [] else v.working) p.parts with
    | .ok place => .ok place
    | .error cause => .error (.refused cause p)

/-- The entry that a path means. -/
def entry (v : Volume) (p : Path) : Except DiskError Entry :=
  match v.locate p with
  | .error e => .error e
  | .ok place =>
    match v.disk.find? place with
    | some entry => .ok entry
    | none => .error (.refused .notFound p)

/-- The entry that a text means as a path, taken as it is written: where a slash stands at the end
only a directory will do. -/
def entryAt? (v : Volume) (t : Text) : Option Entry :=
  if t.isEmpty || t.contains '\x00' || Disk.pathLimit < (utf8Encode t).length then none
  else match v.disk.walk (if t.head? = some '/' then [] else v.working) (Text.split '/' t) with
    | .ok place => v.disk.find? place
    | .error _ => none

/-- A question about the entry of a path. Where there is none the answer is no; only a name that
is too long is an error. -/
def ask (v : Volume) (p : Path) (question : Entry → Bool) : Except DiskError Bool :=
  match v.entry p with
  | .ok entry => .ok (question entry)
  | .error (.refused .nameTooLong path) => .error (.refused .nameTooLong path)
  | .error _ => .ok false

/-- Whether a path leads to a file. -/
def isFile (v : Volume) (p : Path) : Except DiskError Bool :=
  v.ask p fun
    | .file _ => true
    | .directory => false

/-- Whether a path leads to a directory. -/
def isDirectory (v : Volume) (p : Path) : Except DiskError Bool :=
  v.ask p fun
    | .file _ => false
    | .directory => true

end Volume

end PageNotes
