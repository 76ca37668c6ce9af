import PageNotes.Disk.Basic

/-!
What can be done with a disk: reading, writing and copying files, making directories and finding
files by name. An operation that fails may have changed the disk before, so it always returns one.

* `Volume.read`, `Volume.write`, `Volume.copy`;
* `Volume.makeDirectory`: a directory with all that it lies in;
* `Volume.filesBelow`: the files below a directory whose name ends in a given way, in order.
-/

namespace PageNotes

namespace Volume

/-- The same directory to start from on another disk. -/
def withDisk (v : Volume) (disk : Disk) : Volume := { v with disk }

/-! ### Files -/

/-- The content of a file. -/
def read (v : Volume) (p : Path) : Except DiskError Bytes :=
  match v.entry p with
  | .error e => .error e
  | .ok .directory => .error (.refused .isDirectory p)
  | .ok (.file content) => .ok content

/-- The disk with a file of some content; the directory that it lies in must be there. -/
def write (v : Volume) (p : Path) (content : Bytes) : Except DiskError Volume :=
  match v.locate p with
  | .error e => .error e
  | .ok place =>
    match v.disk.find? place with
    | some .directory => .error (.refused .isDirectory p)
    | some (.file _) => .ok (v.withDisk (v.disk.put place (.file content)))
    | none => .ok (v.withDisk (v.disk.put place (.file content)))

/-- Whether two paths lead to one entry. -/
def sameEntry (v : Volume) (p q : Path) : Except DiskError Bool :=
  match v.locate p, v.locate q with
  | .error .nullCharacter, _ => .error .nullCharacter
  | _, .error .nullCharacter => .error .nullCharacter
  | .ok a, .ok b => .ok (a = b && (v.disk.find? a).isSome)
  | _, _ => .ok false

/-- The disk with the content of the file `source` at `target`. -/
def copy (v : Volume) (source target : Path) : Except DiskError Volume :=
  match v.sameEntry source target with
  | .error e => .error e
  | .ok true => .error (.sameFile source target)
  | .ok false =>
    match v.read source with
    | .error e => .error e
    | .ok content => v.write target content

/-! ### Directories -/

/-- The disk with a new directory; the one that it lies in must be there. -/
def makeOne (v : Volume) (p : Path) : Except DiskError Volume :=
  match v.locate p with
  | .error e => .error e
  | .ok place =>
    match v.disk.find? place with
    | some _ => .error (.refused .alreadyExists p)
    | none => .ok (v.withDisk (v.disk.put place .directory))

/-- Takes an error back if the directory is there after all. -/
def unlessThere (v : Volume) (p : Path) (e : DiskError) : Except DiskError Unit :=
  match e with
  | .nullCharacter => .error e
  | _ =>
    match v.isDirectory p with
    | .ok true => .ok ()
    | .ok false => .error e
    | .error e => .error e

/-- The disk with a directory and all that it lies in; `above` has the names of its path, the last
first. -/
def makeBelow (v : Volume) (root : PathRoot) : List Text → Except DiskError Unit × Volume
  | [] => (v.unlessThere ⟨root, []⟩ (.refused .alreadyExists ⟨root, []⟩), v)
  | name :: above =>
    let p : Path := ⟨root, (name :: above).reverse⟩
    match v.makeOne p with
    | .ok made => (.ok (), made)
    | .error (.refused .notFound _) =>
      match v.makeBelow root above with
      | (.error e, v) => (.error e, v)
      | (.ok (), v) =>
        match v.makeOne p with
        | .ok made => (.ok (), made)
        | .error (.refused .notFound q) => (.error (.refused .notFound q), v)
        | .error e => (v.unlessThere p e, v)
    | .error e => (v.unlessThere p e, v)

/-- The disk with a directory and all that it lies in, unless it is there already. -/
def makeDirectory (v : Volume) (p : Path) : Except DiskError Unit × Volume :=
  v.makeBelow p.root p.parts.reverse

/-! ### Finding files -/

/-- Whether a character is one of those that stand in a class, singly or between two with a hyphen
between them. -/
def inClass (c : Char) : Text → Bool
  | [] => false
  | low :: '-' :: high :: rest => (low ≤ c && c ≤ high) || inClass c rest
  | d :: rest => c = d || inClass c rest

/-- The class that a pattern begins with behind its bracket: whether all other characters are meant,
the characters that stand in it, and the rest of the pattern. A bracket that stands first closes
nothing. -/
def classAt? (pattern : Text) : Option (Bool × Text × Text) :=
  let others := pattern.head? = some '!'
  let pattern := if others then pattern.drop 1 else pattern
  let first := pattern.take (if pattern.head? = some ']' then 1 else 0)
  match Text.cut ']' (pattern.drop first.length) with
  | (members, some rest) => some (others, first ++ members, rest)
  | (_, none) => none

/-- Whether a name fits a pattern, in which `*` stands for any characters, `?` for one, and a class
between brackets for one of its characters. -/
def fits (fuel : Nat) (pattern name : Text) : Bool :=
  match fuel with
  | 0 => false
  | fuel + 1 =>
    match pattern, name with
    | [], name => name.isEmpty
    | '*' :: pattern, [] => fits fuel pattern []
    | '*' :: pattern, c :: name => fits fuel pattern (c :: name) || fits fuel ('*' :: pattern) name
    | _ :: _, [] => false
    | '?' :: pattern, _ :: name => fits fuel pattern name
    | '[' :: pattern, c :: name =>
      match classAt? pattern with
      | some (others, members, rest) => (inClass c members != others) && fits fuel rest name
      | none => c = '[' && fits fuel pattern name
    | d :: pattern, c :: name => c = d && fits fuel pattern name

/-- Whether a name has an ending. -/
def hasEnding (ending name : Text) : Bool :=
  if ending.any fun c => c = '*' || c = '?' || c = '[' then
    fits ((ending.length + 2) * (name.length + 2)) ('*' :: ending) name
  else name.endsWith ending

/-- The files below a place, as the names from there. -/
def filesUnder (d : Disk) (place : Place) : List (List Text) :=
  d.entries.filterMap fun (p, entry) =>
    match entry with
    | .file _ => if place.isPrefixOf p && place.length < p.length then some (p.drop place.length)
      else none
    | .directory => none

/-- The files below a directory whose names have an ending, in the order of paths. -/
def filesBelow (v : Volume) (root : Path) (ending : Text) : Except DiskError (List Path) :=
  match v.isDirectory root with
  | .error e => .error e
  | .ok false => .error (.refused .notFound root)
  | .ok true =>
    match v.locate root with
    | .error e => .error e
    | .ok place =>
      let found := (filesUnder v.disk place).filter fun names =>
        hasEnding ending (names.getLast?.getD [])
      .ok ((found.map fun names => { root with parts := root.parts ++ names }).mergeSort Path.le)

end Volume

end PageNotes
