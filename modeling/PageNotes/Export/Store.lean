import PageNotes.Session.Basic
import PageNotes.Reference.Rewrite

/-!
Stores: pages are read from a volume, assets copied and notes written, in one encoding. What goes
wrong in copying and writing is logged, and the answer is no.

* `FileStore.load`, `FileStore.find`: a page, and the pages below a directory;
* `FileStore.copyAsset`, `FileStore.writeOutput`: one more file, whether it could be made.
-/

namespace PageNotes

/-- How files are read and written. -/
structure FileStore where
  encoding : Encoding := .utf8
  /-- The channel on which is logged what was done. -/
  channel : String := mainChannel ++ ".exporters.file_store"
  deriving DecidableEq, Repr

/-- What a store refuses. -/
inductive StoreError where
  /-- There is no directory to look for pages in. -/
  | noDirectory (path : Path)
  /-- A page cannot be read from the disk. -/
  | unreadable (path : Text) (cause : DiskError)
  /-- A page is not a text. -/
  | undecodable (path : Text) (cause : DecodeError)
  /-- A file cannot be written. -/
  | unwritable (path : Path) (cause : DiskError)
  /-- A text has characters that the encoding lacks. -/
  | unencodable (cause : EncodeError)
  | disk (cause : DiskError)
  deriving DecidableEq, Repr

/-- The words for the refusal. -/
def StoreError.message : StoreError → String
  | .noDirectory path => s!"Input directory not found: {path}"
  | .unreadable path cause => s!"Error reading file {String.ofList path}: {cause.message}"
  | .undecodable path cause => s!"Error reading file {String.ofList path}: {cause.message}"
  | .unwritable path cause => s!"Error writing file {path}: {cause.message}"
  | .unencodable cause => cause.message
  | .disk cause => cause.message

namespace FileStore

/-- A refusal of the disk as one of the store; a path with a null character is no file at all. -/
def refuse (wrap : DiskError → StoreError) : DiskError → StoreError
  | .nullCharacter => .disk .nullCharacter
  | cause => wrap cause

/-! ### Reading -/

/-- The pages below a directory, by the ending of their names. -/
def find (v : Volume) (root : Path) (ending : Text) : Except StoreError (List Path) :=
  match v.filesBelow root ending with
  | .ok found => .ok found
  | .error (.refused .notFound _) => .error (.noDirectory root)
  | .error e => .error (.disk e)

/-- The text of a page, every line end as a line feed. -/
def load (store : FileStore) (v : Volume) (path : Text) : Except StoreError Text :=
  match v.read (.ofText path) with
  | .error e => .error (refuse (.unreadable path) e)
  | .ok bytes =>
    match store.encoding.decode bytes with
    | .error e => .error (.undecodable path e)
    | .ok text => .ok text.unifyLineEnds

/-! ### Writing -/

/-- The session after a step on its volume. -/
def onVolume (s : Session) (v : Volume) : Session := { s with volume := v }

/-- The session with a directory and all that it lies in. -/
def ensureDirectory (s : Session) (p : Path) : Except DiskError Unit × Session :=
  let (result, v) := s.volume.makeDirectory p
  (result, onVolume s v)

/-- The session with a file of some text. A file is emptied before its text is encoded. -/
def save (store : FileStore) (s : Session) (p : Path) (content : Text) :
    Except StoreError Unit × Session :=
  match ensureDirectory s p.parent with
  | (.error e, s) => (.error (refuse (.unwritable p) e), s)
  | (.ok (), s) =>
    match s.volume.write p [] with
    | .error e => (.error (refuse (.unwritable p) e), s)
    | .ok emptied =>
      match store.encoding.encode content with
      | .error e => (.error (.unencodable e), onVolume s emptied)
      | .ok bytes =>
        match emptied.write p bytes with
        | .error e => (.error (refuse (.unwritable p) e), onVolume s emptied)
        | .ok written => (.ok (), onVolume s written)

/-- Writes a file and tells whether it could be written; a text that cannot be encoded is an
error. -/
def writeOutput (store : FileStore) (s : Session) (p : Path) (content : Text) :
    Except StoreError Bool × Session :=
  match store.save s p content with
  | (.ok (), s) => (.ok true, s)
  | (.error (.unwritable path cause), s) =>
    (.ok false, s.log .error store.channel (StoreError.unwritable path cause).message)
  | (.error e, s) => (.error e, s)

/-- The place of a copy: under another name in a directory, or under its own. -/
def copyTarget (source directory : Path) (name : Option Text) : Path :=
  match name with
  | none | some [] => directory.child source.name
  | some name => directory.child name

/-- Copies a file into a directory and tells whether it could be copied. -/
def copyAsset (store : FileStore) (s : Session) (source directory : Path) (name : Option Text) :
    Except StoreError Bool × Session :=
  let target := copyTarget source directory name
  let failed (s : Session) (e : DiskError) : Except StoreError Bool × Session :=
    match e with
    | .nullCharacter => (.error (.disk .nullCharacter), s)
    | e => (.ok false, s.log .error store.channel s!"Error copying file {source}: {e.message}")
  match ensureDirectory s target.parent with
  | (.error e, s) => failed s e
  | (.ok (), s) =>
    match s.volume.copy source target with
    | .error e => failed s e
    | .ok v =>
      (.ok true, (onVolume s v).log .info store.channel s!"Copied: {source} -> {target}")

end FileStore

end PageNotes
