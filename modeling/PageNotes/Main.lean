import PageNotes.CommandLine.Program

/-!
The program: takes the files below the working directory and around the absolute paths on its
command line, runs, and writes back what has changed.
-/

namespace PageNotes

/-- The deepest directory that is looked into. -/
def depthLimit : Nat := 64

/-- A place as a path from the root. -/
def placeText (place : Place) : String := "/" ++ "/".intercalate (place.map String.ofList)

/-- The names of a path from the root down. -/
def placeOf (path : String) : Place := (Path.ofText path.toList).parts

/-- All that stands below a directory. -/
def entriesBelow (depth : Nat) (place : Place) (directory : IO.FS.DirEntry) :
    IO (List (Place × Entry)) := do
  match depth with
  | 0 => return []
  | depth + 1 =>
    let mut found : List (Place × Entry) := []
    for entry in ← directory.path.readDir do
      let own := place ++ [entry.fileName.toList]
      if ← entry.path.isDir then
        found := found ++ (own, .directory) :: (← entriesBelow depth own entry)
      else if ← entry.path.pathExists then
        found := found ++ [(own, .file (← IO.FS.readBinFile entry.path).toList)]
    return found

/-- A directory with all that it lies in and all that stands below it. -/
def directoryEntries (path : String) : IO (List (Place × Entry)) := do
  let place := placeOf path
  let above := (List.range place.length).map fun n => place.take (n + 1)
  let below ← entriesBelow depthLimit place { root := "/", fileName := path }
  return above.map (fun own => (own, Entry.directory)) ++ below

/-- The directory that a word of the command line means, or that holds the file it means. -/
def directoryOf? (word : String) : IO (Option String) := do
  if !word.startsWith "/" then return none
  let entry : IO.FS.DirEntry := { root := "/", fileName := word }
  if ← entry.path.isDir then return some word
  else
    let above := placeText (placeOf word).dropLast
    let entry : IO.FS.DirEntry := { root := "/", fileName := above }
    return if above ≠ "/" && (← entry.path.isDir) then some above else none

/-- The disk as far as a run with some words may need it. -/
def readVolume (words : List String) : IO Volume := do
  let working := (← IO.currentDir).toString
  let mut disk : Disk := ⟨← directoryEntries working⟩
  for word in words do
    match ← directoryOf? word with
    | some directory =>
      for (place, entry) in ← directoryEntries directory do
        disk := disk.put place entry
    | none => pure ()
  return ⟨disk, placeOf working⟩

/-- Writes the entries that are new or changed. -/
def writeChanges (before after : Disk) : IO Unit := do
  for (place, entry) in after.entries do
    if before.find? place ≠ some entry then
      match entry with
      | .directory => IO.FS.createDirAll (placeText place)
      | .file content => IO.FS.writeBinFile (placeText place) (ByteArray.mk content.toArray)

/-- The present moment, as the disk stamps it on a new file. -/
def presentMoment : IO Moment := do
  let (_, path) ← IO.FS.createTempFile
  let stamp := (← path.metadata).modified
  IO.FS.removeFile path
  return .afterEpoch stamp.sec (stamp.nsec.toNat / 1000)

/-- The variables with some names that are set. -/
def readEnvironment (names : List Text) : IO Environment :=
  names.filterMapM fun name => do
    return (← IO.getEnv (String.ofList name)).map fun value => (name, value.toList)

/-- The exit code of a run that ended by an error of its own. -/
def errorCode : UInt32 := 1

end PageNotes

open PageNotes in
/-- Runs the program on its command line. -/
def main (words : List String) : IO UInt32 := do
  let texts := words.map String.toList
  let volume ← readVolume words
  let now ← presentMoment
  let environment ← readEnvironment (wantedVariables texts volume)
  let done := Program.run ⟨texts, environment, now⟩ (.quiet volume .unset now)
  writeChanges volume.disk done.session.volume.disk
  IO.print (String.ofList done.output)
  IO.eprint (String.ofList done.session.console)
  match done.exit with
  | .ok code => return code.toUInt32
  | .error e =>
    IO.eprintln (String.ofList e.message)
    return errorCode
