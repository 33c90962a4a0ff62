import LineSieve.Run

/-!
# The program

`main` loads the part of the disk that a run can touch into a file tree, runs on the tree, and writes
what has changed back to the disk.  Symbolic links are loaded with the absolute path that they lead to,
and a link that leads nowhere is left out.  Permission bits are not read: a file that exists is written
in place, which keeps them, and other bits are set where the run asks for them.
-/

namespace LineSieve
namespace Disk

/-- The bits that every loaded file is taken to have. -/
def assumedMode : Nat := 0o644

def textOf (location : Location) : String := (FileSystem.absolutePath location).toString

/-- A text as a path on the disk. -/
def onDisk (text : String) := (IO.FS.DirEntry.mk text "").root

/-- Load the entry at a location, if there is one. -/
def loadEntry (fs : FileSystem) (location : Location) : IO FileSystem := do
  let path := onDisk (textOf location)
  match ← path.symlinkMetadata.toBaseIO with
  | .error _ => return fs
  | .ok metadata =>
    match metadata.type with
    | .dir => return fs.put location .directory
    | .file =>
      let content ← IO.FS.readBinFile path
      return fs.put location (.file content.toList assumedMode)
    | .symlink =>
      match ← (IO.FS.realPath path).toBaseIO with
      | .ok target => return fs.put location (.link (.ofString target.toString))
      | .error _ => return fs
    | .other => return fs

/-- Load everything below a directory. -/
partial def loadBelow (fs : FileSystem) (location : Location) : IO FileSystem := do
  let mut fs := fs
  for item in ← (onDisk (textOf location)).readDir do
    let inner := item.fileName.toList :: location
    fs ← loadEntry fs inner
    if fs.isDirectoryAt inner then
      fs ← loadBelow fs inner
  return fs

/-- Load what lies along a path, and give the location to which it leads. -/
partial def loadAlong (fs : FileSystem) (location : Location) :
    List Component → IO (FileSystem × Location)
  | [] => return (fs, location)
  | .root :: rest => loadAlong fs [] rest
  | .here :: rest => loadAlong fs location rest
  | .up :: rest => loadAlong fs location.tail rest
  | .name name :: rest => do
    let fs ← loadEntry fs (name :: location)
    match fs.entry? (name :: location) with
    | some (.link target) =>
      let (fs, location) ← loadAlong fs location target.steps
      loadAlong fs location rest
    | _ => loadAlong fs (name :: location) rest

/-- Load what a path leads to. -/
def loadPath (fs : FileSystem) (path : Path) : IO FileSystem := do
  let (fs, location) ← loadAlong fs fs.workingDirectory path.steps
  if fs.isDirectoryAt location then loadBelow fs location else return fs

/-- The location of the working directory, in a tree that holds what lies along it. -/
def start : IO FileSystem := do
  let path := Path.ofString (← IO.currentDir).toString
  let (fs, location) ← loadAlong .empty [] path.steps
  return { fs with workingDirectory := location }

/-- Load what a command line can touch. -/
def loadFor (command : CommandLine) : IO FileSystem := do
  let fs ← loadPath (← start) command.rulesFile
  let fs ← command.paths.foldlM loadPath fs
  match RunPlan.load fs command.rulesFile command.overrides with
  | .ok plan =>
    match plan.config.output with
    | .directory directory _ => loadPath fs directory
    | .inPlace => return fs
  | .error _ => return fs

/-- The access rights that three permission bits stand for. -/
def rightsOf (bits : Nat) : IO.AccessRight := ⟨bits.testBit 2, bits.testBit 1, bits.testBit 0⟩

/-- Write one changed entry. -/
def save (before : Option Entry) (location : Location) (entry : Entry) : IO Unit := do
  let path := onDisk (textOf location)
  match entry with
  | .directory => IO.FS.createDirAll path
  | .link _ => return
  | .file content mode =>
    if before.any Entry.isLink then
      IO.FS.removeFile path
    IO.FS.createDirAll (onDisk (textOf location.tail))
    IO.FS.writeBinFile path ⟨content.toArray⟩
    if mode != assumedMode then
      IO.setAccessRights path ⟨rightsOf (mode / 64), rightsOf (mode / 8), rightsOf mode⟩

/-- Write every entry that has changed. -/
def saveChanges (before after : FileSystem) : IO Unit :=
  after.entries.toList.forM fun (location, entry) => do
    let old := before.entries[location]?
    if old != some entry then
      save old location entry

end Disk

/-- Run on the disk, and give the outcome with the time in nanoseconds that it took.  Files are processed
one after the other, so no pool can fail to start. -/
def runOnDisk (arguments : List (List Char)) : IO (Outcome × Nat) := do
  let began ← IO.monoNanosNow
  let before ←
    match CommandLine.parse arguments with
    | .ok command => Disk.loadFor command
    | .error _ => pure .empty
  let (after, outcome) := run (fun _ _ => .ok ()) before arguments
  Disk.saveChanges before after
  return (outcome, (← IO.monoNanosNow) - began)

end LineSieve

open LineSieve

/-- Run the program; the time of the run is shared out evenly to its files. -/
def main (arguments : List String) : IO UInt32 := do
  let (outcome, nanoseconds) ← runOnDisk (arguments.map String.toList)
  let share :=
    match outcome with
    | .reported _ results => nanoseconds / max 1 results.length
    | _ => 0
  IO.print (outcome.text fun _ => share)
  match outcome with
  | .failed error => IO.eprintln ("\x1b[31merror\x1b[0m: " ++ error.message)
  | .notStarted .helpRequested | .notStarted .versionRequested => pure ()
  | .notStarted _ => IO.eprint CommandLine.helpText
  | .reported _ _ => pure ()
  return outcome.exitStatus.toUInt32
