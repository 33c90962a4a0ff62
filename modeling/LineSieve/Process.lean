import LineSieve.Config
import LineSieve.FileSystem.Change
import LineSieve.Sifting

/-!
# Processing one file

A file is checked, its destination is worked out and its directories are made, its content is
sifted into a scratch file beside the destination, and the scratch file is published.  A failure
is part of the result and leaves no scratch file behind; the lines counted before it stay counted.

With an output directory the destination is the file's name, or in the mirrored layout its path
below the walked root, inside that directory.  In place the destination is the file itself, or what a
symbolic link leads to.
-/

namespace LineSieve

/-- What is wrong with a path before the file system is asked. -/
inductive PathFault
  | blank
  | noFileName (path : Path)
  /-- A fault that something else has found and put into words. -/
  | reported (text : List Char)
  deriving Repr, DecidableEq

def PathFault.message : PathFault → String
  | blank => "file path cannot be blank"
  | noFileName path => path.toString ++ " has no file name"
  | reported text => String.ofList text

/-- Why a file could not be processed. -/
inductive FileError
  | invalidPath (fault : PathFault)
  | notFound (path : Path)
  | io (path : Path) (cause : IoError)
  deriving Repr, DecidableEq

def FileError.message : FileError → String
  | invalidPath fault => "invalid path: " ++ fault.message
  | notFound path => path.toString ++ " not found"
  | io path cause => path.toString ++ ": " ++ cause.message

/-- What came of processing one file. -/
structure FileResult where
  sourcePath : Path
  /-- Absent if processing failed before the destination was known. -/
  outputPath : Option Path
  error : Option FileError
  counts : ActionCounts
  deriving Repr, DecidableEq

namespace FileResult

def success (r : FileResult) : Bool := r.error.isNone

def linesIn (r : FileResult) : Nat := r.counts.total

def linesOut (r : FileResult) : Nat := r.counts.remaining

end FileResult

namespace Process

/-- Check a path before anything is done with it. -/
def checkPath (fs : FileSystem) (mustExist : Bool) (path : Path) : Except FileError Unit :=
  if path.isBlank then .error (.invalidPath .blank)
  else if mustExist && !fs.isFile path then .error (.notFound path)
  else .ok ()

/-- The file that processing in place replaces. -/
def inPlaceTarget (fs : FileSystem) (path : Path) : Except FileError Path :=
  if fs.isLink path then
    match fs.canonicalize path with
    | .ok target => .ok target
    | .error e => .error (.io path e)
  else .ok path

/-- The path of a file inside an output directory.  `root` is the walked directory, if there is
one. -/
def outputPath? (directory : Path) (layout : Layout) (root : Option Path) (path : Path) :
    Option Path :=
  match path.fileName? with
  | none => none
  | some name =>
    match layout, root with
    | .mirrored, some root =>
      match path.relativeTo? root with
      | some below => some (directory.join below)
      | none => some (directory.join ⟨name⟩)
    | _, _ => some (directory.join ⟨name⟩)

/-- The directory that holds a destination, unless it is the working directory by default. -/
def directoryOf? (destination : Path) : Option Path :=
  destination.parent?.filter fun parent => !parent.text.isEmpty

/-- Work out the destination and make its directories. -/
def destination (config : Config) (fs : FileSystem) (root : Option Path) (path : Path) :
    FileSystem × Except FileError Path :=
  match config.output with
  | .inPlace => (fs, inPlaceTarget fs path)
  | .directory directory layout =>
    match outputPath? directory layout root path with
    | none => (fs, .error (.invalidPath (.noFileName path)))
    | some destination =>
      match directoryOf? destination with
      | none => (fs, .ok destination)
      | some parent =>
        match fs.makeDirectories parent with
        | (fs, .ok ()) => (fs, .ok destination)
        | (fs, .error e) => (fs, .error (.io parent e))

/-- The directory in which the scratch file for a destination is written. -/
def scratchDirectory (destination : Path) : Path :=
  (directoryOf? destination).getD ⟨['.']⟩

/-- Give the scratch file its permissions and move it to the destination. -/
def publish (config : Config) (fs : FileSystem) (worker : Nat) (path destination : Path) :
    Except FileError FileSystem :=
  let prepared : Except FileError FileSystem :=
    if config.keepPermissions then
      match fs.modeOf path with
      | .ok mode => .ok (fs.setScratchMode worker mode)
      | .error e => .error (.io path e)
    else .ok fs
  match prepared with
  | .error e => .error e
  | .ok fs =>
    match fs.publishScratch worker destination with
    | .ok fs => .ok fs
    | .error e => .error (.io destination e)

/-- Fill a worker's scratch file from a source and publish it; the counts cover the lines read. -/
def fill (config : Config) (fs : FileSystem) (worker : Nat) (path destination : Path) :
    FileSystem × Option FileError × ActionCounts :=
  match fs.contentOf path with
  | .error e => (fs.discardScratch worker, some (.io path e), .zero)
  | .ok content =>
    let sifting := sift config.rules content
    let written := fs.appendScratch worker sifting.bytes
    match sifting.fault with
    | some fault =>
      (written.discardScratch worker, some (.io path (.invalidText fault)), sifting.counts)
    | none =>
      match publish config written worker path destination with
      | .ok published => (published, none, sifting.counts)
      | .error e => (written.discardScratch worker, some e, sifting.counts)

/-- Sift a source into its destination through a scratch file. -/
def replace (config : Config) (fs : FileSystem) (worker : Nat) (path destination : Path) :
    FileSystem × Option FileError × ActionCounts :=
  match fs.createScratch worker (scratchDirectory destination) with
  | .error e => (fs, some (.io (scratchDirectory destination) e), .zero)
  | .ok fs => fill config fs worker path destination

/-- Process a file.  `root` is the directory in which a walk has found it. -/
def run (config : Config) (fs : FileSystem) (worker : Nat) (mustExist : Bool) (root : Option Path)
    (path : Path) : FileSystem × FileResult :=
  match checkPath fs mustExist path with
  | .error e => (fs, ⟨path, none, some e, .zero⟩)
  | .ok () =>
    match destination config fs root path with
    | (fs, .error e) => (fs, ⟨path, none, some e, .zero⟩)
    | (fs, .ok destination) =>
      let (fs, error, counts) := replace config fs worker path destination
      (fs, ⟨path, some destination, error, counts⟩)

end Process

/-- Process a single file that must exist. -/
def processFile (config : Config) (fs : FileSystem) (path : Path) : FileSystem × FileResult :=
  Process.run config fs 0 true none path

end LineSieve
