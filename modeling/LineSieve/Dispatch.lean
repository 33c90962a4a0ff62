import LineSieve.Process
import LineSieve.Walk

/-!
# Processing files and directories

A root is a file, which is processed by itself, or a directory, below which all files with a matching
name are processed.  The files are chosen before anything is published.  A root that is neither, a
file name pattern with a fault, and a pool of workers that does not start abort the whole call; what
happens to a single file is in its result.

Calls with several roots check all of them first; the pool is started for each directory when its turn
comes.
-/

namespace LineSieve

/-- Why a pool of workers does not start, in the words of the system. -/
structure PoolFault where
  text : List Char
  deriving Repr, DecidableEq

/-- What comes of starting a pool of workers of the configured size.  It is up to the system. -/
abbrev PoolStart := Except PoolFault Unit

/-- Why a call is aborted. -/
inductive DispatchError
  | blankPath
  | blankDirectory
  | notFound (path : Path)
  | invalidGlob (error : GlobError)
  | threadPool (fault : PoolFault)
  deriving Repr, DecidableEq

def DispatchError.message : DispatchError → String
  | blankPath => "invalid path: path cannot be blank"
  | blankDirectory => "invalid path: directory path cannot be blank"
  | notFound path => path.toString ++ " is neither a file nor a directory"
  | invalidGlob error => "invalid file pattern: " ++ error.message
  | threadPool fault => "failed to start worker pool: " ++ String.ofList fault.text

namespace Dispatch

inductive RootKind
  | file
  | directory
  deriving Repr, DecidableEq

/-- What a root is. -/
def classify (fs : FileSystem) (path : Path) : Except DispatchError RootKind :=
  if path.isBlank then .error .blankPath
  else if fs.isFile path then .ok .file
  else if fs.isDirectory path then .ok .directory
  else .error (.notFound path)

/-- Check that every root is a file or a directory. -/
def checkRoots (fs : FileSystem) : List Path → Except DispatchError Unit
  | [] => .ok ()
  | path :: rest =>
    match classify fs path with
    | .ok _ => checkRoots fs rest
    | .error e => .error e

def compileGlob (pattern : List Char) : Except DispatchError Glob :=
  (Glob.compile pattern).mapError .invalidGlob

/-- Check a file name pattern. -/
def checkPattern (pattern : List Char) : Except DispatchError Unit :=
  (compileGlob pattern).map fun _ => ()

def checkDirectory (fs : FileSystem) (path : Path) : Except DispatchError Unit :=
  if path.isBlank then .error .blankDirectory
  else if fs.isDirectory path then .ok ()
  else .error (.notFound path)

/-- Process files that a walk has found, one after the other, each by a worker of its own. -/
def processFiles (config : Config) (root : Path) (fs : FileSystem) (worker : Nat) :
    List Path → FileSystem × List FileResult
  | [] => (fs, [])
  | path :: rest =>
    let (fs, result) := Process.run config fs worker false (some root) path
    let (fs, results) := processFiles config root fs (worker + 1) rest
    (fs, result :: results)

/-- Process every file below a directory whose name matches, if the pool starts. -/
def processDirectory (start : PoolStart) (config : Config) (fs : FileSystem) (root : Path)
    (pattern : List Char) (recursive : Bool) :
    FileSystem × Except DispatchError (List FileResult) :=
  match checkDirectory fs root, compileGlob pattern, start with
  | .error e, _, _ => (fs, .error e)
  | .ok (), .error e, _ => (fs, .error e)
  | .ok (), .ok _, .error fault => (fs, .error (.threadPool fault))
  | .ok (), .ok glob, .ok () =>
    let (fs, results) := processFiles config root fs 0 (Walk.matching fs root glob recursive)
    (fs, .ok results)

/-- The file name pattern that every name matches. -/
def everyName : List Char := ['*']

/-- Process a file, or everything below a directory.  `starts` tells what comes of starting the pool for
a directory. -/
def processPath (starts : Path → PoolStart) (config : Config) (fs : FileSystem) (path : Path) :
    FileSystem × Except DispatchError (List FileResult) :=
  match classify fs path with
  | .error e => (fs, .error e)
  | .ok .file =>
    let (fs, result) := processFile config fs path
    (fs, .ok [result])
  | .ok .directory => processDirectory (starts path) config fs path everyName true

/-- Process roots one after the other, collecting the results, up to the first error. -/
def processEach (process : FileSystem → Path → FileSystem × Except DispatchError (List FileResult))
    (fs : FileSystem) : List Path → FileSystem × Except DispatchError (List FileResult)
  | [] => (fs, .ok [])
  | path :: rest =>
    match process fs path with
    | (fs, .error e) => (fs, .error e)
    | (fs, .ok results) =>
      match processEach process fs rest with
      | (fs, .error e) => (fs, .error e)
      | (fs, .ok more) => (fs, .ok (results ++ more))

/-- Process several roots completely. -/
def processPaths (starts : Path → PoolStart) (config : Config) (fs : FileSystem)
    (paths : List Path) : FileSystem × Except DispatchError (List FileResult) :=
  match checkRoots fs paths with
  | .error e => (fs, .error e)
  | .ok () => processEach (processPath starts config) fs paths

/-- Process one target of a run: a directory is walked as the run asks, anything else is processed as
a root of its own. -/
def processTarget (starts : Path → PoolStart) (config : Config) (pattern : List Char)
    (recursive : Bool) (fs : FileSystem) (path : Path) :
    FileSystem × Except DispatchError (List FileResult) :=
  if fs.isDirectory path then processDirectory (starts path) config fs path pattern recursive
  else processPath starts config fs path

/-- Process the targets of a run.  Roots and pattern are checked before anything is touched. -/
def runTargets (starts : Path → PoolStart) (config : Config) (fs : FileSystem) (paths : List Path)
    (pattern : List Char) (recursive : Bool) :
    FileSystem × Except DispatchError (List FileResult) :=
  match checkRoots fs paths, checkPattern pattern with
  | .error e, _ => (fs, .error e)
  | .ok (), .error e => (fs, .error e)
  | .ok (), .ok () => processEach (processTarget starts config pattern recursive) fs paths

end Dispatch
end LineSieve
