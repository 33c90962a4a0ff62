import LineSieve.FileSystem.Basic

/-!
# Changing a file tree

The changes that processing makes, one at a time: a directory is made, a scratch file is created,
written to, given permissions, published or dropped.  Publishing puts the scratch file at the end of
a path in one step; a link or a file that stands there is replaced, a directory is not.
-/

namespace LineSieve
namespace FileSystem

/-- Make a directory at a path whose parent exists. -/
def makeDirectory (fs : FileSystem) (path : Path) : Except IoError FileSystem :=
  match fs.resolve false path with
  | .ok (.vacant location) => .ok (fs.put location .directory)
  | .ok (.found _ _) => .error .alreadyExists
  | .error e => .error e

/-- Make the first directory of a list, after those behind it, which are its ancestors, if they are
missing.  A directory that exists is fine. -/
def makeDirectoriesAt (fs : FileSystem) : List Path → FileSystem × Except IoError Unit
  | [] => (fs, .error .notFound)
  | path :: above =>
    if path.text.isEmpty then (fs, .ok ())
    else
      match fs.makeDirectory path with
      | .ok fs => (fs, .ok ())
      | .error .notFound =>
        match makeDirectoriesAt fs above with
        | (fs, .error e) => (fs, .error e)
        | (fs, .ok ()) =>
          match fs.makeDirectory path with
          | .ok fs => (fs, .ok ())
          | .error e => (fs, if fs.isDirectory path then .ok () else .error e)
      | .error e => (fs, if fs.isDirectory path then .ok () else .error e)

/-- Make a directory and all its ancestors, as far as they are missing. -/
def makeDirectories (fs : FileSystem) (path : Path) : FileSystem × Except IoError Unit :=
  fs.makeDirectoriesAt path.ancestors

/-- The permission bits of a new scratch file. -/
def scratchMode : Nat := 0o600

/-- The path at which a scratch file in a directory is opened.  The name ends in six letters and digits
of its own, for which `XXXXXX` stands here; whether the system accepts the path does not hang on
them. -/
def scratchPath (fs : FileSystem) (directory : Path) : Path :=
  ((absolutePath fs.workingDirectory).join directory).join (.ofString ".textfiddle-XXXXXX")

/-- Create an empty scratch file for a worker in a directory.  Its `scratchPath` is taken to be one that
the system accepts. -/
def createScratch (fs : FileSystem) (worker : Nat) (directory : Path) :
    Except IoError FileSystem :=
  match fs.lookup directory with
  | .ok (location, .directory) =>
    .ok { fs with scratch := fs.scratch.insert worker ⟨location, [], scratchMode⟩ }
  | .ok (_, _) => .error .notADirectory
  | .error e => .error e

/-- Write bytes at the end of a worker's scratch file. -/
def appendScratch (fs : FileSystem) (worker : Nat) (bytes : List UInt8) : FileSystem :=
  match fs.scratch[worker]? with
  | some s => { fs with scratch := fs.scratch.insert worker { s with content := s.content ++ bytes } }
  | none => fs

/-- The part of a mode that can be set. -/
def permissionBits (mode : Nat) : Nat := mode % 0o10000

def setScratchMode (fs : FileSystem) (worker mode : Nat) : FileSystem :=
  match fs.scratch[worker]? with
  | some s =>
    { fs with scratch := fs.scratch.insert worker { s with mode := permissionBits mode } }
  | none => fs

/-- Drop a worker's scratch file. -/
def discardScratch (fs : FileSystem) (worker : Nat) : FileSystem :=
  { fs with scratch := fs.scratch.erase worker }

/-- Move a worker's scratch file to the end of a path. -/
def publishScratch (fs : FileSystem) (worker : Nat) (path : Path) : Except IoError FileSystem :=
  match fs.scratch[worker]? with
  | none => .error .notFound
  | some s =>
    match fs.resolve false path with
    | .ok (.found _ .directory) => .error .isADirectory
    | .ok (.found location _) | .ok (.vacant location) =>
      .ok ((fs.put location (.file s.content s.mode)).discardScratch worker)
    | .error e => .error e

end FileSystem
end LineSieve
