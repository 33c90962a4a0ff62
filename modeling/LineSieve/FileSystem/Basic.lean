import Std.Data.ExtTreeMap
import LineSieve.Path
import LineSieve.Text.Utf8

/-!
# File trees

A file tree holds files with their bytes and permission bits, directories, and symbolic links with
their target text, each under a location.  A location lists names from the entry up to the root, so
that the directory of an entry is the tail of its location.  The root is the empty location; it is
always a directory and is not stored.

Beside the tree stand the scratch files that are being written.  A scratch file belongs to a worker
and lies in a directory, under a name that nothing else has; it enters the tree when it is published.

`FileSystem.resolve` follows a path to a location, through symbolic links, of which at most
`linkLimit` are followed.
-/

namespace LineSieve

/-- Names from an entry up to the root. -/
abbrev Location := List (List Char)

/-- Locations are ordered by their names. -/
instance Location.transCmp : Std.TransCmp (compare : Location → Location → Ordering) := inferInstance

inductive Entry
  | file (content : List UInt8) (mode : Nat)
  | directory
  | link (target : Path)
  deriving Repr, DecidableEq

namespace Entry

def isFile : Entry → Bool
  | file _ _ => true
  | _ => false

def isDirectory : Entry → Bool
  | directory => true
  | _ => false

def isLink : Entry → Bool
  | link _ => true
  | _ => false

end Entry

/-- A file that is being written and has no name in the tree yet.  On the disk it has one, and that is
taken to be free: no entry has it, no other scratch file has it, and as long as the file is there nothing
is published or made under it.  So a scratch file is in nobody's way, and its name is left out. -/
structure Scratch where
  directory : Location
  content : List UInt8
  mode : Nat
  deriving Repr, DecidableEq

structure FileSystem where
  entries : Std.ExtTreeMap Location Entry compare
  workingDirectory : Location
  /-- The scratch file of each worker that has one. -/
  scratch : Std.ExtTreeMap Nat Scratch compare

/-- Why an operation on files fails. -/
inductive IoError
  | notFound
  | alreadyExists
  | notADirectory
  | isADirectory
  | nameTooLong
  | tooManyLinks
  /-- A path holds the character with code zero. -/
  | nulInPath
  /-- A part of a file that is being processed is no text. -/
  | invalidText (fault : Utf8.Fault)
  /-- A file that is read as a whole is no text. -/
  | notText
  /-- An error that something else has found and put into words. -/
  | reported (text : List Char)
  deriving Repr, DecidableEq

def IoError.message : IoError → String
  | notFound => "No such file or directory (os error 2)"
  | alreadyExists => "File exists (os error 17)"
  | notADirectory => "Not a directory (os error 20)"
  | isADirectory => "Is a directory (os error 21)"
  | nameTooLong => "File name too long (os error 36)"
  | tooManyLinks => "Too many levels of symbolic links (os error 40)"
  | nulInPath => "file name contained an unexpected NUL byte"
  | invalidText fault => fault.message
  | notText => "stream did not contain valid UTF-8"
  | reported text => String.ofList text

namespace FileSystem

/-- The empty tree, with the root as working directory. -/
def empty : FileSystem := ⟨∅, [], ∅⟩

/-- The entry at a location. -/
def entry? (fs : FileSystem) (location : Location) : Option Entry :=
  match location with
  | [] => some .directory
  | location => fs.entries[location]?

def isDirectoryAt (fs : FileSystem) (location : Location) : Bool :=
  (fs.entry? location).any Entry.isDirectory

/-- The tree with an entry put at a location. -/
def put (fs : FileSystem) (location : Location) (entry : Entry) : FileSystem :=
  { fs with entries := fs.entries.insert location entry }

/-- The tree without the entry at a location. -/
def erase (fs : FileSystem) (location : Location) : FileSystem :=
  { fs with entries := fs.entries.erase location }

/-- How many symbolic links may be followed on the way along one path. -/
def linkLimit : Nat := 40

/-- The greatest number of bytes of a name. -/
def nameLimit : Nat := 255

/-- The greatest number of bytes of a path. -/
def pathLimit : Nat := 4095

/-- Where a path leads: to an entry, or to a place in a directory where there is none. -/
inductive Resolved
  | found (location : Location) (entry : Entry)
  | vacant (location : Location)
  deriving Repr, DecidableEq

/-- Take steps from a location.  At a symbolic link `onLink` goes on with the steps of its target and
the steps left; a link at the very end is only followed if `followLast` says so. -/
def takeSteps (fs : FileSystem) (followLast : Bool)
    (onLink : Location → List Component → Except IoError Resolved) :
    Location → List Component → Except IoError Resolved
  | location, [] =>
    match fs.entry? location with
    | some entry => .ok (.found location entry)
    | none => .error .notFound
  | location, step :: rest =>
    if !fs.isDirectoryAt location then .error .notADirectory
    else
      match step with
      | .root => takeSteps fs followLast onLink [] rest
      | .here => takeSteps fs followLast onLink location rest
      | .up => takeSteps fs followLast onLink location.tail rest
      | .name text =>
        if nameLimit < (Utf8.encode text).length then .error .nameTooLong
        else
          match fs.entry? (text :: location) with
          | none => if rest.isEmpty then .ok (.vacant (text :: location)) else .error .notFound
          | some (.link target) =>
            if rest.isEmpty && !followLast then .ok (.found (text :: location) (.link target))
            else onLink location (target.steps ++ rest)
          | some _ => takeSteps fs followLast onLink (text :: location) rest

/-- Take steps from a location, following at most the given number of links. -/
def follow (fs : FileSystem) (followLast : Bool) :
    Nat → Location → List Component → Except IoError Resolved
  | 0 => fs.takeSteps followLast fun _ _ => .error .tooManyLinks
  | links + 1 => fs.takeSteps followLast (follow fs followLast links)

/-- Where a path leads from the working directory. -/
def resolve (fs : FileSystem) (followLast : Bool) (path : Path) : Except IoError Resolved :=
  if path.text.contains '\x00' then .error .nulInPath
  else if path.text.isEmpty then .error .notFound
  else if pathLimit < (Utf8.encode path.text).length then .error .nameTooLong
  else fs.follow followLast linkLimit fs.workingDirectory path.steps

/-- The entry to which a path leads through all links, and its location. -/
def lookup (fs : FileSystem) (path : Path) : Except IoError (Location × Entry) :=
  match fs.resolve true path with
  | .ok (.found location entry) => .ok (location, entry)
  | .ok (.vacant _) => .error .notFound
  | .error e => .error e

/-- The entry at the end of a path, where a link is not followed. -/
def lookupLink (fs : FileSystem) (path : Path) : Except IoError (Location × Entry) :=
  match fs.resolve false path with
  | .ok (.found location entry) => .ok (location, entry)
  | .ok (.vacant _) => .error .notFound
  | .error e => .error e

/-- Whether a path leads to an entry with a property; an error counts as no. -/
def leadsTo (fs : FileSystem) (path : Path) (property : Entry → Bool) : Bool :=
  match fs.lookup path with
  | .ok (_, entry) => property entry
  | .error _ => false

def isFile (fs : FileSystem) (path : Path) : Bool := fs.leadsTo path Entry.isFile

def isDirectory (fs : FileSystem) (path : Path) : Bool := fs.leadsTo path Entry.isDirectory

/-- Whether a symbolic link stands at the end of a path. -/
def isLink (fs : FileSystem) (path : Path) : Bool :=
  match fs.lookupLink path with
  | .ok (_, entry) => entry.isLink
  | .error _ => false

/-- The absolute path of a location. -/
def absolutePath (location : Location) : Path :=
  Path.ofComponents (.root :: location.reverse.map .name)

/-- The absolute path, free of links, of what a path leads to.  It is a path that the system accepts. -/
def canonicalize (fs : FileSystem) (path : Path) : Except IoError Path :=
  match fs.lookup path with
  | .error e => .error e
  | .ok (location, _) =>
    if pathLimit < (Utf8.encode (absolutePath location).text).length then .error .nameTooLong
    else .ok (absolutePath location)

/-- The bytes of a file. -/
def contentOf (fs : FileSystem) (path : Path) : Except IoError (List UInt8) :=
  match fs.lookup path with
  | .ok (_, .file content _) => .ok content
  | .ok (_, .directory) => .error .isADirectory
  | .ok (_, .link _) => .error .tooManyLinks
  | .error e => .error e

/-- The text of a file that must be UTF-8 as a whole. -/
def readText (fs : FileSystem) (path : Path) : Except IoError (List Char) :=
  match fs.contentOf path with
  | .error e => .error e
  | .ok content =>
    match Utf8.decode content with
    | .ok text => .ok text
    | .error _ => .error .notText

/-- The permission bits that directories and links are taken to have. -/
def directoryMode : Nat := 0o755

/-- The permission bits of what a path leads to. -/
def modeOf (fs : FileSystem) (path : Path) : Except IoError Nat :=
  match fs.lookup path with
  | .ok (_, .file _ mode) => .ok mode
  | .ok (_, _) => .ok directoryMode
  | .error e => .error e

end FileSystem

end LineSieve
