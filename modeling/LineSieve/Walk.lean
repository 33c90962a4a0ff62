import LineSieve.FileSystem.Basic
import LineSieve.Glob

/-!
# Walking a directory

A walk lists the regular files below a directory, at any depth or only its direct children.  Hidden
files count like all others.  The directory itself may be reached through symbolic links, but below
it links are neither followed nor listed.  The path of a file is the path of the root, as it was
given, with the names that lead down to the file.

The path `-` names standard input and nothing is listed below it.
-/

namespace LineSieve
namespace Walk

/-- The names that lead from one location down to another one below it, innermost first. -/
def namesBelow? (root location : Location) : Option (List (List Char)) :=
  let depth := location.length - root.length
  if 0 < depth ∧ location.drop depth = root then some (location.take depth) else none

/-- The path of an entry below a root, from the names that lead to it, innermost first. -/
def pathBelow (root : Path) (names : List (List Char)) : Path :=
  names.foldr (fun name path => path.join ⟨name⟩) root

/-- A regular file that a walk has found. -/
structure Found where
  path : Path
  name : List Char
  deriving Repr, DecidableEq

/-- The file that an entry of the tree is for a walk, if it is one and its directory can be opened. -/
def found? (fs : FileSystem) (root : Path) (rootLocation : Location) (recursive : Bool)
    (item : Location × Entry) : Option Found :=
  match namesBelow? rootLocation item.1, item.2 with
  | some (name :: above), .file _ _ =>
    if (recursive || above.isEmpty) && fs.isDirectory (pathBelow root above) then
      some ⟨pathBelow root (name :: above), name⟩
    else none
  | _, _ => none

/-- The path that stands for standard input. -/
def standardInput : Path := ⟨['-']⟩

/-- The regular files below a directory, ordered by path. -/
def files (fs : FileSystem) (root : Path) (recursive : Bool) : List Found :=
  if root.same standardInput then []
  else
    match fs.lookup root with
    | .ok (location, .directory) =>
      (fs.entries.toList.filterMap (found? fs root location recursive)).mergeSort fun a b =>
        a.path.before b.path
    | _ => []

/-- The paths of the files below a directory whose name matches. -/
def matching (fs : FileSystem) (root : Path) (glob : Glob) (recursive : Bool) : List Path :=
  ((files fs root recursive).filter fun f => glob.isMatch f.name).map (·.path)

end Walk
end LineSieve
