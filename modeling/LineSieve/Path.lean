import LineSieve.Text.Blank

/-!
# Paths

A path is text.  It is cut into segments at every slash; its components are the segments that mean
something: empty segments and `.` count only at the start.  Paths are compared and ordered by their
components, component by component, while the text is kept as it was given.
-/

namespace LineSieve

/-- One step of a path. -/
inductive Component
  | root
  | here
  | up
  | name (text : List Char)
  deriving Repr, DecidableEq, Ord

def Component.text : Component → List Char
  | .root => ['/']
  | .here => ['.']
  | .up => ['.', '.']
  | .name text => text

structure Path where
  text : List Char
  deriving Repr, DecidableEq, Inhabited

namespace Path

def ofString (text : String) : Path := ⟨text.toList⟩

def toString (path : Path) : String := String.ofList path.text

def isBlank (path : Path) : Bool := Text.isBlank path.text

/-- The parts of a text between slashes, the first one apart. -/
def segmentsOf : List Char → List Char × List (List Char)
  | [] => ([], [])
  | c :: rest =>
    let (first, others) := segmentsOf rest
    if c = '/' then ([], first :: others) else (c :: first, others)

/-- The text of segments. -/
def ofSegments (first : List Char) (others : List (List Char)) : List Char :=
  first ++ others.flatMap ('/' :: ·)

@[simp] theorem ofSegments_segmentsOf
    (text : List Char) :
    ofSegments (segmentsOf text).1 (segmentsOf text).2 = text := by
  induction text with
  | nil => rfl
  | cons c rest ih =>
    by_cases h : c = '/'
    · simp only [segmentsOf, h, if_true, ofSegments, List.nil_append, List.flatMap_cons]
      simpa [ofSegments] using ih
    · simpa [segmentsOf, h, ofSegments] using ih

/-- Whether a segment after the first means nothing. -/
def isIdle (segment : List Char) : Bool := segment == [] || segment == ['.']

def isAbsolute (path : Path) : Bool := path.text.head? == some '/'

/-- The component of a segment that is not the first. -/
def bodyComponent? (segment : List Char) : Option Component :=
  if isIdle segment then none
  else if segment = ['.', '.'] then some .up
  else some (.name segment)

/-- The component of the first segment. -/
def firstComponent? (path : Path) (segment : List Char) : Option Component :=
  if segment = [] then if path.isAbsolute then some .root else none
  else if segment = ['.'] then some .here
  else bodyComponent? segment

def components (path : Path) : List Component :=
  let (first, others) := segmentsOf path.text
  (path.firstComponent? first).toList ++ others.filterMap bodyComponent?

/-- Whether two paths have the same components. -/
def same (a b : Path) : Bool := a.components == b.components

/-- Whether a path comes before another one, component by component. -/
def before (a b : Path) : Bool := (compare a.components b.components).isLE

/-- Segments without the idle ones at their end. -/
def trimEnd (segments : List (List Char)) : List (List Char) :=
  (segments.reverse.dropWhile isIdle).reverse

/-- The name that the last component is, if it is one. -/
def fileName? (path : Path) : Option (List Char) :=
  match path.components.getLast? with
  | some (.name text) => some text
  | _ => none

/-- The path without its last component, if it has one besides the root. -/
def parent? (path : Path) : Option Path :=
  let (first, others) := segmentsOf path.text
  if trimEnd others = [] then
    if first = [] then none else some ⟨[]⟩
  else
    let kept := trimEnd (trimEnd others).dropLast
    if path.isAbsolute && kept.isEmpty then some ⟨['/']⟩ else some ⟨ofSegments first kept⟩

/-- The path, its parent, and so on; `steps` bounds how far. -/
def ancestorsFrom : Nat → Path → List Path
  | 0, path => [path]
  | steps + 1, path =>
    path ::
      match path.parent? with
      | none => []
      | some parent => ancestorsFrom steps parent

/-- The path and everything above it, nearest first. -/
def ancestors (path : Path) : List Path := ancestorsFrom path.text.length path

/-- A path inside a directory.  An absolute path stays as it is. -/
def join (directory path : Path) : Path :=
  if path.isAbsolute then path
  else if directory.text.isEmpty || directory.text.getLast? == some '/' then
    ⟨directory.text ++ path.text⟩
  else ⟨directory.text ++ '/' :: path.text⟩

/-- The path with the given components. -/
def ofComponents (components : List Component) : Path :=
  match components with
  | [] => ⟨[]⟩
  | .root :: [] => ⟨['/']⟩
  | .root :: others => ⟨ofSegments [] (others.map Component.text)⟩
  | first :: others => ⟨ofSegments first.text (others.map Component.text)⟩

/-- The part of a path below a root, if its components begin with those of the root. -/
def relativeTo? (path root : Path) : Option Path :=
  if root.components.isPrefixOf path.components then
    some (ofComponents (path.components.drop root.components.length))
  else none

/-- How the file system reads a segment: empty segments stay where they are. -/
def stepOf (segment : List Char) : Component :=
  if isIdle segment then .here
  else if segment = ['.', '.'] then .up
  else .name segment

/-- The steps that the file system takes along the path. -/
def steps (path : Path) : List Component :=
  let (first, others) := segmentsOf path.text
  (if path.isAbsolute then .root else stepOf first) :: others.map stepOf

end Path

end LineSieve
