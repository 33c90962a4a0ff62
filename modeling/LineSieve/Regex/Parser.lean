import LineSieve.Regex.Class

/-!
# Reading expressions

`parse?` reads the written form of a regular expression.  Reading keeps the groups that are still
open, with the branches and the elements that have been read in each.  A flag directive holds up to
the end of the group in which it stands, across the bars between alternatives.

Constructs may be nested up to `nestingLimit` deep; each element carries the depth of what is nested
in it.
-/

namespace LineSieve
namespace Regex

/-- The greatest depth of nested constructs. -/
def nestingLimit : Nat := 250

/-- The greatest count that a repetition may name. -/
def countLimit : Nat := 4294967295

/-- A part of an expression. -/
structure Element where
  pattern : Pattern
  depth : Nat
  /-- A flag directive is no operand of a repetition. -/
  repeatable : Bool
  deriving Repr

def Element.plain (pattern : Pattern) : Element := ⟨pattern, 0, true⟩

/-- The depth of a construct made of the elements, unless it is a single one. -/
def joinedDepth (elements : List Element) : Nat :=
  match elements with
  | [] => 0
  | [element] => element.depth
  | elements => 1 + (elements.map (·.depth)).foldl max 0

def concatenate (elements : List Element) : Element :=
  ⟨.sequence (elements.map (·.pattern)), joinedDepth elements, true⟩

def alternate (branches : List Element) : Element :=
  ⟨.alternatives (branches.map (·.pattern)), joinedDepth branches, true⟩

/-- What an open group becomes when it is closed. -/
inductive GroupKind
  | capturing (index : Nat) (name : Option (List Char))
  | plain
  deriving Repr

/-- A group whose closing parenthesis has not been seen, or the whole expression. -/
structure OpenGroup where
  kind : GroupKind
  /-- The flags that hold again after the group. -/
  outer : Flags
  /-- The finished branches, last one first. -/
  branches : List Element
  /-- The elements of the branch that is being read, last one first. -/
  elements : List Element
  deriving Repr

namespace OpenGroup

def add (g : OpenGroup) (element : Element) : OpenGroup :=
  { g with elements := element :: g.elements }

def finishBranch (g : OpenGroup) : OpenGroup :=
  { g with branches := concatenate g.elements.reverse :: g.branches, elements := [] }

/-- What stands inside the group. -/
def contents (g : OpenGroup) : Element := alternate g.finishBranch.branches.reverse

/-- The closed group. -/
def close (g : OpenGroup) : Element :=
  let inside := g.contents
  match g.kind with
  | .capturing index name => ⟨.group index name inside.pattern, inside.depth + 1, true⟩
  | .plain => ⟨inside.pattern, inside.depth + 1, true⟩

end OpenGroup

/-- The state of reading. -/
structure Reading where
  flags : Flags
  /-- How many capturing groups have been opened. -/
  captures : Nat
  /-- The names given to groups so far. -/
  names : List (List Char)
  current : OpenGroup
  enclosing : List OpenGroup
  deriving Repr

namespace Reading

def initial : Reading :=
  ⟨.initial, 0, [], ⟨.plain, .initial, [], []⟩, []⟩

def add (r : Reading) (element : Element) : Reading :=
  { r with current := r.current.add element }

/-- Open a group, inside which `flags` hold. -/
def openGroup (r : Reading) (kind : GroupKind) (flags : Flags) : Reading :=
  { r with
    flags := flags
    current := ⟨kind, r.flags, [], []⟩
    enclosing := r.current :: r.enclosing }

/-- Close the innermost group, if one is open. -/
def closeGroup? (r : Reading) : Option Reading :=
  match r.enclosing with
  | [] => none
  | outer :: more =>
    some { r with
      flags := r.current.outer
      current := outer.add r.current.close
      enclosing := more }

/-- Apply a repetition to the element before it. -/
def repeat? (r : Reading) (min : Nat) (max : Option Nat) (greedy : Bool) : Option Reading :=
  match r.current.elements with
  | [] => none
  | operand :: before =>
    if operand.repeatable then
      let pattern := Pattern.repeated' operand.pattern min max (greedy != r.flags.swapGreed)
      some { r with
        current := { r.current with elements := ⟨pattern, operand.depth + 1, true⟩ :: before } }
    else none

end Reading

/-- Read the letters of a flag directive up to its end.  `on` turns false at the hyphen; `seen` holds
the letters so far. -/
def directive? (flags : Flags) (on : Bool) (seen : List Char) :
    List Char → Option (Flags × List Char × List Char)
  | [] => none
  | c :: rest =>
    if c = ':' ∨ c = ')' then
      if seen.head? = some '-' then none else some (flags, seen, c :: rest)
    else if seen.contains c then none
    else if c = '-' then directive? flags false (c :: seen) rest
    else
      match flags.set? c on with
      | some flags => directive? flags on (c :: seen) rest
      | none => none

/-- Whether a character may stand in the name of a group. -/
def isNameChar (atStart : Bool) (c : Char) : Bool :=
  c == '_' ||
    if atStart then Unicode.nameLetters.contains c
    else c == '.' || c == '[' || c == ']' || Unicode.nameLettersAndNumbers.contains c

/-- Read the name of a group and the bracket that closes it. -/
def groupName? (text : List Char) : Option (List Char × List Char) :=
  match text.span (· != '>') with
  | (first :: others, '>' :: left) =>
    if isNameChar true first && others.all (isNameChar false) then some (first :: others, left)
    else none
  | _ => none

/-- Read what follows an opening parenthesis. -/
def opening? (r : Reading) (text : List Char) : Option (Reading × List Char) :=
  let text := r.flags.skip text
  let named (text : List Char) : Option (Reading × List Char) := do
    let (name, left) ← groupName? text
    if r.names.contains name then none
    else
      let index := r.captures + 1
      pure ({ r with captures := index, names := name :: r.names }.openGroup
        (.capturing index (some name)) r.flags, left)
  match text with
  | '?' :: '=' :: _ | '?' :: '!' :: _ | '?' :: '<' :: '=' :: _ | '?' :: '<' :: '!' :: _ => none
  | '?' :: 'P' :: '<' :: rest => named rest
  | '?' :: '<' :: rest => named rest
  | '?' :: rest =>
    match directive? r.flags true [] rest with
    | some (flags, seen, ')' :: left) =>
      if seen.isEmpty then none
      else some ({ r with flags := flags }.add ⟨.empty, 0, false⟩, left)
    | some (flags, _, ':' :: left) => some (r.openGroup .plain flags, left)
    | _ => none
  | text =>
    let index := r.captures + 1
    some ({ r with captures := index }.openGroup (.capturing index none) r.flags, text)

/-- A question mark after a repetition makes it lazy. -/
def laziness (text : List Char) : Bool × List Char :=
  match text with
  | '?' :: rest => (false, rest)
  | _ => (true, text)

/-- Read the digits of a count. -/
def countDigits (flags : Flags) : Nat → List Char → List Char × List Char
  | 0, text => ([], text)
  | steps + 1, text =>
    match text with
    | [] => ([], [])
    | c :: rest =>
      if c.isDigit then
        let (digits, left) := countDigits flags steps (flags.skip rest)
        (c :: digits, left)
      else ([], text)

/-- Read a count: the number if there are digits, and what is left.  Nothing if it is too large. -/
def count? (flags : Flags) (text : List Char) : Option (Option Nat × List Char) :=
  let text := text.dropWhile Text.isBlankChar
  let (digits, left) := countDigits flags text.length text
  let left := left.dropWhile Text.isBlankChar
  if digits.isEmpty then some (none, left)
  else
    let n := digits.foldl (fun n c => n * 10 + (c.toNat - '0'.toNat)) 0
    if n ≤ countLimit then some (some n, left) else none

/-- Read a counted repetition after its opening brace: the bounds, whether it is greedy, and what is
left. -/
def counted? (flags : Flags) (text : List Char) :
    Option (Nat × Option Nat × Bool × List Char) := do
  let (first, left) ← count? flags (flags.skip text)
  let min ← first
  let (max, left) ←
    match left with
    | ',' :: rest =>
      match flags.skip rest with
      | '\x7d' :: _ => some (none, flags.skip rest)
      | rest => do
        let (last, left) ← count? flags rest
        let max ← last
        pure (some max, left)
    | _ => some (some min, left)
  match left with
  | '\x7d' :: rest =>
    let (greedy, rest) := laziness (flags.skip rest)
    if max.all (min ≤ ·) then pure (min, max, greedy, rest) else none
  | _ => none

/-- The pattern of a single character.  Without Unicode only ASCII letters have another case, and a
character that is written as a byte beyond ASCII is no text. -/
def literalPattern? (flags : Flags) (c : Char) (asByte : Bool) : Option Pattern :=
  if flags.unicode || c.toNat < 128 then some (.chars (flags.fold (.singleton c.toNat)))
  else if asByte then none
  else some (.chars (.singleton c.toNat))

/-- The pattern of a dot.  Without Unicode it would match single bytes, so there is none. -/
def dotPattern? (flags : Flags) : Option Pattern :=
  if !flags.unicode then none
  else if flags.dotAll then some (.chars .full)
  else if flags.crlf then some (.chars (CharSet.ofChars ['\n', '\r']).complement)
  else some (.chars (CharSet.ofChars ['\n']).complement)

def startAssertion (flags : Flags) : Assertion :=
  if flags.multiLine then if flags.crlf then .lineStartCrlf else .lineStart else .textStart

def endAssertion (flags : Flags) : Assertion :=
  if flags.multiLine then if flags.crlf then .lineEndCrlf else .lineEnd else .textEnd

def atomPattern? (flags : Flags) : Atom → Option Pattern
  | .literal c asByte => literalPattern? flags c asByte
  | .set chars => some (.chars chars)
  | .assertion condition => some (.assertion condition)

/-- Read one construct, whose first character is given. -/
def construct? (r : Reading) (c : Char) (rest : List Char) : Option (Reading × List Char) :=
  match c with
  | '(' => opening? r rest
  | ')' => r.closeGroup?.map (·, rest)
  | '|' => some ({ r with current := r.current.finishBranch }, rest)
  | '[' => do
    let (item, left) ← class? r.flags rest
    pure (r.add ⟨.chars item.set, item.depth, true⟩, left)
  | '?' => let (greedy, left) := laziness rest; (r.repeat? 0 (some 1) greedy).map (·, left)
  | '*' => let (greedy, left) := laziness rest; (r.repeat? 0 none greedy).map (·, left)
  | '+' => let (greedy, left) := laziness rest; (r.repeat? 1 none greedy).map (·, left)
  | '\x7b' => do
    let (min, max, greedy, left) ← counted? r.flags rest
    let r ← r.repeat? min max greedy
    pure (r, left)
  | '\\' => do
    let (atom, left) ← escape? r.flags rest
    let pattern ← atomPattern? r.flags atom
    pure (r.add (.plain pattern), left)
  | '.' => (dotPattern? r.flags).map fun p => (r.add (.plain p), rest)
  | '^' => some (r.add (.plain (.assertion (startAssertion r.flags))), rest)
  | '$' => some (r.add (.plain (.assertion (endAssertion r.flags))), rest)
  | c => (literalPattern? r.flags c false).map fun p => (r.add (.plain p), rest)

/-- Read constructs up to the end of the text.  The first argument bounds the number of steps; every
step passes over a character. -/
def constructs? : Nat → Reading → List Char → Option Reading
  | 0, _, _ => none
  | steps + 1, r, text =>
    match r.flags.skip text with
    | [] => some r
    | c :: rest => do
      let (r, left) ← construct? r c rest
      constructs? steps r left

/-- The pattern that a text writes, if it writes one. -/
def parse? (text : List Char) : Option Pattern := do
  let r ← constructs? (text.length + 1) .initial text
  if r.enclosing.isEmpty then
    let whole := r.current.contents
    if whole.depth ≤ nestingLimit then some whole.pattern else none
  else none

end Regex
end LineSieve
