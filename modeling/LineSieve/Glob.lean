import LineSieve.Regex.Search
import LineSieve.Text.Utf8

/-!
# File name patterns

A file name pattern (a glob) is matched against the bytes of a name.  `?` is any one byte, `*` any
bytes, a class in brackets one byte, and braces hold alternatives, which may be nested.  Two stars
that fill a place between slashes stand for any number of directories; elsewhere they are two single
stars.  A backslash takes the next character as it is, but not inside a class.

A pattern is compiled to a regular expression over bytes, each byte taken as the character with its
number, and searched for with both ends tied to those of the name.
-/

namespace LineSieve

/-- What is wrong with a file name pattern. -/
inductive GlobFault
  | unclosedClass
  | invalidRange (first last : Char)
  | unopenedAlternates
  | unclosedAlternates
  | danglingEscape
  deriving Repr, DecidableEq

structure GlobError where
  pattern : List Char
  fault : GlobFault
  deriving Repr, DecidableEq

def GlobFault.message : GlobFault → String
  | unclosedClass => "unclosed character class; missing ']'"
  | invalidRange first last =>
    "invalid range; '" ++ String.ofList [first] ++ "' > '" ++ String.ofList [last] ++ "'"
  | unopenedAlternates =>
    "unopened alternate group; missing '\x7b' (maybe escape '\x7d' with '[\x7d]'?)"
  | unclosedAlternates =>
    "unclosed alternate group; missing '\x7d' (maybe escape '\x7b' with '[\x7b]'?)"
  | danglingEscape => "dangling '\\'"

def GlobError.message (e : GlobError) : String :=
  "error parsing glob '" ++ String.ofList e.pattern ++ "': " ++ e.fault.message

namespace Glob

open Regex (Pattern)

inductive Token
  | literal (c : Char)
  | anyByte
  | anyBytes
  /-- Any directories, or none, before the rest of the pattern. -/
  | leadingDirectories
  /-- Anything below a directory. -/
  | trailingDirectories
  /-- Any directories, or none, between two slashes. -/
  | innerDirectories
  | oneOf (negated : Bool) (ranges : List (Char × Char))
  /-- Alternatives, already compiled; absent if all of them are empty. -/
  | alternatives (pattern : Option Pattern)
  deriving Repr

/-- The numbers of the bytes of a character. -/
def byteCodes (c : Char) : List Nat := (String.utf8EncodeChar c).map UInt8.toNat

def bytePattern (code : Nat) : Pattern := .chars (.singleton code)

def anyBytePattern : Pattern := .chars (.range 0 255)

def anyBytesPattern : Pattern := .repeated anyBytePattern 0 none true

def slashPattern : Pattern := bytePattern '/'.toNat

/-- The bytes that a range of a class stands for.  Its ends are written as bytes: the last byte of the
first end and the first byte of the last end bound a range, all others stand for themselves. -/
def rangeBytes (first last : Char) : List CodeRange :=
  let own (codes : List Nat) : List CodeRange := codes.map fun b => ⟨b, b⟩
  if first = last then own (byteCodes first)
  else
    let low := byteCodes first
    let high := byteCodes last
    own low.dropLast ++ [⟨low.getLastD 0, high.headD 0⟩] ++ own high.tail

/-- The pattern of a token, absent if it stands for nothing at all. -/
def Token.pattern? : Token → Option Pattern
  | literal c => some (.sequence ((byteCodes c).map bytePattern))
  | anyByte => some anyBytePattern
  | anyBytes => some anyBytesPattern
  | leadingDirectories =>
    some (.either (.repeated slashPattern 0 (some 1) true) (.seq anyBytesPattern slashPattern))
  | trailingDirectories => some (.seq slashPattern anyBytesPattern)
  | innerDirectories =>
    some (.either slashPattern (.seq slashPattern (.seq anyBytesPattern slashPattern)))
  | oneOf negated ranges =>
    let set := CharSet.ofRanges (ranges.flatMap fun r => rangeBytes r.1 r.2)
    some (.chars (if negated then set.complementBelow 255 else set))
  | alternatives pattern => pattern

/-- The pattern of tokens in a row, absent if there is nothing to match. -/
def sequence? (tokens : List Token) : Option Pattern :=
  match tokens.filterMap Token.pattern? with
  | [] => none
  | patterns => some (.sequence patterns)

/-- The alternatives of branches; empty branches do not count. -/
def alternatives? (branches : List (List Token)) : Option Pattern :=
  match branches.filterMap sequence? with
  | [] => none
  | patterns => some (.alternatives patterns)

/-- Braces that have not been closed: the tokens before them and the branches that are finished, last
ones first. -/
structure OpenBraces where
  before : List Token
  branches : List (List Token)
  deriving Repr

/-- The state of reading a pattern; tokens stand last one first. -/
structure Reading where
  /-- The character that was read last. -/
  prev : Option Char
  tokens : List Token
  enclosing : List OpenBraces
  deriving Repr

namespace Reading

def initial : Reading := ⟨none, [], []⟩

/-- Add a token after the character `last` has been read. -/
def add (r : Reading) (token : Token) (last : Option Char) : Reading :=
  { r with tokens := token :: r.tokens, prev := last }

def twoStars (r : Reading) : Reading :=
  { r with tokens := .anyBytes :: .anyBytes :: r.tokens, prev := some '*' }

def openBraces (r : Reading) : Reading :=
  ⟨some '\x7b', [], ⟨r.tokens, []⟩ :: r.enclosing⟩

def closeBraces? (r : Reading) : Option Reading :=
  match r.enclosing with
  | [] => none
  | braces :: outer =>
    let branches := (r.tokens :: braces.branches).reverse.map List.reverse
    some ⟨some '\x7d', .alternatives (alternatives? branches) :: braces.before, outer⟩

/-- A comma ends a branch inside braces and is itself outside of them. -/
def comma (r : Reading) : Reading :=
  match r.enclosing with
  | [] => r.add (.literal ',') (some ',')
  | braces :: outer =>
    ⟨some ',', [], { braces with branches := r.tokens :: braces.branches } :: outer⟩

/-- Replace the token before two stars by what the stars and it mean together.  Directory tokens
absorb further stars. -/
def directories (r : Reading) (token : Token) (last : Char) : Reading :=
  match r.tokens with
  | .leadingDirectories :: rest => ⟨some last, .leadingDirectories :: rest, r.enclosing⟩
  | .trailingDirectories :: rest => ⟨some last, .trailingDirectories :: rest, r.enclosing⟩
  | _ :: rest => ⟨some last, token :: rest, r.enclosing⟩
  | [] => ⟨some last, [token], r.enclosing⟩

/-- Read two stars, which stand before `rest`. -/
def doubleStar (r : Reading) (rest : List Char) : Reading × List Char :=
  let inBraces := !r.enclosing.isEmpty
  if r.tokens.isEmpty then
    match rest with
    | [] => (r.add .leadingDirectories (some '*'), [])
    | '/' :: rest => (r.add .leadingDirectories (some '/'), rest)
    | _ => (r.twoStars, rest)
  else if r.prev != some '/' && !(inBraces && (r.prev == some ',' || r.prev == some '\x7b')) then
    (r.twoStars, rest)
  else
    match rest with
    | [] => (r.directories .trailingDirectories '*', [])
    | '/' :: rest => (r.directories .innerDirectories '/', rest)
    | c :: _ =>
      if inBraces && (c == ',' || c == '\x7d') then (r.directories .trailingDirectories '*', rest)
      else (r.twoStars, rest)

end Reading

/-- The state of reading a class: its ranges, last one first, and whether a hyphen waits for the end
of a range. -/
structure ClassReading where
  ranges : List (Char × Char)
  inRange : Bool
  atStart : Bool

/-- Read a class after its bracket and its negation sign. -/
def readClass (state : ClassReading) :
    List Char → Except GlobFault (List (Char × Char) × List Char)
  | [] => .error .unclosedClass
  | c :: rest =>
    if c = ']' ∧ !state.atStart then
      let ranges := if state.inRange then ('-', '-') :: state.ranges else state.ranges
      .ok (ranges.reverse, rest)
    else if c = '-' ∧ !state.atStart ∧ !state.inRange then
      readClass ⟨state.ranges, true, false⟩ rest
    else if state.inRange ∧ !state.atStart then
      match state.ranges with
      | (first, _) :: others =>
        if c.toNat < first.toNat then .error (.invalidRange first c)
        else readClass ⟨(first, c) :: others, false, false⟩ rest
      | [] => readClass ⟨[(c, c)], false, false⟩ rest
    else readClass ⟨(c, c) :: state.ranges, false, false⟩ rest

/-- Read a pattern.  The first argument bounds the number of steps; every step passes over a
character. -/
def readFrom : Nat → Reading → List Char → Except GlobFault Reading
  | 0, r, _ => .ok r
  | _ + 1, r, [] => .ok r
  | steps + 1, r, c :: rest =>
    match c with
    | '?' => readFrom steps (r.add .anyByte (some c)) rest
    | '*' =>
      match rest with
      | '*' :: rest =>
        let (r, rest) := r.doubleStar rest
        readFrom steps r rest
      | rest => readFrom steps (r.add .anyBytes (some c)) rest
    | '[' =>
      let (negated, inner) :=
        match rest with
        | '!' :: inner => (true, inner)
        | '^' :: inner => (true, inner)
        | _ => (false, rest)
      match readClass ⟨[], false, true⟩ inner with
      | .error fault => .error fault
      | .ok (ranges, rest) => readFrom steps (r.add (.oneOf negated ranges) (some ']')) rest
    | '\x7b' => readFrom steps r.openBraces rest
    | '\x7d' =>
      match r.closeBraces? with
      | some r => readFrom steps r rest
      | none => .error .unopenedAlternates
    | ',' => readFrom steps r.comma rest
    | '\\' =>
      match rest with
      | [] => .error .danglingEscape
      | c :: rest => readFrom steps (r.add (.literal c) (some c)) rest
    | c => readFrom steps (r.add (.literal c) (some c)) rest

/-- The tokens of a pattern. -/
def tokens (pattern : List Char) : Except GlobFault (List Token) :=
  match readFrom (pattern.length + 1) .initial pattern with
  | .error fault => .error fault
  | .ok r => if r.enclosing.isEmpty then .ok r.tokens.reverse else .error .unclosedAlternates

/-- The expression of a whole pattern.  Two stars alone match everything. -/
def wholePattern (tokens : List Token) : Pattern :=
  let inside :=
    match tokens with
    | [.leadingDirectories] => anyBytesPattern
    | tokens => (sequence? tokens).getD .empty
  .seq (.assertion .textStart) (.seq inside (.assertion .textEnd))

end Glob

/-- A compiled file name pattern. -/
structure Glob where
  source : List Char
  program : Regex.Program

namespace Glob

/-- Compile a file name pattern. -/
def compile (source : List Char) : Except GlobError Glob :=
  match tokens source with
  | .error fault => .error ⟨source, fault⟩
  | .ok tokens => .ok ⟨source, .compile (wholePattern tokens)⟩

/-- Whether a name matches. -/
def isMatch (glob : Glob) (name : List Char) : Bool :=
  let bytes := (Utf8.encode name).map fun b => Char.ofNat b.toNat
  (glob.program.search none bytes).isSome

end Glob

end LineSieve
