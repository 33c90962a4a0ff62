import LineSieve.Regex.Pattern
import LineSieve.Unicode.CaseFolding
import LineSieve.Unicode.Property

/-!
# Elements of the written form

Flags, escapes, hexadecimal literals and named sets: everything in the written form of a regular
expression that is neither a class in brackets nor made of other expressions.  Each reader takes the
rest of the text and gives back what it read with what is left, or nothing when the text is no
expression.

In verbose mode blanks and comments may stand almost everywhere, also inside escapes; `skip` passes
over them.
-/

namespace LineSieve
namespace Regex

open Text (isBlankChar)

structure Flags where
  caseInsensitive : Bool
  multiLine : Bool
  dotAll : Bool
  swapGreed : Bool
  unicode : Bool
  crlf : Bool
  verbose : Bool
  deriving Repr, DecidableEq

namespace Flags

/-- The flags at the start of an expression. -/
def initial : Flags :=
  ⟨false, false, false, false, true, false, false⟩

/-- Switch the flag with the given letter, if there is one. -/
def set? (flags : Flags) (letter : Char) (on : Bool) : Option Flags :=
  match letter with
  | 'i' => some { flags with caseInsensitive := on }
  | 'm' => some { flags with multiLine := on }
  | 's' => some { flags with dotAll := on }
  | 'U' => some { flags with swapGreed := on }
  | 'u' => some { flags with unicode := on }
  | 'R' => some { flags with crlf := on }
  | 'x' => some { flags with verbose := on }
  | _ => none

/-- The set closed under case if the flags ask for it. -/
def fold (flags : Flags) (set : CharSet) : CharSet :=
  if flags.caseInsensitive then
    if flags.unicode then set.closeUnderCase else set.closeUnderAsciiCase
  else set

/-- The negated set.  Without Unicode a set holds bytes, and a negated one would hold bytes that are
no text, so there is none. -/
def negate? (flags : Flags) (set : CharSet) : Option CharSet :=
  if flags.unicode then some set.complement else none

/-- The set, negated if `negated` says so. -/
def signed? (flags : Flags) (negated : Bool) (set : CharSet) : Option CharSet :=
  if negated then flags.negate? set else some set

def wordKind (flags : Flags) : WordKind :=
  if flags.unicode then .unicode else .ascii

end Flags

/-- Pass over blanks and comments; the first argument says whether a comment has begun. -/
def skipBlanks : Bool → List Char → List Char
  | _, [] => []
  | true, c :: rest => skipBlanks (c != '\n') rest
  | false, c :: rest =>
    if isBlankChar c then skipBlanks false rest
    else if c = '#' then skipBlanks true rest
    else c :: rest

/-- Pass over blanks and comments in verbose mode. -/
def Flags.skip (flags : Flags) (text : List Char) : List Char :=
  if flags.verbose then skipBlanks false text else text

/-- The next character to count when deciding whether a hyphen makes a range.  Only blanks and one
comment sign are passed over, and if nothing else is left the very next character counts. -/
def Flags.peek? (flags : Flags) (text : List Char) : Option Char :=
  if flags.verbose then
    match text.dropWhile isBlankChar with
    | [] => text.head?
    | '#' :: rest =>
      match rest.dropWhile isBlankChar with
      | [] => text.head?
      | c :: _ => some c
    | c :: _ => some c
  else text.head?

/-- One element of an expression or of a class. -/
inductive Atom
  /-- A character; `asByte` when it is written as two hexadecimal digits. -/
  | literal (char : Char) (asByte : Bool)
  | set (chars : CharSet)
  | assertion (condition : Assertion)
  deriving Repr

/-- Characters that mean something in an expression or in a class. -/
def isMeta (c : Char) : Bool :=
  "\\.+*?()|[]\x7b\x7d^$#&-~".toList.contains c

/-- Whether a backslash before the character gives the character itself. -/
def isEscapable (c : Char) : Bool :=
  isMeta c || (c.toNat < 128 && !c.isAlphanum && c != '<' && c != '>')

def isHexDigit (c : Char) : Bool := (Unicode.hexDigit? c).isSome

/-- The number written by hexadecimal digits. -/
def hexValue (digits : List Char) : Nat :=
  digits.foldl (fun n c => n * 16 + (Unicode.hexDigit? c).getD 0) 0

/-- The character with a code point, if it is a scalar value. -/
def scalar? (n : Nat) : Option Char :=
  if n.isValidChar then some (Char.ofNat n) else none

/-- Read exactly `count` hexadecimal digits. -/
def fixedDigits? (flags : Flags) : Nat → List Char → Option (List Char × List Char)
  | 0, text => some ([], text)
  | count + 1, text =>
    match text with
    | [] => none
    | c :: rest =>
      if isHexDigit c then
        (fixedDigits? flags count (flags.skip rest)).map fun (digits, left) => (c :: digits, left)
      else none

/-- Read characters up to a closing brace, without blanks in verbose mode.  The first argument bounds
the number of steps; the length of the text suffices. -/
def braced? (flags : Flags) : Nat → List Char → Option (List Char × List Char)
  | 0, _ => none
  | steps + 1, text =>
    match flags.skip text with
    | [] => none
    | c :: rest =>
      if c = '\x7d' then some ([], rest)
      else (braced? flags steps rest).map fun (inside, left) => (c :: inside, left)

/-- Read the hexadecimal literal after the letter that asks for `count` digits. -/
def hexLiteral? (flags : Flags) (count : Nat) (text : List Char) : Option (Atom × List Char) :=
  match flags.skip text with
  | '\x7b' :: rest => do
    let (inside, left) ← braced? flags (rest.length + 1) rest
    if inside.isEmpty || !inside.all isHexDigit then none
    else
      let c ← scalar? (hexValue inside)
      pure (.literal c false, flags.skip left)
  | text => do
    let (digits, left) ← fixedDigits? flags count text
    let c ← scalar? (hexValue digits)
    pure (.literal c (count = 2), left)

/-- Split at the first place where `mark` stands. -/
def splitAt? (mark : List Char) : List Char → Option (List Char × List Char)
  | [] => none
  | c :: rest =>
    if mark.isPrefixOf (c :: rest) then some ([], (c :: rest).drop mark.length)
    else (splitAt? mark rest).map fun (before, after) => (c :: before, after)

/-- The set that a property query in braces denotes.  All three operators mean the same: only the letter
in front of the query negates, and `!=` does not. -/
def querySet? (query : List Char) : Option CharSet :=
  match splitAt? "!=".toList query with
  | some (name, value) => Unicode.valued? name value
  | none =>
    match splitAt? ":".toList query with
    | some (name, value) => Unicode.valued? name value
    | none =>
      match splitAt? "=".toList query with
      | some (name, value) => Unicode.valued? name value
      | none => Unicode.named? query

/-- Read what follows the letter of a Unicode set. -/
def unicodeSet? (flags : Flags) (negated : Bool) (text : List Char) :
    Option (Atom × List Char) := do
  if !flags.unicode then none
  match flags.skip text with
  | [] => none
  | '\x7b' :: rest =>
    let (query, left) ← braced? flags (rest.length + 1) rest
    let set ← querySet? query
    let set ← flags.signed? negated (flags.fold set)
    pure (.set set, left)
  | '\\' :: _ => none
  | c :: rest =>
    let set ← Unicode.named? [c]
    let set ← flags.signed? negated (flags.fold set)
    pure (.set set, flags.skip rest)

def asciiDigits : CharSet := .range '0'.toNat '9'.toNat

def asciiBlanks : CharSet := .ofRanges [⟨0x09, 0x0D⟩, ⟨0x20, 0x20⟩]

def asciiWordChars : CharSet :=
  .ofRanges [⟨'0'.toNat, '9'.toNat⟩, ⟨'A'.toNat, 'Z'.toNat⟩, ⟨'_'.toNat, '_'.toNat⟩,
    ⟨'a'.toNat, 'z'.toNat⟩]

/-- The set of a shorthand letter in lower case. -/
def shorthand? (flags : Flags) (letter : Char) : Option CharSet :=
  match letter with
  | 'd' => some (if flags.unicode then Unicode.digits else asciiDigits)
  | 's' => some (if flags.unicode then Text.blanks else asciiBlanks)
  | 'w' => some (if flags.unicode then Unicode.wordChars else asciiWordChars)
  | _ => none

/-- The control characters that have a letter of their own. -/
def controlEscape? (letter : Char) : Option Char :=
  match letter with
  | 'a' => some '\x07'
  | 'f' => some '\x0c'
  | 't' => some '\t'
  | 'n' => some '\n'
  | 'r' => some '\r'
  | 'v' => some '\x0b'
  | _ => none

def isBoundaryNameChar (c : Char) : Bool := c.isAlpha || c == '-'

/-- Read the characters of a boundary's name. -/
def boundaryName (flags : Flags) : Nat → List Char → List Char × List Char
  | 0, text => ([], text)
  | steps + 1, text =>
    match text with
    | [] => ([], [])
    | c :: rest =>
      if isBoundaryNameChar c then
        let (name, left) := boundaryName flags steps (flags.skip rest)
        (c :: name, left)
      else ([], text)

/-- Read what follows the letter of a word boundary.  An opening brace begins a name only if a
character of a name follows it; otherwise it is left for a repetition. -/
def wordBoundary? (flags : Flags) (text : List Char) : Option (Atom × List Char) :=
  match text with
  | '\x7b' :: rest =>
    match flags.skip rest with
    | [] => none
    | c :: more =>
      if isBoundaryNameChar c then
        match boundaryName flags (more.length + 2) (c :: more) with
        | (name, '\x7d' :: left) =>
          match String.ofList name with
          | "start" => some (.assertion (.wordStart flags.wordKind), left)
          | "end" => some (.assertion (.wordEnd flags.wordKind), left)
          | "start-half" => some (.assertion (.wordStartHalf flags.wordKind), left)
          | "end-half" => some (.assertion (.wordEndHalf flags.wordKind), left)
          | _ => none
        | _ => none
      else some (.assertion (.wordBoundary flags.wordKind), text)
  | _ => some (.assertion (.wordBoundary flags.wordKind), text)

/-- Read what follows a backslash. -/
def escape? (flags : Flags) (text : List Char) : Option (Atom × List Char) :=
  match text with
  | [] => none
  | c :: rest =>
    if c.isDigit then none
    else if isEscapable c then some (.literal c false, rest)
    else
      match c with
      | 'x' => hexLiteral? flags 2 rest
      | 'u' => hexLiteral? flags 4 rest
      | 'U' => hexLiteral? flags 8 rest
      | 'p' => unicodeSet? flags false rest
      | 'P' => unicodeSet? flags true rest
      | 'A' => some (.assertion .textStart, rest)
      | 'z' => some (.assertion .textEnd, rest)
      | 'b' => wordBoundary? flags rest
      | 'B' => some (.assertion (.notWordBoundary flags.wordKind), rest)
      | '<' => some (.assertion (.wordStart flags.wordKind), rest)
      | '>' => some (.assertion (.wordEnd flags.wordKind), rest)
      | _ =>
        match controlEscape? c, shorthand? flags c.toLower with
        | some control, _ => some (.literal control false, rest)
        | none, some set => (flags.signed? c.isUpper set).map fun set => (.set set, rest)
        | none, none => none

end Regex
end LineSieve
