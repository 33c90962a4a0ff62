import LineSieve.Toml.Scalar

/-!
# Quoted text and keys of TOML

Text stands between quotes, on one line or between three quotes on several.  Double quotes know
escapes, single quotes do not.  A function here reads the rest of a quoted text after its opening
quotes and gives the text with what follows the closing quotes.
-/

namespace LineSieve
namespace Toml

/-- Whether a character may stand in text or in a comment: no control character but the tab. -/
def isPlain (c : Char) : Bool := c == '\t' || (0x20 ≤ c.toNat && c.toNat ≠ 0x7F)

def isSpace (c : Char) : Bool := c == ' ' || c == '\t'

/-- Put a character in front of a text that has been read. -/
def before (c : Char) (read : Option (List Char × List Char)) : Option (List Char × List Char) :=
  read.map fun (text, rest) => (c :: text, rest)

/-- The character that an escape of one letter stands for. -/
def escapeChar? (c : Char) : Option Char :=
  match c with
  | 'b' => some '\x08'
  | 't' => some '\t'
  | 'n' => some '\n'
  | 'f' => some '\x0c'
  | 'r' => some '\r'
  | '"' => some '"'
  | '\\' => some '\\'
  | _ => none

/-- The character whose number hexadecimal digits write, if there is one. -/
def escapedNumber? (digits : List Char) : Option Char :=
  let n := digitsValue 16 digits
  if digits.all isHexDigit && (n < 0xD800 || (0xE000 ≤ n && n < 0x110000)) then some (Char.ofNat n)
  else none

/-- Read text in double quotes. -/
def readQuoted? : List Char → Option (List Char × List Char)
  | [] => none
  | '"' :: rest => some ([], rest)
  | '\\' :: 'u' :: a :: b :: c :: d :: rest =>
    match escapedNumber? [a, b, c, d] with
    | some x => before x (readQuoted? rest)
    | none => none
  | '\\' :: 'U' :: a :: b :: c :: d :: e :: f :: g :: h :: rest =>
    match escapedNumber? [a, b, c, d, e, f, g, h] with
    | some x => before x (readQuoted? rest)
    | none => none
  | '\\' :: c :: rest =>
    match escapeChar? c with
    | some x => before x (readQuoted? rest)
    | none => none
  | c :: rest => if isPlain c && c != '\\' then before c (readQuoted? rest) else none

/-- Read text in single quotes. -/
def readLiteral? : List Char → Option (List Char × List Char)
  | [] => none
  | '\'' :: rest => some ([], rest)
  | c :: rest => if isPlain c then before c (readLiteral? rest) else none

/-- What has been read last in text on several lines. -/
inductive Continuation
  /-- A part of the text. -/
  | inText
  /-- A backslash and maybe spaces; the line has to end now. -/
  | atLineEnd
  /-- An escaped line end; spaces and empty lines are skipped. -/
  | skipping
  deriving Repr, DecidableEq

/-- Read text between three double quotes.  One or two quotes may stand inside, also right before the
closing ones. -/
def readQuotedLines? : Continuation → List Char → Option (List Char × List Char)
  | _, [] => none
  | .atLineEnd, '\r' :: '\n' :: rest => readQuotedLines? .skipping rest
  | .atLineEnd, c :: rest =>
    if c = '\n' then readQuotedLines? .skipping rest
    else if isSpace c then readQuotedLines? .atLineEnd rest
    else none
  | .skipping, ' ' :: rest => readQuotedLines? .skipping rest
  | .skipping, '\t' :: rest => readQuotedLines? .skipping rest
  | .skipping, '\n' :: rest => readQuotedLines? .skipping rest
  | .skipping, '\r' :: '\n' :: rest => readQuotedLines? .skipping rest
  | _, '"' :: '"' :: '"' :: '"' :: '"' :: rest => some (['"', '"'], rest)
  | _, '"' :: '"' :: '"' :: '"' :: rest => some (['"'], rest)
  | _, '"' :: '"' :: '"' :: rest => some ([], rest)
  | _, '\\' :: 'u' :: a :: b :: c :: d :: rest =>
    match escapedNumber? [a, b, c, d] with
    | some x => before x (readQuotedLines? .inText rest)
    | none => none
  | _, '\\' :: 'U' :: a :: b :: c :: d :: e :: f :: g :: h :: rest =>
    match escapedNumber? [a, b, c, d, e, f, g, h] with
    | some x => before x (readQuotedLines? .inText rest)
    | none => none
  | _, '\\' :: '\r' :: '\n' :: rest => readQuotedLines? .skipping rest
  | _, '\\' :: c :: rest =>
    if c = '\n' then readQuotedLines? .skipping rest
    else if isSpace c then readQuotedLines? .atLineEnd rest
    else
      match escapeChar? c with
      | some x => before x (readQuotedLines? .inText rest)
      | none => none
  | _, '\r' :: '\n' :: rest => before '\n' (readQuotedLines? .inText rest)
  | _, '\n' :: rest => before '\n' (readQuotedLines? .inText rest)
  | _, c :: rest => if isPlain c && c != '\\' then before c (readQuotedLines? .inText rest) else none

/-- Read text between three single quotes.  One or two quotes may stand inside, also right before the
closing ones. -/
def readLiteralLines? : List Char → Option (List Char × List Char)
  | [] => none
  | '\'' :: '\'' :: '\'' :: '\'' :: '\'' :: rest => some (['\'', '\''], rest)
  | '\'' :: '\'' :: '\'' :: '\'' :: rest => some (['\''], rest)
  | '\'' :: '\'' :: '\'' :: rest => some ([], rest)
  | '\r' :: '\n' :: rest => before '\n' (readLiteralLines? rest)
  | '\n' :: rest => before '\n' (readLiteralLines? rest)
  | c :: rest => if isPlain c then before c (readLiteralLines? rest) else none

/-- A text on several lines without the line end right after its opening quotes. -/
def skipLineEnd : List Char → List Char
  | '\r' :: '\n' :: rest => rest
  | '\n' :: rest => rest
  | rest => rest

/-- Read text that starts with any kind of quotes. -/
def readText? : List Char → Option (List Char × List Char)
  | '"' :: '"' :: '"' :: rest => readQuotedLines? .inText (skipLineEnd rest)
  | '"' :: rest => readQuoted? rest
  | '\'' :: '\'' :: '\'' :: rest => readLiteralLines? (skipLineEnd rest)
  | '\'' :: rest => readLiteral? rest
  | _ => none

def isKeyChar (c : Char) : Bool := c.isAlphanum || c == '_' || c == '-'

/-- Read one part of a key. -/
def readKeyPart? (input : List Char) : Option (List Char × List Char) :=
  match input with
  | '"' :: rest => readQuoted? rest
  | '\'' :: rest => readLiteral? rest
  | input =>
    let name := input.takeWhile isKeyChar
    if name.isEmpty then none else some (name, input.dropWhile isKeyChar)

def skipSpaces (input : List Char) : List Char := input.dropWhile isSpace

/-- Read the parts of a key, of which there are at most as many as the first argument says, with the
spaces around them. -/
def readKey? : Nat → List Char → Option (List (List Char) × List Char)
  | 0, _ => none
  | more + 1, input =>
    match readKeyPart? (skipSpaces input) with
    | none => none
    | some (part, rest) =>
      match skipSpaces rest with
      | '.' :: rest => (readKey? more rest).map fun (parts, rest) => (part :: parts, rest)
      | rest => some ([part], rest)

/-- The greatest number of parts of a key, and of brackets and braces inside each other. -/
def depthLimit : Nat := 79

/-- Read a key as the path to a table and the name in it. -/
def readPath? (input : List Char) : Option (List (List Char) × List Char × List Char) :=
  match readKey? depthLimit input with
  | some (parts, rest) => parts.getLast?.map fun key => (parts.dropLast, key, rest)
  | none => none

end Toml
end LineSieve
