import LineSieve.Toml.Quoted

/-!
# Reading TOML

`Toml.parse?` reads a whole file: definitions, headers, comments and empty lines, each ended by the end
of a line.  Brackets and braces stand at most `depthLimit` deep inside each other.
-/

namespace LineSieve
namespace Toml

/-- Skip a comment up to the end of its line. -/
def skipComment : List Char → List Char
  | '#' :: rest => rest.dropWhile isPlain
  | rest => rest

/-- Skip spaces, line ends and comments; the first argument bounds the number of steps. -/
def skipGaps : Nat → List Char → List Char
  | 0, input => input
  | steps + 1, input =>
    match skipComment (skipSpaces input) with
    | '\r' :: '\n' :: rest => skipGaps steps rest
    | '\n' :: rest => skipGaps steps rest
    | rest => rest

/-- Skip everything between two elements of an array. -/
def skipGap (input : List Char) : List Char := skipGaps (input.length + 1) input

/-- What reads a value at the start of a text. -/
abbrev ValueReader := List Char → Option (Toml × List Char)

/-- Read elements up to the closing bracket.  The first argument bounds their number. -/
def readElements? (read : ValueReader) : Nat → List Char → Option (List Toml × List Char)
  | 0, _ => none
  | more + 1, input =>
    match skipGap input with
    | ']' :: rest => some ([], rest)
    | input =>
      match read input with
      | none => none
      | some (item, rest) =>
        match skipGap rest with
        | ',' :: rest =>
          (readElements? read more rest).map fun (items, rest) => (item :: items, rest)
        | ']' :: rest => some ([item], rest)
        | _ => none

/-- Read a definition: a key, an equals sign and a value. -/
def readDefinition? (read : ValueReader) (input : List Char) :
    Option ((List (List Char) × List Char × Toml) × List Char) :=
  match readPath? input with
  | some (path, key, '=' :: rest) =>
    (read (skipSpaces rest)).map fun (value, rest) => ((path, key, value), rest)
  | _ => none

/-- Read definitions up to the closing brace; there is at least one.  The first argument bounds their
number. -/
def readDefinitions? (read : ValueReader) :
    Nat → List Char → Option (List (List (List Char) × List Char × Toml) × List Char)
  | 0, _ => none
  | more + 1, input =>
    match readDefinition? read input with
    | none => none
    | some (definition, rest) =>
      match skipSpaces rest with
      | ',' :: rest =>
        (readDefinitions? read more rest).map fun (others, rest) => (definition :: others, rest)
      | '\x7d' :: rest => some ([definition], rest)
      | _ => none

/-- Read an array or a table after its bracket or brace, with a reader for the values inside. -/
def readNested? (read : ValueReader) : ValueReader
  | '[' :: rest =>
    (readElements? read (rest.length + 1) rest).map fun (items, rest) => (.array false items, rest)
  | '\x7b' :: rest =>
    match skipSpaces rest with
    | '\x7d' :: rest => some (.table .inline [], rest)
    | rest =>
      match readDefinitions? read (rest.length + 1) rest with
      | some (definitions, rest) => (inlineTable? definitions).map fun table => (table, rest)
      | none => none
  | _ => none

/-- Read a value in which brackets and braces stand at most so deep inside each other. -/
def readValue? : Nat → ValueReader
  | depth, input =>
    match input with
    | '"' :: _ | '\'' :: _ => (readText? input).map fun (text, rest) => (.string text, rest)
    | '[' :: _ | '\x7b' :: _ =>
      match depth with
      | 0 => none
      | depth + 1 => readNested? (readValue? depth) input
    | _ => readScalar? input

/-- The rest after the end of a line, before which only spaces and a comment may stand. -/
def endLine? (input : List Char) : Option (List Char) :=
  match skipComment (skipSpaces input) with
  | [] => some []
  | '\n' :: rest => some rest
  | '\r' :: '\n' :: rest => some rest
  | _ => none

/-- Read a statement without the end of its line; on an empty line there is none. -/
def readStatement? (input : List Char) : Option (Option Statement × List Char) :=
  match skipSpaces input with
  | [] => some (none, [])
  | '#' :: rest => some (none, '#' :: rest)
  | '\r' :: rest => some (none, '\r' :: rest)
  | '\n' :: rest => some (none, '\n' :: rest)
  | '[' :: '[' :: rest =>
    match readPath? rest with
    | some (path, key, ']' :: ']' :: rest) => some (some (.element path key), rest)
    | _ => none
  | '[' :: rest =>
    match readPath? rest with
    | some (path, key, ']' :: rest) => some (some (.header path key), rest)
    | _ => none
  | input =>
    (readDefinition? (readValue? depthLimit) input).map fun ((path, key, value), rest) =>
      (some (.definition path key value), rest)

/-- Read statements up to the end of the file.  The first argument bounds the number of lines. -/
def readStatements? : Nat → List Char → Option (List Statement)
  | 0, _ => none
  | _ + 1, [] => some []
  | more + 1, input =>
    match readStatement? input with
    | none => none
    | some (statement, rest) =>
      match endLine? rest with
      | none => none
      | some rest => (readStatements? more rest).map (statement.toList ++ ·)

/-- A text without a byte order mark at its start. -/
def withoutMark : List Char → List Char
  | c :: rest => if c.toNat = 0xFEFF then rest else c :: rest
  | [] => []

/-- The fields of a file. -/
def parse? (text : List Char) : Option Fields :=
  let text := withoutMark text
  (readStatements? (text.length + 1) text).bind ofStatements?

end Toml
end LineSieve
