import LineSieve.Number.Shortest

/-!
# Documents

A document is a JSON value.  It is written over several lines, two spaces deeper for every level, and
the fields of an object in their given order.
-/

namespace LineSieve

/-- A value of a document. -/
inductive Document
  | null
  | bool (value : Bool)
  | integer (value : Nat)
  | real (value : Binary64)
  | text (value : String)
  | array (items : List Document)
  | object (fields : List (String × Document))
  deriving Repr

namespace Document

def hexDigits (n : Nat) : List Char := (Nat.toDigits 16 n).leftpad 4 '0'

/-- A character inside quotes. -/
def escaped (c : Char) : List Char :=
  if c = '"' then ['\\', '"']
  else if c = '\\' then ['\\', '\\']
  else if c = '\x08' then ['\\', 'b']
  else if c = '\x0c' then ['\\', 'f']
  else if c = '\n' then ['\\', 'n']
  else if c = '\r' then ['\\', 'r']
  else if c = '\t' then ['\\', 't']
  else if c.toNat < 0x20 then '\\' :: 'u' :: hexDigits c.toNat
  else [c]

/-- A text in quotes. -/
def quoted (text : String) : List Char := '"' :: text.toList.flatMap escaped ++ ['"']

/-- The start of a line at a depth. -/
def newLine (depth : Nat) : List Char := '\n' :: List.replicate (2 * depth) ' '

/-- The text between two brackets, of parts that stand on lines of their own one level deeper. -/
def bracketed (opening closing : Char) (depth : Nat) (parts : List (List Char)) : List Char :=
  match parts with
  | [] => [opening, closing]
  | parts =>
    opening :: [','].intercalate (parts.map fun part => newLine (depth + 1) ++ part) ++
      newLine depth ++ [closing]

mutual

/-- The text of a value that stands at a depth. -/
def renderAt (depth : Nat) : Document → List Char
  | null => "null".toList
  | bool value => (if value then "true" else "false").toList
  | integer value => decimalDigits value
  | real value => value.written.text
  | text value => quoted value
  | array items => bracketed '[' ']' depth (renderItems (depth + 1) items)
  | object fields => bracketed '\x7b' '\x7d' depth (renderFields (depth + 1) fields)

def renderItems (depth : Nat) : List Document → List (List Char)
  | [] => []
  | item :: rest => renderAt depth item :: renderItems depth rest

def renderFields (depth : Nat) : List (String × Document) → List (List Char)
  | [] => []
  | (name, value) :: rest =>
    (quoted name ++ ':' :: ' ' :: renderAt depth value) :: renderFields depth rest

end

/-- The text of a document. -/
def render (document : Document) : String := String.ofList (renderAt 0 document)

mutual

/-- Whether a fast reader takes the text of the document as the document itself.  Only real numbers
can come out differently. -/
def survivesReading : Document → Bool
  | real value => value.survivesReading
  | array items => itemsSurviveReading items
  | object fields => fieldsSurviveReading fields
  | _ => true

def itemsSurviveReading : List Document → Bool
  | [] => true
  | item :: rest => survivesReading item && itemsSurviveReading rest

def fieldsSurviveReading : List (String × Document) → Bool
  | [] => true
  | (_, value) :: rest => survivesReading value && fieldsSurviveReading rest

end

end Document

end LineSieve
