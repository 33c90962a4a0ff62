/-!
# TOML values

A TOML file is a table.  It grows statement by statement: `Toml.define?` adds a value under a dotted
key to a table, `Toml.openTable?` and `Toml.openElement?` are what the headers `[a.b]` and `[[a.b]]`
do.  A table remembers how it has come about, because that decides what may still be added to it.
Nothing can be defined twice.

Real numbers, dates and times are recognised, but their value is not kept.
-/

namespace LineSieve

/-- How a table has come about. -/
inductive TableOrigin
  /-- By a header of its own, or as the whole file. -/
  | header
  /-- As a table on the way to that of a header. -/
  | implied
  /-- As a table on the way to a dotted key. -/
  | dotted
  /-- Between braces, which makes it complete. -/
  | inline
  deriving Repr, DecidableEq

inductive Toml
  | string (value : List Char)
  | integer (value : Int)
  | boolean (value : Bool)
  | real
  /-- A date, a time or both. -/
  | moment
  /-- An array between brackets, or one that headers add elements to. -/
  | array (byHeaders : Bool) (items : List Toml)
  | table (origin : TableOrigin) (fields : List (List Char × Toml))
  deriving Repr

namespace Toml

/-- The fields of a table in the order in which they were defined. -/
abbrev Fields := List (List Char × Toml)

/-- The fields with another value for a key that is there. -/
def Fields.replace (fields : Fields) (key : List Char) (value : Toml) : Fields :=
  fields.map fun field => if field.1 = key then (key, value) else field

/-- Change the table at the end of a path.  Tables that are missing on the way are made with the origin
`made`; a table on the way has to be one that may be entered.  An array of tables is entered at its
last element. -/
def changeAt? (made : TableOrigin) (mayEnter : TableOrigin → Bool)
    (change : TableOrigin → Fields → Option Fields) :
    List (List Char) → TableOrigin → Fields → Option Fields
  | [], origin, fields => change origin fields
  | key :: path, _, fields =>
    match fields.lookup key with
    | none =>
      (changeAt? made mayEnter change path made []).map fun inner =>
        fields ++ [(key, .table made inner)]
    | some (.table origin inner) =>
      if mayEnter origin then
        (changeAt? made mayEnter change path origin inner).map fun inner =>
          fields.replace key (.table origin inner)
      else none
    | some (.array true items) =>
      match items.getLast? with
      | some (.table origin inner) =>
        (changeAt? made mayEnter change path origin inner).map fun inner =>
          fields.replace key (.array true (items.dropLast ++ [.table origin inner]))
      | _ => none
    | some _ => none

/-- Add a value under a key that is not there yet.  A table that dotted keys have made takes dotted keys
only, and they make no other table larger. -/
def add? (dottedKey : Bool) (key : List Char) (value : Toml) (origin : TableOrigin)
    (fields : Fields) : Option Fields :=
  if (origin == .dotted) != dottedKey then none
  else if (fields.lookup key).isSome then none
  else some (fields ++ [(key, value)])

/-- Add a value under a dotted key, given by the path to its table and the last part. -/
def define? (path : List (List Char)) (key : List Char) (value : Toml) :
    TableOrigin → Fields → Option Fields :=
  changeAt? .dotted (fun origin => origin == .dotted || origin == .implied)
    (add? (!path.isEmpty) key value) path

/-- Whether a header may go through a table. -/
def onHeaderPath (origin : TableOrigin) : Bool := origin != .inline

/-- Change the table that a header has opened. -/
def changeOpen? (change : TableOrigin → Fields → Option Fields) (path : List (List Char))
    (file : Fields) : Option Fields :=
  changeAt? .implied onHeaderPath change path .header file

/-- Open the table of a header inside its parent. -/
def openIn? (key : List Char) (_ : TableOrigin) (fields : Fields) : Option Fields :=
  match fields.lookup key with
  | none => some (fields ++ [(key, .table .header [])])
  | some (.table .implied inner) => some (fields.replace key (.table .header inner))
  | some _ => none

/-- Open a new element of an array of tables inside the parent of the array. -/
def openElementIn? (key : List Char) (_ : TableOrigin) (fields : Fields) : Option Fields :=
  match fields.lookup key with
  | none => some (fields ++ [(key, .array true [.table .header []])])
  | some (.array true items) =>
    some (fields.replace key (.array true (items ++ [.table .header []])))
  | some _ => none

/-- A statement of a file. -/
inductive Statement
  | header (path : List (List Char)) (key : List Char)
  | element (path : List (List Char)) (key : List Char)
  | definition (path : List (List Char)) (key : List Char) (value : Toml)
  deriving Repr

/-- A file up to a statement: its fields and the path of the table that is open. -/
structure Growing where
  fields : Fields
  current : List (List Char)

namespace Growing

def start : Growing := ⟨[], []⟩

/-- The file after one more statement. -/
def step? (g : Growing) : Statement → Option Growing
  | .header path key =>
    (changeOpen? (openIn? key) path g.fields).map fun fields => ⟨fields, path ++ [key]⟩
  | .element path key =>
    (changeOpen? (openElementIn? key) path g.fields).map fun fields => ⟨fields, path ++ [key]⟩
  | .definition path key value =>
    (changeOpen? (define? path key value) g.current g.fields).map fun fields =>
      { g with fields := fields }

end Growing

/-- The table of a file, unless something is defined twice. -/
def ofStatements? (statements : List Statement) : Option Fields :=
  (statements.foldlM Growing.step? .start).map (·.fields)

/-- A table between braces, from its definitions. -/
def inlineTable? (definitions : List (List (List Char) × List Char × Toml)) : Option Toml :=
  (definitions.foldlM (fun fields d => define? d.1 d.2.1 d.2.2 .header fields) []).map (.table .inline)

end Toml

end LineSieve
