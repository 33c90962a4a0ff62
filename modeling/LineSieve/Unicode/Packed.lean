import LineSieve.CharSet

/-!
# Packed ranges and loosely matched names

The tables of the Unicode character database are written as text.  A table is a sequence of items
separated by blanks.  An item is a hexadecimal gap, counted from the end of the range before it,
and after a colon the hexadecimal number of code points of the range; an item without a colon is a
single code point.  `unpack` reads this form.

Names of properties and of their values are compared loosely: case, blanks, hyphens and low lines
do not count, and neither does a leading `is`.  `looseName` computes the common form, and the names
in the tables are written in it.
-/

namespace LineSieve
namespace Unicode

/-- The value of a hexadecimal digit, in either case. -/
def hexDigit? (c : Char) : Option Nat :=
  let n := c.toNat
  if '0'.toNat ≤ n ∧ n ≤ '9'.toNat then some (n - '0'.toNat)
  else if 'a'.toNat ≤ n ∧ n ≤ 'f'.toNat then some (n - 'a'.toNat + 10)
  else if 'A'.toNat ≤ n ∧ n ≤ 'F'.toNat then some (n - 'A'.toNat + 10)
  else none

/-- The item that is being read: the gap, and the length once the colon is passed. -/
structure PackedItem where
  gap : Nat
  length : Option Nat
  started : Bool

def PackedItem.fresh : PackedItem := ⟨0, none, false⟩

/-- The range of an item, when the range before it ended just before `next`. -/
def PackedItem.range (item : PackedItem) (next : Nat) : CodeRange :=
  ⟨next + item.gap, next + item.gap + item.length.getD 1 - 1⟩

/-- Read packed items; `next` is the code point after the last range. -/
def unpackFrom (next : Nat) (item : PackedItem) : List Char → List CodeRange
  | [] => if item.started then [item.range next] else []
  | c :: rest =>
    match hexDigit? c, item.length with
    | some d, none => unpackFrom next { item with gap := item.gap * 16 + d, started := true } rest
    | some d, some n => unpackFrom next { item with length := some (n * 16 + d) } rest
    | none, _ =>
      if c = ':' then unpackFrom next { item with length := some 0 } rest
      else if item.started then
        item.range next :: unpackFrom ((item.range next).last + 1) .fresh rest
      else unpackFrom next .fresh rest

/-- The set written by a packed table. -/
def unpack (packed : String) : CharSet :=
  ⟨unpackFrom 0 .fresh packed.toList⟩

/-- A set of code points under the loose forms of its names. -/
structure NamedSet where
  names : List String
  packed : String

/-- The set that a table lists under a loose name. -/
def lookup? (table : List NamedSet) (name : List Char) : Option CharSet :=
  (table.find? fun entry => entry.names.any fun n => n.toList = name).map fun entry =>
    unpack entry.packed

/-- ASCII letters in lower case, other ASCII characters as they are, without separators. -/
def squeeze (name : List Char) : List Char :=
  (name.filter fun c => c.toNat < 128 && !(c == ' ' || c == '_' || c == '-')).map Char.toLower

/-- The form under which names are compared.  A leading `is` is dropped, except where `isc` alone
would become the name of a general category. -/
def looseName (name : List Char) : List Char :=
  match name with
  | i :: s :: rest =>
    if i.toLower = 'i' ∧ s.toLower = 's' then
      if squeeze rest = ['c'] then ['i', 's', 'c'] else squeeze rest
    else squeeze name
  | _ => squeeze name

end Unicode
end LineSieve
