import LineSieve.CharSet

/-!
# Rows of byte ranges

The UTF-8 forms of the characters of a set can be written as rows of byte ranges: a row stands for all
sequences that take their first byte from its first range, their second byte from its second range, and
so on.  `CharSet.rows` lists the rows of a set in the order of its characters.
-/

namespace LineSieve
namespace Regex

/-- The bytes from `first` to `last`, both included. -/
structure ByteRange where
  first : Nat
  last : Nat
  deriving Repr, DecidableEq

abbrev ByteRow := List ByteRange

/-- The number of bytes of a character's UTF-8 form. -/
def utf8Length (codePoint : Nat) : Nat :=
  if codePoint < 0x80 then 1
  else if codePoint < 0x800 then 2
  else if codePoint < 0x10000 then 3
  else 4

/-- The bytes of a code point's UTF-8 form. -/
def utf8Bytes (codePoint : Nat) : List Nat :=
  (String.utf8EncodeChar (Char.ofNat codePoint)).map UInt8.toNat

/-- The last code point of the first part of a range, where the code points whose last bytes are free
begin or end inside it.  `block` is the number of code points that share the other bytes. -/
def blockCut? (block : Nat) (r : CodeRange) : Option Nat :=
  if r.first / block = r.last / block then none
  else if r.first % block ≠ 0 then some (r.first / block * block + block - 1)
  else if r.last % block ≠ block - 1 then some (r.last / block * block - 1)
  else none

/-- The last code point of the first part of a range whose UTF-8 forms cannot be written as one row. -/
def cut? (r : CodeRange) : Option Nat :=
  if r.first ≤ 0xD7FF ∧ 0xE000 ≤ r.last then some 0xD7FF
  else
    match [0x7F, 0x7FF, 0xFFFF].find? fun bound => r.first ≤ bound && bound < r.last with
    | some bound => some bound
    | none =>
      if r.last < 0x80 then none
      else (blockCut? 0x40 r).or ((blockCut? 0x1000 r).or (blockCut? 0x40000 r))

/-- The row of a range that needs no cut. -/
def rowOf (r : CodeRange) : ByteRow :=
  List.zipWith ByteRange.mk (utf8Bytes r.first) (utf8Bytes r.last)

/-- Rows that together hold the UTF-8 forms of a range.  The first argument bounds how often the range is
cut in two. -/
def rowsOf : Nat → CodeRange → List ByteRow
  | 0, _ => []
  | cuts + 1, r =>
    match cut? r with
    | some last => rowsOf cuts ⟨r.first, last⟩ ++ rowsOf cuts ⟨last + 1, r.last⟩
    | none =>
      if 0xD800 ≤ r.first ∧ r.first ≤ 0xDFFF then rowsOf cuts ⟨0xE000, r.last⟩
      else if r.last < r.first then []
      else [rowOf r]

/-- No range is cut more often. -/
def cutLimit : Nat := 32

end Regex

/-- Rows that together hold the UTF-8 forms of the members, in increasing order. -/
def CharSet.rows (set : CharSet) : List Regex.ByteRow :=
  set.ranges.flatMap (Regex.rowsOf Regex.cutLimit)

end LineSieve
