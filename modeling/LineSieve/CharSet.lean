/-!
# Sets of characters as ranges of code points

A character set is a list of ranges of code points in increasing order, no two of which overlap or
touch.  `ofRanges` brings any list of ranges into this form, so the Boolean operations below are
written on ranges and never enumerate characters.

The complement is taken inside a bounded universe.  `complement` uses all Unicode scalar values,
which leaves the surrogate code points out; `complementBelow` uses an initial segment, which is
what a class over single bytes needs.
-/

namespace LineSieve

/-- The code points from `first` to `last`, both included. -/
structure CodeRange where
  first : Nat
  last : Nat
  deriving Repr, BEq, DecidableEq, Inhabited

/-- Ranges of code points in increasing order. -/
structure CharSet where
  ranges : List CodeRange
  deriving Repr, BEq, DecidableEq, Inhabited

namespace CharSet

/-- The greatest code point. -/
def maxCodePoint : Nat := 0x10FFFF

/-- The code points that are no scalar value. -/
def surrogates : CodeRange := ⟨0xD800, 0xDFFF⟩

/-- Merge ranges that are sorted by their first code point, starting from `current`. -/
def mergeFrom (current : CodeRange) : List CodeRange → List CodeRange
  | [] => [current]
  | next :: rest =>
    if next.first ≤ current.last + 1 then
      mergeFrom ⟨current.first, max current.last next.last⟩ rest
    else
      current :: mergeFrom next rest

/-- Merge the ranges of a list that is sorted by first code point. -/
def merge : List CodeRange → List CodeRange
  | [] => []
  | range :: rest => mergeFrom range rest

/-- The set covered by some ranges, in any order. -/
def ofRanges (ranges : List CodeRange) : CharSet :=
  ⟨merge ((ranges.filter fun r => r.first ≤ r.last).mergeSort fun a b => a.first ≤ b.first)⟩

def empty : CharSet := ⟨[]⟩

/-- The set of the code points from `first` to `last`. -/
def range (first last : Nat) : CharSet := ofRanges [⟨first, last⟩]

def singleton (codePoint : Nat) : CharSet := ⟨[⟨codePoint, codePoint⟩]⟩

/-- Whether one of the sorted ranges holds the code point; stops at the first range beyond it. -/
def rangesContain (codePoint : Nat) : List CodeRange → Bool
  | [] => false
  | r :: rest =>
    if codePoint < r.first then false
    else if codePoint ≤ r.last then true
    else rangesContain codePoint rest

def containsCode (set : CharSet) (codePoint : Nat) : Bool :=
  rangesContain codePoint set.ranges

def contains (set : CharSet) (c : Char) : Bool :=
  set.containsCode c.toNat

def isEmpty (set : CharSet) : Bool := set.ranges.isEmpty

/-- The only member of a set that has one. -/
def only? (set : CharSet) : Option Nat :=
  match set.ranges with
  | [r] => if r.first = r.last then some r.first else none
  | _ => none

/-- Whether every member is below `bound`. -/
def below (set : CharSet) (bound : Nat) : Bool :=
  set.ranges.all fun r => r.last < bound

def union (a b : CharSet) : CharSet :=
  ofRanges (a.ranges ++ b.ranges)

/-- The gaps between sorted ranges, from `next` up to and including `top`. -/
def gaps (next top : Nat) : List CodeRange → List CodeRange
  | [] => if next ≤ top then [⟨next, top⟩] else []
  | r :: rest =>
    if next < r.first then ⟨next, r.first - 1⟩ :: gaps (r.last + 1) top rest
    else gaps (r.last + 1) top rest

/-- The code points up to and including `top` that are not in the set. -/
def complementBelow (set : CharSet) (top : Nat) : CharSet :=
  ⟨gaps 0 top set.ranges⟩

/-- The scalar values that are not in the set. -/
def complement (set : CharSet) : CharSet :=
  (union set ⟨[surrogates]⟩).complementBelow maxCodePoint

/-- Every scalar value. -/
def full : CharSet := complement empty

/-- The members of `a` that are not in `b`; both are below `maxCodePoint`. -/
def difference (a b : CharSet) : CharSet :=
  (union (a.complementBelow maxCodePoint) b).complementBelow maxCodePoint

def intersection (a b : CharSet) : CharSet :=
  (union (a.complementBelow maxCodePoint) (b.complementBelow maxCodePoint)).complementBelow
    maxCodePoint

/-- The members of exactly one of the two sets. -/
def symmetricDifference (a b : CharSet) : CharSet :=
  difference (union a b) (intersection a b)

/-- The set of the given characters. -/
def ofChars (chars : List Char) : CharSet :=
  ofRanges (chars.map fun c => ⟨c.toNat, c.toNat⟩)

end CharSet

end LineSieve
