import LineSieve.Regex.Syntax

/-!
# Classes in brackets

A class is a union of items, or several unions joined by set operators, all of the same precedence
and taken from the left.  Classes nest, so reading keeps the classes that are still open; `class?`
reads a whole class after its opening bracket.

A class under case-insensitive flags is closed under case before it is negated, and so is each side
of an operator before the operator is applied.
-/

namespace LineSieve
namespace Regex

inductive SetOperator
  | intersection
  | difference
  | symmetricDifference
  deriving Repr, DecidableEq

def SetOperator.apply : SetOperator → CharSet → CharSet → CharSet
  | .intersection => CharSet.intersection
  | .difference => CharSet.difference
  | .symmetricDifference => CharSet.symmetricDifference

/-- A part of a class with the number of constructs nested in it. -/
structure ClassItem where
  set : CharSet
  depth : Nat
  deriving Repr

/-- A class whose closing bracket has not been seen. -/
structure OpenClass where
  negated : Bool
  /-- What stands before the last operator, with that operator. -/
  left : Option (ClassItem × SetOperator)
  /-- The items since the last operator, last one first. -/
  items : List ClassItem
  deriving Repr

namespace OpenClass

def add (c : OpenClass) (item : ClassItem) : OpenClass :=
  { c with items := item :: c.items }

def union (c : OpenClass) : ClassItem :=
  match c.items with
  | [item] => item
  | items =>
    ⟨.ofRanges (items.flatMap fun item => item.set.ranges),
      if items.isEmpty then 0 else 1 + (items.map (·.depth)).foldl max 0⟩

/-- What the class holds so far. -/
def value (flags : Flags) (c : OpenClass) : ClassItem :=
  match c.left with
  | none => c.union
  | some (left, operator) =>
    let right := c.union
    ⟨operator.apply (flags.fold left.set) (flags.fold right.set), 1 + max left.depth right.depth⟩

def applyOperator (flags : Flags) (c : OpenClass) (operator : SetOperator) : OpenClass :=
  { c with left := some (c.value flags, operator), items := [] }

/-- The class as an item, once it is closed. -/
def close? (flags : Flags) (c : OpenClass) : Option ClassItem := do
  let item := c.value flags
  let set ← flags.signed? c.negated (flags.fold item.set)
  pure ⟨set, item.depth + 1⟩

end OpenClass

def literalItem (c : Char) : ClassItem := ⟨.singleton c.toNat, 0⟩

/-- Hyphens at the start of a class stand for themselves. -/
def leadingHyphens (flags : Flags) : Nat → OpenClass → List Char → OpenClass × List Char
  | 0, c, text => (c, text)
  | steps + 1, c, text =>
    match text with
    | '-' :: rest => leadingHyphens flags steps (c.add (literalItem '-')) (flags.skip rest)
    | _ => (c, text)

/-- Open a class after its bracket: the negation sign, hyphens, and a closing bracket that stands
first and therefore for itself. -/
def openClass (flags : Flags) (text : List Char) : OpenClass × List Char :=
  let text := flags.skip text
  let (negated, text) :=
    match text with
    | '^' :: rest => (true, flags.skip rest)
    | _ => (false, text)
  let (c, text) := leadingHyphens flags text.length ⟨negated, none, []⟩ text
  match c.items, text with
  | [], ']' :: rest => (c.add (literalItem ']'), flags.skip rest)
  | _, _ => (c, text)

/-- The ASCII sets that have a name. -/
def asciiClass? (name : String) : Option CharSet :=
  let digits : CodeRange := ⟨'0'.toNat, '9'.toNat⟩
  let upper : CodeRange := ⟨'A'.toNat, 'Z'.toNat⟩
  let lower : CodeRange := ⟨'a'.toNat, 'z'.toNat⟩
  match name with
  | "alnum" => some (.ofRanges [digits, upper, lower])
  | "alpha" => some (.ofRanges [upper, lower])
  | "ascii" => some (.range 0 0x7F)
  | "blank" => some (.ofRanges [⟨0x09, 0x09⟩, ⟨0x20, 0x20⟩])
  | "cntrl" => some (.ofRanges [⟨0, 0x1F⟩, ⟨0x7F, 0x7F⟩])
  | "digit" => some (.ofRanges [digits])
  | "graph" => some (.range 0x21 0x7E)
  | "lower" => some (.ofRanges [lower])
  | "print" => some (.range 0x20 0x7E)
  | "punct" => some (.ofRanges [⟨0x21, 0x2F⟩, ⟨0x3A, 0x40⟩, ⟨0x5B, 0x60⟩, ⟨0x7B, 0x7E⟩])
  | "space" => some asciiBlanks
  | "upper" => some (.ofRanges [upper])
  | "word" => some asciiWordChars
  | "xdigit" => some (.ofRanges [digits, ⟨'A'.toNat, 'F'.toNat⟩, ⟨'a'.toNat, 'f'.toNat⟩])
  | _ => none

/-- A named ASCII set after its opening bracket: whether it is negated, the set, and what is left.
Nothing if what follows is not the name of such a set; then the bracket opens an ordinary class. -/
def namedClass? (text : List Char) : Option (Bool × CharSet × List Char) :=
  match text with
  | ':' :: rest =>
    let (negated, rest) :=
      match rest with
      | '^' :: more => (true, more)
      | _ => (false, rest)
    match rest.span (· != ':') with
    | (name, ':' :: ']' :: left) =>
      (asciiClass? (String.ofList name)).map fun set => (negated, set, left)
    | _ => none
  | _ => none

/-- Read a single character or escape inside a class. -/
def classAtom? (flags : Flags) (text : List Char) : Option (Atom × List Char) :=
  match text with
  | [] => none
  | '\\' :: rest => escape? flags rest
  | c :: rest => some (.literal c false, rest)

/-- The character of an end of a range.  Without Unicode only ASCII characters are bytes. -/
def rangeEnd? (flags : Flags) : Atom → Option Char
  | .literal c _ => if flags.unicode || c.toNat < 128 then some c else none
  | _ => none

def atomItem? (flags : Flags) : Atom → Option ClassItem
  | .set chars => some ⟨chars, 0⟩
  | atom => (rangeEnd? flags atom).map literalItem

/-- Read an item of a class that is neither a class nor an operator: a range, a character or a named
set.  A hyphen before a closing bracket or another hyphen makes no range. -/
def classRange? (flags : Flags) (text : List Char) : Option (ClassItem × List Char) := do
  let (first, left) ← classAtom? flags text
  match flags.skip left with
  | [] => none
  | '-' :: rest =>
    if flags.peek? rest = some ']' ∨ flags.peek? rest = some '-' then
      (atomItem? flags first).map (·, '-' :: rest)
    else
      let (last, left) ← classAtom? flags (flags.skip rest)
      let first ← rangeEnd? flags first
      let last ← rangeEnd? flags last
      if first.toNat ≤ last.toNat then some (⟨.range first.toNat last.toNat, 0⟩, left) else none
  | left => (atomItem? flags first).map (·, left)

/-- Read the rest of a class that stands inside `enclosing` ones.  The first argument bounds the
number of steps; every step passes over a character. -/
def classFrom? (flags : Flags) : Nat → OpenClass → List OpenClass → List Char →
    Option (ClassItem × List Char)
  | 0, _, _, _ => none
  | steps + 1, c, enclosing, text =>
    match flags.skip text with
    | [] => none
    | '[' :: rest =>
      match namedClass? rest with
      | some (negated, set, left) => do
        let set ← flags.signed? negated (flags.fold set)
        classFrom? flags steps (c.add ⟨set, 0⟩) enclosing left
      | none =>
        let (inner, left) := openClass flags rest
        classFrom? flags steps inner (c :: enclosing) left
    | ']' :: rest => do
      let item ← c.close? flags
      match enclosing with
      | [] => some (item, rest)
      | outer :: more => classFrom? flags steps (outer.add item) more rest
    | '&' :: '&' :: rest =>
      classFrom? flags steps (c.applyOperator flags .intersection) enclosing rest
    | '-' :: '-' :: rest =>
      classFrom? flags steps (c.applyOperator flags .difference) enclosing rest
    | '~' :: '~' :: rest =>
      classFrom? flags steps (c.applyOperator flags .symmetricDifference) enclosing rest
    | text => do
      let (item, left) ← classRange? flags text
      classFrom? flags steps (c.add item) enclosing left

/-- Read a class after its opening bracket. -/
def class? (flags : Flags) (text : List Char) : Option (ClassItem × List Char) :=
  let (c, left) := openClass flags text
  classFrom? flags (text.length + 1) c [] left

end Regex
end LineSieve
