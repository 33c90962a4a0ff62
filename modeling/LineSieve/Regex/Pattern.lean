import LineSieve.CharSet

/-!
# Patterns

A pattern is the abstract form of a regular expression.  Sequences and alternatives are binary; an
alternative prefers its left side.  A greedy repetition prefers one more round to leaving, a lazy one
prefers to leave.

Three smart constructors keep patterns in a plain form.  `repeated'` bounds a repetition of something
that is always empty by one round, and drops a repetition that is taken never or exactly once.
`sequence` and `alternatives` leave no sequence inside a sequence and no choice inside a choice; a choice
between single characters becomes one set, and what all alternatives begin with is matched once, before
the choice.  The last rule decides which match is found: `a.*?x|a.*?y` is read as `a.*?[xy]`, which
stops at the first of the two letters.
-/

namespace LineSieve
namespace Regex

/-- Which characters make up words: the ASCII ones only, or those of all scripts. -/
inductive WordKind
  | ascii
  | unicode
  deriving Repr, DecidableEq

/-- Conditions on a place between two characters. -/
inductive Assertion
  | textStart
  | textEnd
  | lineStart
  | lineEnd
  /-- At the start, after a line feed, or after a carriage return that no line feed follows. -/
  | lineStartCrlf
  /-- At the end, before a carriage return, or before a line feed that follows none. -/
  | lineEndCrlf
  | wordBoundary (kind : WordKind)
  | notWordBoundary (kind : WordKind)
  | wordStart (kind : WordKind)
  | wordEnd (kind : WordKind)
  | wordStartHalf (kind : WordKind)
  | wordEndHalf (kind : WordKind)
  deriving Repr, DecidableEq

inductive Pattern
  | empty
  | chars (set : CharSet)
  | assertion (condition : Assertion)
  | repeated (body : Pattern) (min : Nat) (max : Option Nat) (greedy : Bool)
  | group (index : Nat) (name : Option (List Char)) (body : Pattern)
  | seq (first second : Pattern)
  | either (preferred other : Pattern)
  deriving Repr, DecidableEq

namespace Pattern

/-- Whether every match of the pattern is empty. -/
def alwaysEmpty : Pattern → Bool
  | empty | assertion _ => true
  | chars _ => false
  | repeated body _ max _ => body.alwaysEmpty || max == some 0
  | group _ _ body => body.alwaysEmpty
  | seq first second => first.alwaysEmpty && second.alwaysEmpty
  | either preferred other => preferred.alwaysEmpty && other.alwaysEmpty

/-- Whether some match of the pattern may be empty. -/
def mayBeEmpty : Pattern → Bool
  | empty | assertion _ => true
  | chars _ => false
  | repeated body min _ _ => min == 0 || body.mayBeEmpty
  | group _ _ body => body.mayBeEmpty
  | seq first second => first.mayBeEmpty && second.mayBeEmpty
  | either preferred other => preferred.mayBeEmpty || other.mayBeEmpty

/-- A repetition, simplified where the number of rounds cannot matter. -/
def repeated' (body : Pattern) (min : Nat) (max : Option Nat) (greedy : Bool) : Pattern :=
  let min := if body.alwaysEmpty then Nat.min min 1 else min
  let max := if body.alwaysEmpty then some ((max.map (Nat.min · 1)).getD 1) else max
  if max = some 0 then .empty
  else if min = 1 ∧ max = some 1 then body
  else .repeated body min max greedy

/-- Whether the pattern is a single given character. -/
def isFixed : Pattern → Bool
  | chars set => set.only?.isSome
  | _ => false

/-- The patterns that follow one another in a sequence. -/
def parts : Pattern → List Pattern
  | empty => []
  | seq first second => first.parts ++ second.parts
  | p => [p]

/-- The patterns between which a choice is made, most preferred first. -/
def branches : Pattern → List Pattern
  | either preferred other => preferred.branches ++ other.branches
  | p => [p]

/-- The parts of a sequence, where fixed characters that follow one another are taken together as a
word. -/
def words (p : Pattern) : List (List Pattern) :=
  p.parts.splitBy fun a b => a.isFixed && b.isFixed

/-- Whether the pattern is one word. -/
def isWord (p : Pattern) : Bool :=
  p.parts.all isFixed && !p.parts.isEmpty

/-- Parts one after the other. -/
def chain : List Pattern → Pattern
  | [] => .empty
  | [p] => p
  | p :: rest => .seq p (chain rest)

/-- The patterns one after the other. -/
def sequence (patterns : List Pattern) : Pattern :=
  chain (patterns.flatMap parts)

/-- The sets of patterns that match single characters. -/
def sets? (patterns : List Pattern) : Option (List CharSet) :=
  patterns.mapM fun
    | chars set => some set
    | _ => none

/-- The characters between which a choice is made, if nothing else is chosen and either all of them are
given one by one or none is. -/
def charsOf? (patterns : List Pattern) : Option CharSet :=
  match sets? patterns with
  | some sets =>
    if sets.all (·.only?.isSome) || sets.all (·.only?.isNone) then
      some (.ofRanges (sets.flatMap (·.ranges)))
    else none
  | none => none

/-- A choice between two patterns or more. -/
def choice : List Pattern → Pattern
  | [] => .empty
  | [p] => p
  | p :: rest => .either p (choice rest)

/-- A choice between patterns, or the set of characters that it comes to. -/
def choose (patterns : List Pattern) : Pattern :=
  match patterns.flatMap branches with
  | [] => .empty
  | [p] => p
  | branches =>
    match charsOf? branches with
    | some set => .chars set
    | none => choice branches

/-- The longest list with which both lists begin. -/
def commonStart {α : Type} [BEq α] : List α → List α → List α
  | a :: as, b :: bs => if a == b then a :: commonStart as bs else []
  | _, _ => []

/-- The words with which all patterns begin, if each of them is a sequence of several words. -/
def sharedWords : List Pattern → List (List Pattern)
  | [] => []
  | first :: others =>
    if (first :: others).all fun p => 1 < p.words.length then
      others.foldl (fun shared p => commonStart shared p.words) first.words
    else []

/-- The patterns as alternatives, most preferred first. -/
def alternatives : List Pattern → Pattern
  | [] => .empty
  | [p] => p
  | patterns =>
    let branches := patterns.flatMap branches
    match charsOf? branches, sharedWords branches with
    | none, word :: words =>
      let shared := word :: words
      let rests := branches.map fun p => chain (p.words.drop shared.length).flatten
      sequence (shared.flatten ++ [choose rests])
    | _, _ => choose branches

/-- The groups of the pattern with their names. -/
def groups : Pattern → List (Nat × Option (List Char))
  | empty | chars _ | assertion _ => []
  | repeated body _ _ _ => body.groups
  | group index name body => (index, name) :: body.groups
  | seq first second => first.groups ++ second.groups
  | either preferred other => preferred.groups ++ other.groups

end Pattern

end Regex
end LineSieve
