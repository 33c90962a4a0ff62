import LineSieve.Regex.ByteRow
import LineSieve.Regex.Footprint
import LineSieve.Regex.Pattern

/-!
# Sizes of expressions

An expression is refused when a machine for it would be too large.  Two machines count, which read the
UTF-8 form of a text byte by byte, one from the start of a match and one from its end.  Only the machine
that reads from the start notes the places of groups.

`Pattern.footprint` says what a machine takes for a pattern, after the states that have already been made.
Reading from the start, a set of characters becomes the smallest machine for its rows that the memory of
states allows; reading from the end, it becomes a branch with a way for every row, where rows share the
states for their common starts.  A choice between words becomes a tree.
-/

namespace LineSieve
namespace Regex

/-- From which end of a match a machine reads. -/
inductive Direction
  | forward
  | backward
  deriving Repr, DecidableEq

/-- A way from a state by a range of bytes. -/
structure Transition where
  bytes : ByteRange
  target : Nat
  deriving Repr, DecidableEq

/-- A state that is not complete, because rows to come may still share it. -/
structure OpenState where
  /-- The complete transitions, last one first. -/
  transitions : List Transition
  /-- The range of bytes by which the last row goes on. -/
  next : Option ByteRange
  deriving Repr

namespace OpenState

/-- A state by which a row goes on. -/
def along (range : ByteRange) : OpenState := ⟨[], some range⟩

/-- The state in which the last row goes on to `target`. -/
def lead (s : OpenState) (target : Nat) : OpenState :=
  match s.next with
  | some range => ⟨⟨range, target⟩ :: s.transitions, none⟩
  | none => s

/-- The numbers that tell the state from others. -/
def description (s : OpenState) : List Nat :=
  s.transitions.reverse.flatMap fun t => [t.bytes.first, t.bytes.last, t.target]

/-- The number of the complete state. -/
def complete (s : OpenState) : Making Nat :=
  Making.shared 10000 s.description (·.addReader s.transitions.length)

end OpenState

/-- Complete the states of a path, the last one first, and give the number of the first one; the path
leads to `target`. -/
def completePath (target : Nat) : List OpenState → Making Nat
  | [] => pure target
  | s :: rest => do
    let next ← completePath target rest
    (s.lead next).complete

/-- Add a row to a path of open states.  What the row shares with the last one stays open; the states
after it are completed. -/
def addRow (target : Nat) : List OpenState → ByteRow → Making (List OpenState)
  | [], row => pure (row.map .along)
  | path, [] => pure path
  | s :: rest, range :: more =>
    if s.next = some range then do
      let rest ← addRow target rest more
      pure (s :: rest)
    else do
      let next ← completePath target rest
      pure ({ s.lead next with next := some range } :: more.map .along)

/-- Add rows to a path of open states. -/
def addRows (target : Nat) : List OpenState → List ByteRow → Making (List OpenState)
  | path, [] => pure path
  | path, row :: rows => do
    let path ← addRow target path row
    addRows target path rows

/-- A machine that reads rows from their starts. -/
def readForward (rows : List ByteRow) : Making Unit := do
  let (f, _) ← get
  Making.change (·.addState)
  let path ← addRows f.states [⟨[], none⟩] rows
  let _ ← completePath f.states path

/-- The states that read a row, each leading to the one before; the first leads to `target`.  The number
of the last one is given. -/
def addLinks (target : Nat) : ByteRow → Making Nat
  | [] => pure target
  | range :: rest => do
    let number ← Making.shared 1000 [target, range.first, range.last] (·.addState)
    addLinks number rest

/-- Ways for rows that are read from their ends, out of a branch that has been made. -/
def addLinkedRows (target : Nat) : List ByteRow → Making Unit
  | [] => pure ()
  | row :: rows => do
    let _ ← addLinks target row
    Making.change (·.addWays 1)
    addLinkedRows target rows

/-- A machine that reads rows from their ends. -/
def readBackward (rows : List ByteRow) : Making Unit := do
  let (f, _) ← get
  Making.change (·.addStates 2)
  addLinkedRows (f.states + 1) rows

/-- What a set of characters takes.  A single character is read byte by byte, and ASCII characters by one
state. -/
def setFootprint (direction : Direction) (set : CharSet) (f : Footprint) : Footprint :=
  match set.only? with
  | some codePoint => f.addStates (utf8Length codePoint)
  | none =>
    if set.below 0x80 then f.addState.addReader set.ranges.length
    else
      match direction with
      | .forward => (readForward set.rows).footprint f
      | .backward => (readBackward set.rows).footprint f

/-- The words between the empty ones.  Where a word ends, the words given before it are tried before its
end and the words given after it afterwards. -/
def runs : List (List Nat) → List (List (List Nat))
  | [] => []
  | [] :: rest => [] :: runs rest
  | word :: rest =>
    match runs rest with
    | [] => [[word]]
    | run :: more => (word :: run) :: more

/-- How often the end of a word is tried among the words; as long as nothing is longer, trying it again
changes nothing. -/
def endCount (words : List (List Nat)) : Nat :=
  Nat.min 1 (words.takeWhile (·.isEmpty)).length +
    (words.dropWhile (·.isEmpty)).countP (·.isEmpty)

/-- The rests of the words that begin with a byte. -/
def after (byte : Nat) (words : List (List Nat)) : List (List Nat) :=
  words.filterMap fun word => if word.head? = some byte then some word.tail else none

/-- The states below a place in a tree of words, where `words` are the rests of the words.  The first
argument bounds the length of the words. -/
def treeFootprint : Nat → List (List Nat) → Footprint → Footprint
  | 0, _, f => f
  | length + 1, words, f =>
    if words.all (·.isEmpty) then f
    else
      let runs := (runs words).filter (!·.isEmpty)
      let readers := runs.foldl (fun f run =>
        let bytes := (run.filterMap (·.head?)).eraseDups
        let below := bytes.foldl (fun f byte => treeFootprint length (after byte run) f) f
        below.addReader (if bytes.length = 1 then 0 else bytes.length)) f
      readers.addBranch (endCount words + runs.length)

/-- What a choice between words takes. -/
def wordsFootprint (words : List (List Nat)) (f : Footprint) : Footprint :=
  treeFootprint ((words.map (·.length)).foldl max 0 + 1) words f.addState

namespace Pattern

/-- The bytes of a word. -/
def bytesOf (p : Pattern) : List Nat :=
  p.parts.flatMap fun
    | chars set => (set.only?.map utf8Bytes).getD []
    | _ => []

/-- The length of the shortest match in bytes; absent if there is a part that cannot match. -/
def leastLength? : Pattern → Option Nat
  | empty | assertion _ => some 0
  | chars set => set.ranges.head?.map fun r => utf8Length r.first
  | repeated body min _ _ => body.leastLength?.map (· * min)
  | group _ _ body => body.leastLength?
  | seq first second =>
    match first.leastLength?, second.leastLength? with
    | some m, some n => some (m + n)
    | _, _ => none
  | either preferred other =>
    match preferred.leastLength?, other.leastLength? with
    | some m, some n => some (Nat.min m n)
    | _, _ => none

/-- Whether every match is known to take up text. -/
def takesText (p : Pattern) : Bool := (p.leastLength?.getD 0) != 0

/-- Where a pattern stands in a choice: in front or in no choice at all, second, or later. -/
inductive Position
  | front
  | second
  | later
  deriving Repr, DecidableEq

/-- What a pattern takes that needs `own` by itself and stands at a position.  The branch of a choice and
the state after it are made behind the second alternative. -/
def Position.place (own : Footprint → Footprint) : Position → Footprint → Footprint
  | front, f => own f
  | second, f => (own (f.addWays 1)).addStates 2
  | later, f => own (f.addWays 1)

/-- What a repetition takes of something that takes `once`; `takesText` says that every round is known to
take up text. -/
def repeatedFootprint (once : Footprint → Footprint) (takesText : Bool) (min : Nat)
    (max : Option Nat) (f : Footprint) : Footprint :=
  let exactly : Footprint := if min = 0 then f.addState else Footprint.times once min f
  match max with
  | none =>
    if min ≠ 0 then exactly.addBranch 2
    else if takesText then once (f.addBranch 2)
    else (((once f).addBranch 2).addBranch 2).addState
  | some max =>
    if min = 0 ∧ max = 1 then (once (f.addBranch 2)).addState
    else if min = max then exactly
    else Footprint.times (fun f => once (f.addBranch 2)) (max - min) exactly.addState

/-- What the pattern takes after the states that have been made. -/
def footprint (direction : Direction) : Pattern → Position → Footprint → Footprint
  | empty, position => position.place (·.addState)
  | chars set, position => position.place (setFootprint direction set)
  | assertion _, position => position.place (·.addState)
  | repeated body min max _, position =>
    position.place (repeatedFootprint (body.footprint direction .front) body.takesText min max)
  | group _ _ body, position =>
    position.place fun f =>
      match direction with
      | .forward => (body.footprint direction .front f.addState).addState
      | .backward => body.footprint direction .front f
  | seq first second, position =>
    position.place fun f =>
      match direction with
      | .forward => second.footprint direction .front (first.footprint direction .front f)
      | .backward => first.footprint direction .front (second.footprint direction .front f)
  | either preferred other, position => fun f =>
    match position with
    | .front =>
      if (either preferred other).branches.all isWord then
        let words := (either preferred other).branches.map bytesOf
        match direction with
        | .forward => wordsFootprint words f
        | .backward => wordsFootprint (words.map List.reverse) f
      else other.footprint direction .second (preferred.footprint direction .front (f.addWays 1))
    | .second =>
      other.footprint direction .later
        ((preferred.footprint direction .front (f.addWays 1)).addStates 2)
    | .later =>
      other.footprint direction .later (preferred.footprint direction .front (f.addWays 1))

/-- Whether every match begins at the start of the text. -/
def startsText : Pattern → Bool
  | empty | chars _ => false
  | assertion condition => condition == .textStart
  | repeated body min _ _ => min != 0 && body.startsText
  | group _ _ body => body.startsText
  | seq first second => first.startsText || (first.alwaysEmpty && second.startsText)
  | either preferred other => preferred.startsText && other.startsText

/-- Whether every match ends at the end of the text. -/
def endsText : Pattern → Bool
  | empty | chars _ => false
  | assertion condition => condition == .textEnd
  | repeated body min _ _ => min != 0 && body.endsText
  | group _ _ body => body.endsText
  | seq first second => second.endsText || (second.alwaysEmpty && first.endsText)
  | either preferred other => preferred.endsText && other.endsText

/-- What the whole machine for the pattern takes.  It begins with a search for the place where a match
starts, unless there is only one such place.  Reading from the start, the two ends of the match are
noted. -/
def machine (direction : Direction) (p : Pattern) : Footprint :=
  match direction with
  | .forward =>
    let search := if p.startsText then Footprint.empty.addState else Footprint.searching
    (p.footprint direction .front search.addState).addStates 2
  | .backward =>
    let search := if p.endsText then Footprint.empty.addState else Footprint.searching
    (p.footprint direction .front search).addState

/-- A choice between very many words needs no machine of this kind. -/
def isLexicon (p : Pattern) : Bool :=
  3000 ≤ p.branches.length && p.branches.all isWord

/-- Whether a machine for the pattern would be too large. -/
def isTooLarge (p : Pattern) : Bool :=
  !p.isLexicon && ((p.machine .forward).isTooLarge || (p.machine .backward).isTooLarge)

end Pattern
end Regex
end LineSieve
