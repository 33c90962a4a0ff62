import LineSieve.Regex.Parser
import LineSieve.Regex.Search
import LineSieve.Regex.Size

/-!
# Regular expressions

`Regex.compile?` makes a regular expression from its written form, and `Regex.find?` looks for its
leftmost match in a text, given the character before the text.  A match cuts the text into three
parts, and that the parts make up the text is part of the type.

`Regex.pieces` collects all matches from left to right.  Matches do not overlap, and an empty match
is not taken where the match before it ended.
-/

namespace LineSieve

structure Regex where
  /-- The written form. -/
  source : List Char
  pattern : Regex.Pattern
  program : Regex.Program
  /-- The name of each group, if it has one; group 0 is the whole match. -/
  groupNames : List (Option (List Char))

namespace Regex

/-- The names of the groups of a pattern, in the order of their numbers. -/
def namesOf (pattern : Pattern) : List (Option (List Char)) :=
  let groups := pattern.groups
  let count := (groups.map (·.1)).foldl max 0
  (List.range (count + 1)).map fun i =>
    match groups.find? fun g => g.1 == i with
    | some (_, name) => name
    | none => none

/-- The expression with a written form, if it is well formed and not too large. -/
def compile? (source : List Char) : Option Regex :=
  match parse? source with
  | none => none
  | some pattern =>
    if pattern.isTooLarge then none
    else some ⟨source, pattern, Program.compile pattern, namesOf pattern⟩

/-- A match inside a text: what stands before it, what it covers, and what stands after it. -/
structure Match (text : List Char) where
  before : List Char
  matched : List Char
  after : List Char
  /-- The text of every group, absent if the group took no part. -/
  groups : List (Option (List Char))
  text_eq : before ++ (matched ++ after) = text

namespace Match

/-- The same match when one more character stands before the text. -/
def cons {text : List Char} (c : Char) (m : Match text) : Match (c :: text) :=
  ⟨c :: m.before, m.matched, m.after, m.groups, by simp [m.text_eq]⟩

def isEmpty {text : List Char} (m : Match text) : Bool := m.matched.isEmpty

/-- Whether the match is empty and stands at the start of the text. -/
def isIdle {text : List Char} (m : Match text) : Bool := m.before.isEmpty && m.matched.isEmpty

/-- The character before what follows the match. -/
def lastChar {text : List Char} (m : Match text) (prev : Option Char) : Option Char :=
  (m.matched.getLast?.or m.before.getLast?).or prev

end Match

/-- The place that was noted last under a slot. -/
def placeOf? (marks : Marks) (slot : Nat) : Option Nat :=
  (marks.find? fun m => m.1 == slot).map (·.2)

/-- The part of a text between two places. -/
def slice (text : List Char) (start stop : Nat) : List Char :=
  (text.drop start).take (stop - start)

/-- The text that a group covers according to the marks. -/
def groupText? (text : List Char) (marks : Marks) (group : Nat) : Option (List Char) :=
  match placeOf? marks (2 * group), placeOf? marks (2 * group + 1) with
  | some start, some stop => some (slice text start stop)
  | _, _ => none

/-- The match that marks describe. -/
def matchOf (text : List Char) (groups : Nat) (marks : Marks) : Match text :=
  let start := (placeOf? marks 0).getD 0
  let length := (placeOf? marks 1).getD 0 - start
  ⟨text.take start, (text.drop start).take length, (text.drop start).drop length,
    (List.range groups).map (groupText? text marks),
    by rw [List.take_append_drop, List.take_append_drop]⟩

/-- The leftmost match in a text that the character `prev` precedes. -/
def find? (re : Regex) (prev : Option Char) (text : List Char) : Option (Match text) :=
  (re.program.search prev text).map (matchOf text re.groupNames.length)

/-- Whether the expression matches somewhere in a text. -/
def isMatch (re : Regex) (text : List Char) : Bool := (re.find? none text).isSome

/-- The next match; after another match, an empty one at the start of the text does not count. -/
def next? (re : Regex) (prev : Option Char) (afterMatch : Bool) :
    (text : List Char) → Option (Match text)
  | [] =>
    match re.find? prev [] with
    | none => none
    | some m => if afterMatch && m.isIdle then none else some m
  | c :: rest =>
    match re.find? prev (c :: rest) with
    | none => none
    | some m =>
      if afterMatch && m.isIdle then (re.find? (some c) rest).map (·.cons c) else some m

/-- A match with the unmatched text before it. -/
structure Piece where
  skipped : List Char
  matched : List Char
  groups : List (Option (List Char))
  deriving Repr

/-- A match that is taken after another one moves on. -/
theorem next?_not_idle
    {re : Regex} {prev : Option Char} {text : List Char} {m : Match text}
    (h : re.next? prev true text = some m) :
    m.isIdle = false := by
  cases text with
  | nil =>
    simp only [next?] at h
    split at h
    · simp at h
    · split at h
      · simp at h
      · simp_all
  | cons c rest =>
    simp only [next?] at h
    split at h
    · simp at h
    · split at h
      · obtain ⟨n, _, rfl⟩ := Option.map_eq_some_iff.1 h
        simp [Match.isIdle, Match.cons]
      · simp_all

theorem Match.after_length_lt
    {text : List Char} (m : Match text) (h : m.isIdle = false) :
    m.after.length < text.length := by
  have hl := congrArg List.length m.text_eq
  simp only [List.length_append] at hl
  cases hb : m.before with
  | cons c b => simp [hb] at hl; omega
  | nil =>
    cases hm : m.matched with
    | cons c b => simp [hm] at hl; omega
    | nil => simp [isIdle, hb, hm] at h

theorem Match.after_length_le
    {text : List Char} (m : Match text) :
    m.after.length ≤ text.length := by
  have hl := congrArg List.length m.text_eq
  simp only [List.length_append] at hl
  omega

/-- All matches in a text, and what stands after the last one. -/
def pieces (re : Regex) (prev : Option Char) (afterMatch : Bool) (text : List Char) :
    List Piece × List Char :=
  match _h : re.next? prev afterMatch text with
  | none => ([], text)
  | some m =>
    let (others, last) := pieces re (m.lastChar prev) true m.after
    (⟨m.before, m.matched, m.groups⟩ :: others, last)
termination_by (text.length, if afterMatch then 0 else 1)
decreasing_by
  cases afterMatch with
  | true => exact Prod.Lex.left _ _ (m.after_length_lt (next?_not_idle _h))
  | false =>
    rcases Nat.lt_or_eq_of_le m.after_length_le with hlt | heq
    · exact Prod.Lex.left _ _ hlt
    · rw [heq]; exact Prod.Lex.right _ (by simp)

end Regex
end LineSieve
