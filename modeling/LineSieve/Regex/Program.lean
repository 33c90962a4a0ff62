import LineSieve.Regex.Pattern

/-!
# Programs

A program is a nondeterministic machine over characters.  Its instructions are numbered; a `split`
prefers its first successor.  `compile` turns a pattern into a program in continuation form: the code
of a pattern is added behind the code that follows it, and its entry is handed on.

A repetition whose body may be empty is compiled as an optional repetition of at least one round, so
that the preference between rounds is kept although no state is entered twice at one place.
-/

namespace LineSieve
namespace Regex

inductive Instruction
  | chars (set : CharSet) (next : Nat)
  | assertion (condition : Assertion) (next : Nat)
  /-- Note the place under a slot: slot `2 * i` is the start and `2 * i + 1` the end of group `i`. -/
  | mark (slot : Nat) (next : Nat)
  | split (preferred other : Nat)
  | accept
  deriving Repr, Inhabited

structure Program where
  code : Array Instruction
  start : Nat
  deriving Repr

namespace Program

abbrev Builder := StateM (Array Instruction)

/-- Add an instruction and give its number. -/
def emit (instruction : Instruction) : Builder Nat :=
  fun code => (code.size, code.push instruction)

/-- Put an instruction at a number that was reserved. -/
def place (number : Nat) (instruction : Instruction) : Builder Unit :=
  fun code => ((), code.setIfInBounds number instruction)

/-- A branch that prefers `inside` if greedy and `outside` if lazy. -/
def branch (greedy : Bool) (inside outside : Nat) : Instruction :=
  if greedy then .split inside outside else .split outside inside

/-- Apply `add` to `next` a number of times, each result becoming the next continuation. -/
def chain (add : Nat → Builder Nat) : Nat → Nat → Builder Nat
  | 0, next => pure next
  | count + 1, next => do
    let next ← add next
    chain add count next

/-- At least one round: the entry is that of the body, and after the body a branch leads back. -/
def oneOrMore (body : Nat → Builder Nat) (greedy : Bool) (next : Nat) : Builder Nat := do
  let loop ← emit .accept
  let entry ← body loop
  place loop (branch greedy entry next)
  pure entry

/-- Any number of rounds. -/
def zeroOrMore (body : Nat → Builder Nat) (mayBeEmpty greedy : Bool) (next : Nat) :
    Builder Nat := do
  if mayBeEmpty then
    let entry ← oneOrMore body greedy next
    emit (branch greedy entry next)
  else
    let loop ← emit .accept
    let entry ← body loop
    place loop (branch greedy entry next)
    pure loop

/-- Up to `count` rounds, each of which may be left out with all that follow it. -/
def upTo (body : Nat → Builder Nat) (greedy : Bool) (count next : Nat) : Builder Nat :=
  chain (fun following => do
    let entry ← body following
    emit (branch greedy entry next)) count next

/-- Add the code of a pattern that goes on at `next`, and give its entry. -/
def add : Pattern → Nat → Builder Nat
  | .empty, next => pure next
  | .chars set, next => emit (.chars set next)
  | .assertion condition, next => emit (.assertion condition next)
  | .group index _ body, next => do
    let stop ← emit (.mark (2 * index + 1) next)
    let entry ← add body stop
    emit (.mark (2 * index) entry)
  | .seq first second, next => do
    let next ← add second next
    add first next
  | .either preferred other, next => do
    let first ← add preferred next
    let second ← add other next
    emit (.split first second)
  | .repeated body 0 none greedy, next =>
    zeroOrMore (add body) body.mayBeEmpty greedy next
  | .repeated body (min + 1) none greedy, next => do
    let last ← oneOrMore (add body) greedy next
    chain (add body) min last
  | .repeated body min (some max) greedy, next => do
    let optional ← upTo (add body) greedy (max - min) next
    chain (add body) min optional

/-- The program of a pattern. -/
def compile (pattern : Pattern) : Program :=
  let (start, code) := (do
    let stop ← emit .accept
    add pattern stop : Builder Nat) #[]
  ⟨code, start⟩

end Program

end Regex
end LineSieve
