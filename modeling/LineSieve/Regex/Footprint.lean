import Std.Data.HashMap

/-!
# Footprints of machines

The footprint of a machine says how much memory its states take.  A state takes 32 bytes; a state that
reads a byte by several ranges takes 8 more for each of them, and one that branches 4 more for each of
its ways.  States are numbered in the order in which they are made, so a footprint also says which number
the next state gets.

States that read a byte and go on in the same way are made once, as far as they are remembered.  The
memory has a fixed number of slots: a state is kept under the hash of its description until another one
with the same slot takes its place.
-/

namespace LineSieve
namespace Regex

structure Footprint where
  /-- How many states have been made. -/
  states : Nat
  /-- The bytes of the lists that states hold. -/
  listed : Nat
  deriving Repr, DecidableEq

namespace Footprint

/-- The footprint of a machine without states. -/
def empty : Footprint := ⟨0, 0⟩

/-- The memory that the machine takes. -/
def bytes (f : Footprint) : Nat := 32 * f.states + f.listed

/-- The most memory that a machine may take. -/
def limit : Nat := 10 * 1024 * 1024

def isTooLarge (f : Footprint) : Bool := limit < f.bytes

/-- The footprint with some more states that hold no list. -/
def addStates (f : Footprint) (count : Nat) : Footprint :=
  { f with states := f.states + count }

def addState (f : Footprint) : Footprint := f.addStates 1

/-- The footprint with some more ways out of the branching states. -/
def addWays (f : Footprint) (count : Nat) : Footprint :=
  { f with listed := f.listed + 4 * count }

/-- The footprint with a state that branches. -/
def addBranch (f : Footprint) (ways : Nat) : Footprint := f.addState.addWays ways

/-- The footprint with a state that reads a byte by some ranges. -/
def addReader (f : Footprint) (ranges : Nat) : Footprint :=
  ⟨f.states + 1, f.listed + 8 * ranges⟩

/-- The footprint of a search for the place where a match starts, which passes over any byte. -/
def searching : Footprint := (empty.addBranch 2).addState.addReader 1

/-- Take a step again and again, unless the machine is already too large. -/
def times (step : Footprint → Footprint) : Nat → Footprint → Footprint
  | 0, f => f
  | count + 1, f => if f.isTooLarge then f else times step count (step f)

end Footprint

/-- Combine numbers into one of 64 bits: each is mixed in by exclusive or, and the result is multiplied by
a prime number. -/
def hashOf (numbers : List Nat) : UInt64 :=
  numbers.foldl (fun h n => (h ^^^ n.toUInt64) * 1099511628211) 14695981039346656037

/-- States by the slots under which they are remembered, each with the numbers that describe it. -/
abbrev Memory := Std.HashMap Nat (List Nat × Nat)

/-- Making states of which some are remembered. -/
abbrev Making := StateM (Footprint × Memory)

namespace Making

/-- The number of a state with a description: that of one that is remembered in its slot, or of a new
one. -/
def shared (slots : Nat) (description : List Nat) (make : Footprint → Footprint) : Making Nat :=
  fun (f, memory) =>
    let slot := (hashOf description).toNat % slots
    match (memory[slot]?).filter fun entry => entry.1 = description with
    | some (_, number) => (number, (f, memory))
    | none => (f.states, (make f, memory.insert slot (description, f.states)))

/-- Change the footprint. -/
def change (make : Footprint → Footprint) : Making Unit :=
  fun (f, memory) => ((), (make f, memory))

/-- The footprint after states have been made with an empty memory. -/
def footprint {α : Type} (making : Making α) (f : Footprint) : Footprint :=
  (making (f, ∅)).2.1

end Making

end Regex
end LineSieve
