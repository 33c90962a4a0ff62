import LineSieve.Regex.Program
import LineSieve.Unicode.Property

/-!
# Searching

A search runs all threads of a program side by side over the text.  The threads are kept in order of
preference, and a state that one thread has entered at a place is not entered again there, so a
search takes time linear in the text.  A thread that accepts ends all threads after it; the threads
before it go on and may replace the match.  The result is the leftmost match, and among those the one
that the pattern prefers.

Places are counted in characters from the start of the searched text.  The character before the
text is an argument, because conditions on a place look at both of its neighbours.
-/

namespace LineSieve
namespace Regex

def WordKind.isWord : WordKind → Char → Bool
  | .ascii, c => c.isAlphanum || c == '_'
  | .unicode, c => Unicode.wordChars.contains c

/-- Whether the neighbour of a place is a character of a word. -/
def WordKind.beside (kind : WordKind) (neighbour : Option Char) : Bool :=
  neighbour.any kind.isWord

/-- Whether a condition holds between two characters, of which either may be missing. -/
def Assertion.holds (prev next : Option Char) : Assertion → Bool
  | .textStart => prev.isNone
  | .textEnd => next.isNone
  | .lineStart => prev.isNone || prev == some '\n'
  | .lineEnd => next.isNone || next == some '\n'
  | .lineStartCrlf =>
    prev.isNone || prev == some '\n' || (prev == some '\r' && next != some '\n')
  | .lineEndCrlf =>
    next.isNone || next == some '\r' || (next == some '\n' && prev != some '\r')
  | .wordBoundary kind => kind.beside prev != kind.beside next
  | .notWordBoundary kind => kind.beside prev == kind.beside next
  | .wordStart kind => !kind.beside prev && kind.beside next
  | .wordEnd kind => kind.beside prev && !kind.beside next
  | .wordStartHalf kind => !kind.beside prev
  | .wordEndHalf kind => !kind.beside next

/-- The places noted so far under slots, latest first. -/
abbrev Marks := List (Nat × Nat)

structure Thread where
  state : Nat
  marks : Marks
  deriving Repr

namespace Program

/-- Follow the threads of `stack` to the instructions that read a character.  Gives those threads in
order, and the marks of the first thread that accepts; threads after that one are dropped.  The first
number bounds the steps: each step takes a thread off the stack, and a state puts at most two on it
and only once. -/
def explore (program : Program) (prev next : Option Char) (place : Nat) :
    Nat → List Thread → Array Bool → List Thread → List Thread × Option Marks
  | 0, _, _, found => (found.reverse, none)
  | _ + 1, [], _, found => (found.reverse, none)
  | steps + 1, thread :: stack, entered, found =>
    if entered.getD thread.state true then
      explore program prev next place steps stack entered found
    else
      let entered := entered.setIfInBounds thread.state true
      match program.code[thread.state]? with
      | none => explore program prev next place steps stack entered found
      | some (.chars _ _) =>
        explore program prev next place steps stack entered (thread :: found)
      | some (.assertion condition target) =>
        if condition.holds prev next then
          explore program prev next place steps (⟨target, thread.marks⟩ :: stack) entered found
        else explore program prev next place steps stack entered found
      | some (.mark slot target) =>
        explore program prev next place steps (⟨target, (slot, place) :: thread.marks⟩ :: stack)
          entered found
      | some (.split preferred other) =>
        explore program prev next place steps
          (⟨preferred, thread.marks⟩ :: ⟨other, thread.marks⟩ :: stack) entered found
      | some .accept => (found.reverse, some ((1, place) :: thread.marks))

/-- All threads at a place, from those that have just read a character. -/
def settle (program : Program) (prev next : Option Char) (place : Nat) (threads : List Thread) :
    List Thread × Option Marks :=
  program.explore prev next place (threads.length + 2 * program.code.size + 1) threads
    (Array.replicate program.code.size false) []

/-- The thread after it has read a character, if it can. -/
def advance? (program : Program) (c : Char) (thread : Thread) : Option Thread :=
  match program.code[thread.state]? with
  | some (.chars set target) => if set.contains c then some ⟨target, thread.marks⟩ else none
  | _ => none

/-- Run `threads` over the text.  As long as there is no match, a new thread starts at every place,
after all others. -/
def run (program : Program) (prev : Option Char) (place : Nat) (threads : List Thread)
    (best : Option Marks) : List Char → Option Marks
  | [] =>
    let threads := if best.isNone then threads ++ [⟨program.start, [(0, place)]⟩] else threads
    (program.settle prev none place threads).2.or best
  | c :: rest =>
    let threads := if best.isNone then threads ++ [⟨program.start, [(0, place)]⟩] else threads
    let (active, accepted) := program.settle prev (some c) place threads
    let best := accepted.or best
    let threads := active.filterMap (program.advance? c)
    if threads.isEmpty && best.isSome then best
    else run program (some c) (place + 1) threads best rest

/-- The marks of the preferred leftmost match. -/
def search (program : Program) (prev : Option Char) (text : List Char) : Option Marks :=
  program.run prev 0 [] none text

end Program

end Regex
end LineSieve
