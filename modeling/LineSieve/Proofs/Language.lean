import LineSieve.Regex.Search
import Mathlib.Logic.Function.Iterate
import Mathlib.Tactic

/-!
# What patterns match

`Pattern.Covers` says between which places of a text a pattern matches, by the structure of the pattern
and without a word about programs.  A program accepts from a state and a place by a number of moves
(`Accepts`).  A part of a program bridges two states if it leads from the one to the other exactly along
the parts of the text that it should; each construct of the compiler bridges its entry and the state that
it goes on with, so the program of a pattern accepts what the pattern matches (`accepts_compile_iff`).
-/

namespace LineSieve
namespace Regex

/-! ## Patterns -/

/-- The character in front of a place. -/
def charBefore (text : List Char) (place : Nat) : Option Char := (text.take place).getLast?

/-- A number of rounds, one behind the other. -/
def Rounds (round : Nat → Nat → Prop) : Nat → Nat → Nat → Prop
  | 0, start, stop => start = stop
  | count + 1, start, stop => ∃ middle, round start middle ∧ Rounds round count middle stop

/-- Whether a pattern matches what stands between two places of a text.  An upper bound of a repetition
that is less than its lower bound does not count. -/
def Pattern.Covers (text : List Char) : Pattern → Nat → Nat → Prop
  | .empty, start, stop => start = stop
  | .chars set, start, stop =>
    stop = start + 1 ∧ ∃ c, text[start]? = some c ∧ set.contains c = true
  | .assertion condition, start, stop =>
    start = stop ∧ condition.holds (charBefore text start) text[start]? = true
  | .repeated body min max _, start, stop =>
    ∃ count, min ≤ count ∧ (count = min ∨ ∀ limit, max = some limit → count ≤ limit) ∧
      Rounds (body.Covers text) count start stop
  | .group _ _ body, start, stop => body.Covers text start stop
  | .seq first second, start, stop =>
    ∃ middle, first.Covers text start middle ∧ second.Covers text middle stop
  | .either preferred other, start, stop =>
    preferred.Covers text start stop ∨ other.Covers text start stop

/-- Every group of the pattern has a number above that of the whole match. -/
def Pattern.Numbered (p : Pattern) : Prop := ∀ group ∈ p.groups, 1 ≤ group.1

namespace Program

/-! ## Moves -/

/-- What an instruction does at a place of a text: it goes on to a state and a place. -/
inductive Moves (text : List Char) : Instruction → Nat → Nat → Nat → Prop
  | chars
      {set : CharSet} {target place : Nat} {c : Char}
      (hc : text[place]? = some c)
      (hset : set.contains c = true) :
      Moves text (.chars set target) place target (place + 1)
  | assertion
      {condition : Assertion} {target place : Nat}
      (hholds : condition.holds (charBefore text place) text[place]? = true) :
      Moves text (.assertion condition target) place target place
  | mark (slot target place : Nat) :
      Moves text (.mark slot target) place target place
  | preferred (target other place : Nat) :
      Moves text (.split target other) place target place
  | other (preferred target place : Nat) :
      Moves text (.split preferred target) place target place

/-- From a state and a place a program accepts at another place, after a number of moves. -/
inductive Accepts (code : Array Instruction) (text : List Char) : Nat → Nat → Nat → Nat → Prop
  | accept
      {state : Nat}
      (place : Nat)
      (hcode : code[state]? = some .accept) :
      Accepts code text 0 state place place
  | move
      {moves state place target later stop : Nat} {instruction : Instruction}
      (hcode : code[state]? = some instruction)
      (hmove : Moves text instruction place target later)
      (h : Accepts code text moves target later stop) :
      Accepts code text (moves + 1) state place stop

variable {code final : Array Instruction} {text : List Char}

theorem Accepts.exists_move
    {moves state place stop : Nat} {instruction : Instruction}
    (hcode : code[state]? = some instruction)
    (hne : instruction ≠ .accept)
    (h : Accepts code text moves state place stop) :
    ∃ left target later, moves = left + 1 ∧ Moves text instruction place target later ∧
      Accepts code text left target later stop := by
  cases h with
  | accept _ haccept => exact absurd (Option.some.inj (hcode.symm.trans haccept)) hne
  | move hcode' hmove hrest =>
    cases hcode.symm.trans hcode'
    exact ⟨_, _, _, rfl, hmove, hrest⟩

/-! ## Bridges -/

/-- From the entry a program goes on at the next state, from one place to another, exactly as the relation
says.  Getting there takes moves of its own, so fewer are left. -/
structure Bridges (code : Array Instruction) (text : List Char) (entry next : Nat)
    (relation : Nat → Nat → Prop) : Prop where
  sound : ∀ moves place stop, Accepts code text moves entry place stop →
    ∃ middle left, left ≤ moves ∧ relation place middle ∧ Accepts code text left next middle stop
  complete : ∀ place middle left stop, relation place middle →
    Accepts code text left next middle stop → ∃ moves, Accepts code text moves entry place stop

/-- One relation behind another. -/
def Then (first second : Nat → Nat → Prop) (start stop : Nat) : Prop :=
  ∃ middle, first start middle ∧ second middle stop

namespace Bridges

variable {entry middle next other : Nat} {first second relation : Nat → Nat → Prop}

theorem congr
    (h : Bridges code text entry next first)
    (hiff : ∀ start stop, first start stop ↔ second start stop) :
    Bridges code text entry next second := by
  obtain rfl : first = second := funext fun start => funext fun stop => propext (hiff start stop)
  exact h

theorem refl
    (code : Array Instruction) (text : List Char) (next : Nat) :
    Bridges code text next next Eq where
  sound := fun moves place _ h => ⟨place, moves, le_rfl, rfl, h⟩
  complete := by
    rintro place _ left stop rfl h
    exact ⟨left, h⟩

theorem trans
    (h : Bridges code text entry middle first)
    (h' : Bridges code text middle next second) :
    Bridges code text entry next (Then first second) where
  sound := by
    intro moves place stop haccepts
    obtain ⟨between, left, hle, hfirst, hrest⟩ := h.sound moves place stop haccepts
    obtain ⟨last, left', hle', hsecond, hlast⟩ := h'.sound left between stop hrest
    exact ⟨last, left', hle'.trans hle, ⟨between, hfirst, hsecond⟩, hlast⟩
  complete := by
    rintro place last left stop ⟨between, hfirst, hsecond⟩ haccepts
    obtain ⟨moves, hmoves⟩ := h'.complete between last left stop hsecond haccepts
    exact h.complete place between moves stop hfirst hmoves

/-- One instruction. -/
theorem of_instruction
    {instruction : Instruction}
    (hcode : code[entry]? = some instruction)
    (hne : instruction ≠ .accept)
    (hsound : ∀ place target later, Moves text instruction place target later →
      target = next ∧ relation place later)
    (hcomplete : ∀ place later, relation place later → Moves text instruction place next later) :
    Bridges code text entry next relation where
  sound := by
    intro moves place stop h
    obtain ⟨left, target, later, rfl, hmove, hrest⟩ := h.exists_move hcode hne
    obtain ⟨rfl, hrelation⟩ := hsound place target later hmove
    exact ⟨later, left, Nat.le_succ left, hrelation, hrest⟩
  complete := fun place later left stop hrelation h =>
    ⟨left + 1, .move hcode (hcomplete place later hrelation) h⟩

/-- Two branches that lead to the same state. -/
theorem split
    {preferred : Nat}
    (hcode : code[entry]? = some (.split preferred other))
    (h : Bridges code text preferred next first)
    (h' : Bridges code text other next second) :
    Bridges code text entry next (fun start stop => first start stop ∨ second start stop) where
  sound := by
    intro moves place stop haccepts
    obtain ⟨left, target, later, rfl, hmove, hrest⟩ := haccepts.exists_move hcode (by simp)
    cases hmove with
    | preferred =>
      obtain ⟨last, left', hle, hfirst, hlast⟩ := h.sound left place stop hrest
      exact ⟨last, left', by omega, Or.inl hfirst, hlast⟩
    | other =>
      obtain ⟨last, left', hle, hsecond, hlast⟩ := h'.sound left place stop hrest
      exact ⟨last, left', by omega, Or.inr hsecond, hlast⟩
  complete := by
    rintro place last left stop (hfirst | hsecond) haccepts
    · obtain ⟨moves, hmoves⟩ := h.complete place last left stop hfirst haccepts
      exact ⟨moves + 1, .move hcode (.preferred _ _ _) hmoves⟩
    · obtain ⟨moves, hmoves⟩ := h'.complete place last left stop hsecond haccepts
      exact ⟨moves + 1, .move hcode (.other _ _ _) hmoves⟩

/-- A branch, whichever side it prefers. -/
theorem branch
    {greedy : Bool}
    (hcode : code[entry]? = some (Program.branch greedy middle other))
    (h : Bridges code text middle next first)
    (h' : Bridges code text other next second) :
    Bridges code text entry next (fun start stop => first start stop ∨ second start stop) := by
  cases greedy with
  | true => exact split hcode h h'
  | false => exact (split hcode h' h).congr fun start stop => or_comm

/-- A branch that leads through a body back to itself, or out. -/
theorem loop
    {round : Nat → Nat → Prop} {greedy : Bool}
    (hcode : code[middle]? = some (Program.branch greedy entry next))
    (h : Bridges code text entry middle round) :
    Bridges code text middle next (fun start stop => ∃ count, Rounds round count start stop) := by
  have hmoves : ∀ {place target later},
      Moves text (Program.branch greedy entry next) place target later →
        later = place ∧ (target = entry ∨ target = next) := by
    intro place target later hmove
    cases greedy <;> cases hmove <;> simp
  have hinside : ∀ place, Moves text (Program.branch greedy entry next) place entry place := by
    intro place
    cases greedy
    · exact .other _ _ _
    · exact .preferred _ _ _
  have houtside : ∀ place, Moves text (Program.branch greedy entry next) place next place := by
    intro place
    cases greedy
    · exact .preferred _ _ _
    · exact .other _ _ _
  have hne : Program.branch greedy entry next ≠ .accept := by
    cases greedy <;> simp [Program.branch]
  constructor
  · intro moves
    -- a round takes moves of its own, so fewer are left at the branch
    induction moves using Nat.strong_induction_on with
    | _ moves ih =>
      intro place stop haccepts
      obtain ⟨left, target, later, rfl, hmove, hrest⟩ := haccepts.exists_move hcode hne
      obtain ⟨rfl, rfl | rfl⟩ := hmoves hmove
      · obtain ⟨between, left', hle, hround, hback⟩ := h.sound left later stop hrest
        obtain ⟨last, left'', hle', ⟨count, hrounds⟩, hlast⟩ := ih left' (by omega) between stop hback
        exact ⟨last, left'', by omega, ⟨count + 1, between, hround, hrounds⟩, hlast⟩
      · exact ⟨later, left, Nat.le_succ left, ⟨0, rfl⟩, hrest⟩
  · rintro place last left stop ⟨count, hrounds⟩ haccepts
    induction count generalizing place with
    | zero =>
      obtain rfl : place = last := hrounds
      exact ⟨left + 1, .move hcode (houtside place) haccepts⟩
    | succ count ih =>
      obtain ⟨between, hround, hrounds⟩ := hrounds
      obtain ⟨moves, hmoves⟩ := ih between hrounds
      obtain ⟨moves', hmoves'⟩ := h.complete place between moves stop hround hmoves
      exact ⟨moves' + 1, .move hcode (hinside place) hmoves'⟩

/-- A body that leads into such a branch. -/
theorem body_loop
    {round : Nat → Nat → Prop} {greedy : Bool}
    (hcode : code[middle]? = some (Program.branch greedy entry next))
    (h : Bridges code text entry middle round) :
    Bridges code text entry next (fun start stop => ∃ count, Rounds round (count + 1) start stop) := by
  refine (h.trans (loop hcode h)).congr fun start stop => ?_
  constructor
  · rintro ⟨between, hround, count, hrounds⟩
    exact ⟨count, between, hround, hrounds⟩
  · rintro ⟨count, between, hround, hrounds⟩
    exact ⟨between, hround, count, hrounds⟩

end Bridges

theorem rounds_add_iff
    {round : Nat → Nat → Prop} {m n start stop : Nat} :
    Rounds round (m + n) start stop ↔ Then (Rounds round m) (Rounds round n) start stop := by
  induction m generalizing start with
  | zero =>
    rw [Nat.zero_add]
    constructor
    · exact fun hrounds => ⟨start, rfl, hrounds⟩
    · rintro ⟨_, rfl, hrounds⟩
      exact hrounds
  | succ m ih =>
    rw [Nat.succ_add]
    constructor
    · rintro ⟨middle, hround, hrounds⟩
      obtain ⟨last, hmore, hlast⟩ := ih.1 hrounds
      exact ⟨last, ⟨middle, hround, hmore⟩, hlast⟩
    · rintro ⟨last, ⟨middle, hround, hmore⟩, hlast⟩
      exact ⟨middle, hround, ih.2 ⟨last, hmore, hlast⟩⟩

theorem rounds_one_iff
    {round : Nat → Nat → Prop} {start stop : Nat} :
    Rounds round 1 start stop ↔ round start stop := by
  constructor
  · rintro ⟨_, hround, rfl⟩
    exact hround
  · exact fun hround => ⟨stop, hround, rfl⟩

/-! ## Code that grows -/

/-- No instruction notes anything under the slots of the whole match. -/
def LeavesWhole (code : Array Instruction) : Prop :=
  ∀ state slot target : Nat, code[state]? = some (.mark slot target) → 2 ≤ slot

/-- Instructions have been added behind the ones that were there. -/
structure Grows (code later : Array Instruction) : Prop where
  size_le : code.size ≤ later.size
  kept : ∀ number < code.size, later[number]? = code[number]?
  leavesWhole : LeavesWhole code → LeavesWhole later

namespace Grows

variable {later last : Array Instruction}

theorem refl
    (code : Array Instruction) :
    Grows code code := ⟨le_rfl, fun _ _ => rfl, id⟩

theorem trans
    (h : Grows code later)
    (h' : Grows later last) :
    Grows code last where
  size_le := h.size_le.trans h'.size_le
  kept := fun number hlt =>
    (h'.kept number (hlt.trans_le h.size_le)).trans (h.kept number hlt)
  leavesWhole := fun hcode => h'.leavesWhole (h.leavesWhole hcode)

theorem push
    {instruction : Instruction}
    (code : Array Instruction)
    (hslot : ∀ slot target, instruction = .mark slot target → 2 ≤ slot) :
    Grows code (code.push instruction) where
  size_le := by simp
  kept := fun number hlt => by rw [Array.getElem?_push, if_neg (by omega)]
  leavesWhole := by
    intro hcode state slot target hmark
    rw [Array.getElem?_push] at hmark
    split_ifs at hmark
    · exact hslot slot target (Option.some.inj hmark)
    · exact hcode state slot target hmark

/-- A branch is put in a place behind the ones that were there. -/
theorem set
    {number : Nat} {instruction : Instruction}
    (h : Grows code later)
    (hle : code.size ≤ number)
    (hslot : ∀ slot target, instruction ≠ .mark slot target) :
    Grows code (later.setIfInBounds number instruction) where
  size_le := by
    rw [Array.size_setIfInBounds]
    exact h.size_le
  kept := fun other hlt => by
    rw [Array.getElem?_setIfInBounds_ne (by omega)]
    exact h.kept other hlt
  leavesWhole := by
    intro hcode state slot target hmark
    rw [Array.getElem?_setIfInBounds] at hmark
    split_ifs at hmark
    · exact absurd (Option.some.inj hmark) (hslot slot target)
    · exact h.leavesWhole hcode state slot target hmark

end Grows

/-- From a number on, the final code has what the code has. -/
def Agrees (final code : Array Instruction) (first : Nat) : Prop :=
  ∀ number instruction, first ≤ number → code[number]? = some instruction →
    final[number]? = some instruction

theorem Agrees.of_grows
    {later : Array Instruction} {first first' : Nat}
    (h : Agrees final later first)
    (hgrows : Grows code later)
    (hle : first ≤ first') :
    Agrees final code first' := by
  intro number instruction hfirst hcode
  obtain ⟨hlt, -⟩ := Array.getElem?_eq_some_iff.1 hcode
  exact h number instruction (hle.trans hfirst) ((hgrows.kept number hlt).trans hcode)

/-! ## What is built -/

/-- Whatever the code is that has been built before and will be built later, the code that is built bridges
its entry and the state that it goes on with. -/
structure Builds (text : List Char) (build : Nat → Builder Nat) (relation : Nat → Nat → Prop) :
    Prop where
  grows : ∀ next code, Grows code (build next code).2
  bridges : ∀ next code final, Agrees final (build next code).2 code.size →
    Bridges final text (build next code).1 next relation

namespace Builds

variable {build first second : Nat → Builder Nat} {relation relation' : Nat → Nat → Prop}

theorem congr
    (h : Builds text build relation)
    (hiff : ∀ start stop, relation start stop ↔ relation' start stop) :
    Builds text build relation' :=
  ⟨h.grows, fun next code final hagrees => (h.bridges next code final hagrees).congr hiff⟩

theorem skip
    (text : List Char) :
    Builds text (fun next => pure next) Eq :=
  ⟨fun _ code => .refl code, fun next _ final _ => .refl final text next⟩

theorem emit
    {instruction : Nat → Instruction}
    (hslot : ∀ next slot target, instruction next = .mark slot target → 2 ≤ slot)
    (hne : ∀ next, instruction next ≠ .accept)
    (hsound : ∀ next place target later, Moves text (instruction next) place target later →
      target = next ∧ relation place later)
    (hcomplete : ∀ next place later, relation place later →
      Moves text (instruction next) place next later) :
    Builds text (fun next => Program.emit (instruction next)) relation where
  grows := fun next code => .push code (hslot next)
  bridges := by
    intro next code final hagrees
    refine .of_instruction (hagrees _ _ le_rfl ?_) (hne next) (hsound next) (hcomplete next)
    exact Array.getElem?_push_size

/-- The code of what comes first is added last. -/
theorem comp
    (h : Builds text first relation)
    (h' : Builds text second relation') :
    Builds text (fun next => do let middle ← second next; first middle)
      (Then relation relation') where
  grows := fun next code => (h'.grows next code).trans (h.grows _ _)
  bridges := by
    intro next code final hagrees
    have hgrows := h'.grows next code
    exact (h.bridges _ _ final (hagrees.of_grows (.refl _) hgrows.size_le)).trans
      (h'.bridges next code final (hagrees.of_grows (h.grows _ _) le_rfl))

theorem either
    (h : Builds text first relation)
    (h' : Builds text second relation') :
    Builds text
      (fun next => do
        let preferred ← first next
        let other ← second next
        Program.emit (.split preferred other))
      (fun start stop => relation start stop ∨ relation' start stop) where
  grows := fun next code =>
    ((h.grows next code).trans (h'.grows next _)).trans (.push _ (by simp))
  bridges := by
    intro next code final hagrees
    have hgrows := h.grows next code
    have hgrows' := h'.grows next (first next code).2
    have hpush : Grows (second next (first next code).2).2
        ((second next (first next code).2).2.push
          (.split (first next code).1 (second next (first next code).2).1)) := .push _ (by simp)
    refine .split (hagrees _ _ (hgrows.trans hgrows').size_le Array.getElem?_push_size)
      (h.bridges next code final (hagrees.of_grows (hgrows'.trans hpush) le_rfl))
      (h'.bridges next _ final (hagrees.of_grows hpush hgrows.size_le))

/-! ### Repetitions -/

theorem chain
    (h : Builds text build relation)
    (count : Nat) :
    Builds text (Program.chain build count) (Rounds relation count) := by
  induction count with
  | zero => exact skip text
  | succ count ih =>
    refine (ih.comp h).congr fun start stop => ?_
    rw [rounds_add_iff]
    simp only [Then, rounds_one_iff]

theorem ne_mark_of_branch
    (greedy : Bool) (inside outside slot target : Nat) :
    branch greedy inside outside ≠ .mark slot target := by
  cases greedy <;> simp [branch]

section Loops

variable (h : Builds text build relation)

include h in
/-- A body that goes on at an instruction which is put in front of it afterwards. -/
theorem grows_reserved
    {instruction : Instruction}
    (code : Array Instruction)
    (hslot : ∀ slot target, instruction ≠ .mark slot target) :
    Grows code ((build code.size (code.push .accept)).2.setIfInBounds code.size instruction) :=
  ((Grows.push code (by simp)).trans (h.grows _ _)).set le_rfl hslot

include h in
theorem bridges_reserved
    {instruction : Instruction}
    (hagrees : Agrees final
      ((build code.size (code.push .accept)).2.setIfInBounds code.size instruction) code.size) :
    final[code.size]? = some instruction ∧
      Bridges final text (build code.size (code.push .accept)).1 code.size relation := by
  have hgrows := h.grows code.size (code.push .accept)
  have hsize : code.size < (build code.size (code.push .accept)).2.size := by
    have hle := hgrows.size_le
    rw [Array.size_push] at hle
    omega
  refine ⟨hagrees _ _ le_rfl ?_, h.bridges _ _ final fun number other hfirst hcode => ?_⟩
  · rw [Array.getElem?_setIfInBounds_self_of_lt hsize]
  · rw [Array.size_push] at hfirst
    refine hagrees _ _ (by omega) ?_
    rw [Array.getElem?_setIfInBounds_ne (by omega)]
    exact hcode

include h in
theorem oneOrMore
    (greedy : Bool) :
    Builds text (Program.oneOrMore build greedy)
      (fun start stop => ∃ count, Rounds relation (count + 1) start stop) where
  grows := fun next code => grows_reserved h code (ne_mark_of_branch greedy _ _)
  bridges := by
    intro next code final hagrees
    obtain ⟨hloop, hbody⟩ := bridges_reserved h hagrees
    exact hbody.body_loop hloop

include h in
theorem zeroOrMore
    (mayBeEmpty greedy : Bool) :
    Builds text (Program.zeroOrMore build mayBeEmpty greedy)
      (fun start stop => ∃ count, Rounds relation count start stop) := by
  cases mayBeEmpty with
  | false =>
    refine ⟨fun next code => grows_reserved h code (ne_mark_of_branch greedy _ _),
      fun next code final hagrees => ?_⟩
    obtain ⟨hloop, hbody⟩ := bridges_reserved h hagrees
    exact .loop hloop hbody
  | true =>
    have hmore := h.oneOrMore greedy
    refine ⟨fun next code => (hmore.grows next code).trans (.push _ ?_),
      fun next code final hagrees => ?_⟩
    · exact fun slot target heq => absurd heq (ne_mark_of_branch greedy _ _ slot target)
    · have hgrows := hmore.grows next code
      have hpush : Grows (Program.oneOrMore build greedy next code).2
          ((Program.oneOrMore build greedy next code).2.push
            (branch greedy (Program.oneOrMore build greedy next code).1 next)) :=
        .push _ fun slot target heq => absurd heq (ne_mark_of_branch greedy _ _ slot target)
      have hentry := hmore.bridges next code final (hagrees.of_grows hpush le_rfl)
      refine (hentry.branch (hagrees _ _ hgrows.size_le Array.getElem?_push_size)
        (.refl final text next)).congr fun start stop => ?_
      constructor
      · rintro (⟨count, hrounds⟩ | rfl)
        · exact ⟨count + 1, hrounds⟩
        · exact ⟨0, rfl⟩
      · rintro ⟨count, hrounds⟩
        cases count with
        | zero => exact Or.inr hrounds
        | succ count => exact Or.inl ⟨count, hrounds⟩

end Loops

/-- A round that may be left out with all that follow it. -/
def optional (build : Nat → Builder Nat) (greedy : Bool) (next following : Nat) : Builder Nat := do
  let entry ← build following
  Program.emit (branch greedy entry next)

section Optional

variable (h : Builds text build relation)

include h in
theorem grows_optional
    (greedy : Bool) (next following : Nat) (code : Array Instruction) :
    Grows code (optional build greedy next following code).2 :=
  (h.grows following code).trans
    (.push _ fun slot target heq => absurd heq (ne_mark_of_branch greedy _ _ slot target))

include h in
theorem grows_chain_optional
    (greedy : Bool) (next count following : Nat) (code : Array Instruction) :
    Grows code (Program.chain (optional build greedy next) count following code).2 := by
  induction count generalizing following code with
  | zero => exact .refl code
  | succ count ih => exact (h.grows_optional greedy next following code).trans (ih _ _)

include h in
theorem bridges_optional
    {greedy : Bool} {next following rounds : Nat}
    (hfollowing : Bridges final text following next
      (fun start stop => ∃ count ≤ rounds, Rounds relation count start stop))
    (hagrees : Agrees final (optional build greedy next following code).2 code.size) :
    Bridges final text (optional build greedy next following code).1 next
      (fun start stop => ∃ count ≤ rounds + 1, Rounds relation count start stop) := by
  have hpush : Grows (build following code).2
      ((build following code).2.push (branch greedy (build following code).1 next)) :=
    .push _ fun slot target heq => absurd heq (ne_mark_of_branch greedy _ _ slot target)
  have hbody := h.bridges following code final (hagrees.of_grows hpush le_rfl)
  refine ((hbody.trans hfollowing).branch
    (hagrees _ _ (h.grows following code).size_le Array.getElem?_push_size)
    (.refl final text next)).congr fun start stop => ?_
  constructor
  · rintro (⟨middle, hround, count, hle, hrounds⟩ | rfl)
    · exact ⟨count + 1, by omega, middle, hround, hrounds⟩
    · exact ⟨0, by omega, rfl⟩
  · rintro ⟨count, hle, hrounds⟩
    cases count with
    | zero => exact Or.inr hrounds
    | succ count =>
      obtain ⟨middle, hround, hrounds⟩ := hrounds
      exact Or.inl ⟨middle, hround, count, by omega, hrounds⟩

include h in
theorem bridges_chain_optional
    {greedy : Bool} {next count following rounds : Nat}
    (hfollowing : Bridges final text following next
      (fun start stop => ∃ count ≤ rounds, Rounds relation count start stop))
    (hagrees : Agrees final (Program.chain (optional build greedy next) count following code).2
      code.size) :
    Bridges final text (Program.chain (optional build greedy next) count following code).1 next
      (fun start stop => ∃ number ≤ rounds + count, Rounds relation number start stop) := by
  induction count generalizing following rounds code with
  | zero => exact hfollowing
  | succ count ih =>
    have hgrows := h.grows_optional greedy next following code
    have hmore := h.grows_chain_optional greedy next count
      (optional build greedy next following code).1 (optional build greedy next following code).2
    have hround := h.bridges_optional hfollowing (hagrees.of_grows hmore le_rfl)
    have hrest := ih hround (hagrees.of_grows (.refl _) hgrows.size_le)
    rwa [Nat.add_right_comm] at hrest

include h in
theorem upTo
    (greedy : Bool) (count : Nat) :
    Builds text (Program.upTo build greedy count)
      (fun start stop => ∃ rounds ≤ count, Rounds relation rounds start stop) where
  grows := fun next code => h.grows_chain_optional greedy next count next code
  bridges := by
    intro next code final hagrees
    have hnone : Bridges final text next next
        (fun start stop => ∃ rounds ≤ 0, Rounds relation rounds start stop) := by
      refine (Bridges.refl final text next).congr fun start stop => ⟨?_, ?_⟩
      · rintro rfl
        exact ⟨0, le_rfl, rfl⟩
      · rintro ⟨rounds, hle, hrounds⟩
        obtain rfl : rounds = 0 := Nat.le_zero.1 hle
        exact hrounds
    have hbridges := h.bridges_chain_optional hnone hagrees
    rw [Nat.zero_add] at hbridges
    exact hbridges

end Optional

end Builds

/-! ## Programs of patterns -/

theorem then_eq_left
    {relation : Nat → Nat → Prop} {start stop : Nat} :
    Then Eq relation start stop ↔ relation start stop := by
  constructor
  · rintro ⟨_, rfl, h⟩
    exact h
  · exact fun h => ⟨start, rfl, h⟩

theorem then_eq_right
    {relation : Nat → Nat → Prop} {start stop : Nat} :
    Then relation Eq start stop ↔ relation start stop := by
  constructor
  · rintro ⟨_, h, rfl⟩
    exact h
  · exact fun h => ⟨stop, h, rfl⟩

theorem builds_mark
    (text : List Char) (slot : Nat)
    (hslot : 2 ≤ slot) :
    Builds text (fun next => emit (.mark slot next)) Eq := by
  refine .emit (fun next slot' target heq => ?_) (by simp) (fun next place target later hmove => ?_) ?_
  · cases heq
    exact hslot
  · cases hmove
    exact ⟨rfl, rfl⟩
  · rintro next place _ rfl
    exact .mark slot next place

theorem add_repeated_some
    (body : Pattern) (min limit : Nat) (greedy : Bool) :
    add (.repeated body min (some limit) greedy) =
      (fun next => do
        let optional ← upTo (add body) greedy (limit - min) next
        chain (add body) min optional) := by
  cases min <;> rfl

theorem builds_repeated
    {text : List Char} {body : Pattern}
    (hbody : Builds text (add body) (body.Covers text))
    (min : Nat) (max : Option Nat) (greedy : Bool) :
    Builds text (add (.repeated body min max greedy))
      ((Pattern.repeated body min max greedy).Covers text) := by
  cases max with
  | some limit =>
    rw [add_repeated_some]
    refine ((hbody.chain min).comp (hbody.upTo greedy (limit - min))).congr fun start stop => ?_
    constructor
    · rintro ⟨middle, hfirst, rounds, hle, hmore⟩
      refine ⟨min + rounds, Nat.le_add_right _ _, ?_, rounds_add_iff.2 ⟨middle, hfirst, hmore⟩⟩
      simp only [Option.some.injEq, forall_eq']
      omega
    · rintro ⟨count, hmin, hmax, hrounds⟩
      simp only [Option.some.injEq, forall_eq'] at hmax
      obtain ⟨rounds, rfl⟩ := Nat.exists_eq_add_of_le hmin
      obtain ⟨middle, hfirst, hmore⟩ := rounds_add_iff.1 hrounds
      exact ⟨middle, hfirst, rounds, by omega, hmore⟩
  | none =>
    cases min with
    | zero =>
      refine (hbody.zeroOrMore body.mayBeEmpty greedy).congr fun start stop => ?_
      constructor
      · rintro ⟨count, hrounds⟩
        exact ⟨count, Nat.zero_le _, Or.inr (by simp), hrounds⟩
      · rintro ⟨count, -, -, hrounds⟩
        exact ⟨count, hrounds⟩
    | succ min =>
      refine ((hbody.chain min).comp (hbody.oneOrMore greedy)).congr fun start stop => ?_
      constructor
      · rintro ⟨middle, hfirst, rounds, hmore⟩
        exact ⟨min + (rounds + 1), by omega, Or.inr (by simp),
          rounds_add_iff.2 ⟨middle, hfirst, hmore⟩⟩
      · rintro ⟨count, hmin, -, hrounds⟩
        obtain ⟨rounds, rfl⟩ := Nat.exists_eq_add_of_le hmin
        rw [Nat.add_assoc, Nat.add_comm 1 rounds] at hrounds
        obtain ⟨middle, hfirst, hmore⟩ := rounds_add_iff.1 hrounds
        exact ⟨middle, hfirst, rounds, hmore⟩

/-- The code of a pattern leads exactly along what the pattern matches. -/
theorem builds_add
    (text : List Char)
    {p : Pattern}
    (h : p.Numbered) :
    Builds text (add p) (p.Covers text) := by
  induction p with
  | empty => exact .skip text
  | chars set =>
    refine .emit (by simp) (by simp) (fun next place target later hmove => ?_) ?_
    · cases hmove with
      | chars hc hset => exact ⟨rfl, rfl, _, hc, hset⟩
    · rintro next place _ ⟨rfl, c, hc, hset⟩
      exact .chars hc hset
  | assertion condition =>
    refine .emit (by simp) (by simp) (fun next place target later hmove => ?_) ?_
    · cases hmove with
      | assertion hholds => exact ⟨rfl, rfl, hholds⟩
    · rintro next place _ ⟨rfl, hholds⟩
      exact .assertion hholds
  | group index name body ih =>
    have hindex : 1 ≤ index := h (index, name) List.mem_cons_self
    have hbody := ih fun group hmem => h group (List.mem_cons_of_mem _ hmem)
    refine (((builds_mark text (2 * index) (by omega)).comp hbody).comp
      (builds_mark text (2 * index + 1) (by omega))).congr fun start stop => ?_
    rw [then_eq_right, then_eq_left]
    rfl
  | seq first second ih ih' =>
    exact (ih fun group hmem => h group (List.mem_append_left _ hmem)).comp
      (ih' fun group hmem => h group (List.mem_append_right _ hmem))
  | either preferred other ih ih' =>
    exact (ih fun group hmem => h group (List.mem_append_left _ hmem)).either
      (ih' fun group hmem => h group (List.mem_append_right _ hmem))
  | repeated body min max greedy ih => exact builds_repeated (ih h) min max greedy

/-- The instruction at which a program accepts stands in front of the code of the pattern. -/
theorem grows_compile
    {p : Pattern}
    (h : p.Numbered) :
    Grows #[.accept] (compile p).code :=
  (builds_add [] h).grows 0 #[.accept]

theorem leavesWhole_compile
    {p : Pattern}
    (h : p.Numbered) :
    LeavesWhole (compile p).code := by
  refine (grows_compile h).leavesWhole fun state slot target hmark => ?_
  cases state <;> simp at hmark

/-- The program of a pattern accepts exactly what the pattern matches. -/
theorem accepts_compile_iff
    {p : Pattern}
    (h : p.Numbered)
    (text : List Char) (start stop : Nat) :
    (∃ moves, Accepts (compile p).code text moves (compile p).start start stop) ↔
      p.Covers text start stop := by
  have haccept : (compile p).code[0]? = some .accept := (grows_compile h).kept 0 (by simp)
  have hbridges : Bridges (compile p).code text (compile p).start 0 (p.Covers text) :=
    (builds_add text h).bridges 0 #[.accept] (compile p).code fun _ _ _ hcode => hcode
  constructor
  · rintro ⟨moves, haccepts⟩
    obtain ⟨middle, left, -, hcovers, hlast⟩ := hbridges.sound moves start stop haccepts
    cases hlast with
    | accept => exact hcovers
    | move hcode hmove =>
      cases haccept.symm.trans hcode
      cases hmove
  · intro hcovers
    exact hbridges.complete start stop 0 stop hcovers (.accept stop haccept)

end Program
end Regex
end LineSieve
