import LineSieve.Regex.Search
import Mathlib.Data.Finset.Card
import Mathlib.Data.Finset.Range
import Mathlib.Data.Finset.SDiff
import Mathlib.Tactic

/-!
# The ways through a program

A search that tries one thing after the other takes the first branch of every split, goes on until it
accepts or is stuck, and then comes back to the last split and takes the second branch.  `ways` lists
everything that it would find, in this order, without going round: a way enters no state twice at one
place.  The first of the ways is the match that the program prefers.

This says what a search is to find without saying how threads are run.  An instruction does one of three
things: a way ends there, it reads a character, or it goes on to other states at the same place
(`ways_eq`).
-/

namespace LineSieve
namespace Regex

/-- The thread in the same state with other marks. -/
def Thread.withMarks (f : Marks → Marks) (thread : Thread) : Thread :=
  ⟨thread.state, f thread.marks⟩

namespace Program

variable (program : Program)

/-! ## Going on without going round -/

/-- How many states can still be entered. -/
def unentered (entered : Finset Nat) : Nat := (Finset.range program.code.size \ entered).card

variable {program} in
theorem unentered_insert_lt
    {entered : Finset Nat} {state : Nat} {instruction : Instruction}
    (hnew : state ∉ entered)
    (h : program.code[state]? = some instruction) :
    program.unentered (insert state entered) < program.unentered entered := by
  obtain ⟨hlt, -⟩ := Array.getElem?_eq_some_iff.1 h
  refine Finset.card_lt_card ⟨Finset.sdiff_subset_sdiff subset_rfl (Finset.subset_insert _ _), ?_⟩
  intro hsubset
  have hmem := hsubset (Finset.mem_sdiff.2 ⟨Finset.mem_range.2 hlt, hnew⟩)
  exact (Finset.mem_sdiff.1 hmem).2 (Finset.mem_insert_self _ _)

/-- The marks of all ways from a thread, the preferred ones first.  `entered` holds the states that the
thread has been in since it has come to the place. -/
def ways (prev : Option Char) (rest : List Char) (place : Nat) (entered : Finset Nat)
    (thread : Thread) : List Marks :=
  if _hnew : thread.state ∈ entered then []
  else
    match _h : program.code[thread.state]? with
    | none => []
    | some .accept => [(1, place) :: thread.marks]
    | some (.chars set target) =>
      match rest with
      | [] => []
      | c :: rest =>
        if set.contains c then ways (some c) rest (place + 1) ∅ ⟨target, thread.marks⟩ else []
    | some (.assertion condition target) =>
      if condition.holds prev rest.head? then
        ways prev rest place (insert thread.state entered) ⟨target, thread.marks⟩
      else []
    | some (.mark slot target) =>
      ways prev rest place (insert thread.state entered) ⟨target, (slot, place) :: thread.marks⟩
    | some (.split preferred other) =>
      ways prev rest place (insert thread.state entered) ⟨preferred, thread.marks⟩ ++
        ways prev rest place (insert thread.state entered) ⟨other, thread.marks⟩
termination_by (rest.length, program.unentered entered)
decreasing_by
  · exact Prod.Lex.left _ _ (Nat.lt_succ_self _)
  all_goals exact Prod.Lex.right _ (unentered_insert_lt _hnew _h)

/-! ## What an instruction does -/

/-- The way that ends where the thread is. -/
def ends (place : Nat) (thread : Thread) : List Marks :=
  match program.code[thread.state]? with
  | some .accept => [(1, place) :: thread.marks]
  | _ => []

/-- The ways of a thread that reads a character where it is. -/
def onward (rest : List Char) (place : Nat) (thread : Thread) : List Marks :=
  match rest with
  | [] => []
  | c :: rest =>
    match program.advance? c thread with
    | none => []
    | some later => program.ways (some c) rest (place + 1) ∅ later

/-- The threads that a thread becomes at the same place, the preferred one first. -/
def follow (prev next : Option Char) (place : Nat) (thread : Thread) : List Thread :=
  match program.code[thread.state]? with
  | some (.assertion condition target) =>
    if condition.holds prev next then [⟨target, thread.marks⟩] else []
  | some (.mark slot target) => [⟨target, (slot, place) :: thread.marks⟩]
  | some (.split preferred other) => [⟨preferred, thread.marks⟩, ⟨other, thread.marks⟩]
  | _ => []

variable {program} {prev next : Option Char} {rest : List Char} {place : Nat} {entered : Finset Nat}
  {thread : Thread}

theorem exists_instruction_of_mem_follow
    {later : Thread}
    (h : later ∈ program.follow prev next place thread) :
    ∃ instruction, program.code[thread.state]? = some instruction := by
  unfold follow at h
  split at h <;> first | exact ⟨_, by assumption⟩ | cases h

theorem ways_of_mem
    (h : thread.state ∈ entered) :
    program.ways prev rest place entered thread = [] := by
  rw [ways, dif_pos h]

/-- A way ends where the thread is, or it reads a character, or it goes on at the same place. -/
theorem ways_eq
    (h : thread.state ∉ entered) :
    program.ways prev rest place entered thread =
      program.ends place thread ++ program.onward rest place thread ++
        (program.follow prev rest.head? place thread).flatMap
          (program.ways prev rest place (insert thread.state entered)) := by
  rw [ways, dif_neg h]
  split
  next hcode => cases rest <;> simp [ends, onward, follow, advance?, hcode]
  next hcode => cases rest <;> simp [ends, onward, follow, advance?, hcode]
  next set target hcode =>
    cases rest with
    | nil => simp [ends, onward, follow, hcode]
    | cons c rest =>
      simp only [ends, onward, follow, advance?, hcode]
      split_ifs <;> simp
  next condition target hcode =>
    have honward : program.onward rest place thread = [] := by
      cases rest <;> simp [onward, advance?, hcode]
    rw [honward]
    simp only [ends, follow, hcode]
    split_ifs <;> simp
  next slot target hcode =>
    have honward : program.onward rest place thread = [] := by
      cases rest <;> simp [onward, advance?, hcode]
    rw [honward]
    simp [ends, follow, hcode]
  next preferred other hcode =>
    have honward : program.onward rest place thread = [] := by
      cases rest <;> simp [onward, advance?, hcode]
    rw [honward]
    simp [ends, follow, hcode]

/-! ## Other marks -/

section Marks

variable {f : Marks → Marks} {g : Nat → Nat}
  (hmark : ∀ slot place marks, f ((slot, place) :: marks) = (slot, g place) :: f marks)

include hmark in
theorem ends_withMarks
    (place : Nat) (thread : Thread) :
    program.ends (g place) (thread.withMarks f) = (program.ends place thread).map f := by
  simp only [ends, Thread.withMarks]
  split <;> simp [hmark]

include hmark in
theorem follow_withMarks
    (prev next : Option Char) (place : Nat) (thread : Thread) :
    program.follow prev next (g place) (thread.withMarks f) =
      (program.follow prev next place thread).map (Thread.withMarks f) := by
  simp only [follow, Thread.withMarks]
  split
  · split_ifs <;> rfl
  · simp [hmark, Thread.withMarks]
  · rfl
  · rfl

theorem advance?_withMarks
    (f : Marks → Marks) (c : Char) (thread : Thread) :
    program.advance? c (thread.withMarks f) =
      (program.advance? c thread).map (Thread.withMarks f) := by
  simp only [advance?, Thread.withMarks]
  split
  · split_ifs <;> rfl
  · rfl

include hmark in
theorem ways_withMarks_of_onward
    (honward : ∀ thread : Thread,
      program.onward rest (g place) (thread.withMarks f) = (program.onward rest place thread).map f)
    (entered : Finset Nat) (thread : Thread) :
    program.ways prev rest (g place) entered (thread.withMarks f) =
      (program.ways prev rest place entered thread).map f := by
  induction hleft : program.unentered entered using Nat.strong_induction_on
    generalizing entered thread with
  | _ left ih =>
    by_cases hnew : thread.state ∈ entered
    · rw [ways_of_mem hnew, ways_of_mem (show (thread.withMarks f).state ∈ entered from hnew)]
      rfl
    rw [ways_eq hnew, ways_eq (show (thread.withMarks f).state ∉ entered from hnew),
      ends_withMarks hmark, honward, follow_withMarks hmark, List.map_append, List.map_append,
      List.map_flatMap, List.flatMap_map]
    congr 1
    refine List.flatMap_congr fun later hlater => ?_
    obtain ⟨instruction, hcode⟩ := exists_instruction_of_mem_follow hlater
    exact ih _ (hleft ▸ unentered_insert_lt hnew hcode) _ _ rfl

include hmark in
/-- What is noted along a way depends neither on what has been noted before nor on how the places are
numbered. -/
theorem ways_withMarks
    (hplace : ∀ place, g (place + 1) = g place + 1)
    (prev : Option Char) (rest : List Char) (place : Nat) (entered : Finset Nat) (thread : Thread) :
    program.ways prev rest (g place) entered (thread.withMarks f) =
      (program.ways prev rest place entered thread).map f := by
  induction rest generalizing prev place entered thread with
  | nil => exact ways_withMarks_of_onward hmark (fun _ => rfl) entered thread
  | cons c rest ih =>
    refine ways_withMarks_of_onward hmark (fun thread => ?_) entered thread
    rw [onward, onward, advance?_withMarks, ← hplace]
    cases program.advance? c thread with
    | none => rfl
    | some later => exact ih (some c) (place + 1) ∅ later

end Marks

/-- Whether there is a way is a matter of the state. -/
theorem ways_eq_nil_of_state
    {other : Thread}
    (hstate : thread.state = other.state)
    (h : program.ways prev rest place entered thread = []) :
    program.ways prev rest place entered other = [] := by
  have hbase : ∀ marks : Marks, program.ways prev rest place entered ⟨thread.state, marks⟩ =
      (program.ways prev rest place entered ⟨thread.state, []⟩).map (· ++ marks) :=
    fun marks => @ways_withMarks _ (· ++ marks) id (fun _ _ _ => rfl) (fun _ => rfl) _ _ _ _
      ⟨thread.state, []⟩
  have hnone : program.ways prev rest place entered ⟨thread.state, []⟩ = [] := by
    have hthread := hbase thread.marks
    rw [h] at hthread
    exact List.map_eq_nil_iff.1 hthread.symm
  have hother := hbase other.marks
  rwa [hnone, hstate] at hother

/-! ## Ways that cannot be -/

/-- From a set of states that cannot be left, and in which nothing ends or is read, there is no way. -/
theorem ways_eq_nil
    {barren : Nat → Prop}
    (hstop : ∀ thread : Thread, barren thread.state →
      program.ends place thread = [] ∧ program.onward rest place thread = [])
    (hstay : ∀ thread : Thread, barren thread.state → thread.state ∉ entered →
      ∀ later ∈ program.follow prev rest.head? place thread, barren later.state)
    (h : barren thread.state) :
    program.ways prev rest place entered thread = [] := by
  induction hleft : program.unentered entered using Nat.strong_induction_on
    generalizing entered thread with
  | _ left ih =>
    by_cases hnew : thread.state ∈ entered
    · exact ways_of_mem hnew
    obtain ⟨hends, honward⟩ := hstop thread h
    rw [ways_eq hnew, hends, honward, List.nil_append, List.nil_append, List.flatMap_eq_nil_iff]
    intro later hlater
    obtain ⟨instruction, hcode⟩ := exists_instruction_of_mem_follow hlater
    refine ih _ (hleft ▸ unentered_insert_lt hnew hcode) (fun thread hbarren hout => ?_)
      (hstay thread h hnew later hlater) rfl
    exact hstay thread hbarren fun hmem => hout (Finset.mem_insert_of_mem hmem)

/-! ## Going round leads nowhere else -/

/-- There is a way if it ends or reads a character at once, or goes on from a thread with a way. -/
theorem ways_ne_nil_iff
    (h : thread.state ∉ entered) :
    program.ways prev rest place entered thread ≠ [] ↔
      program.ends place thread ≠ [] ∨ program.onward rest place thread ≠ [] ∨
        ∃ later ∈ program.follow prev rest.head? place thread,
          program.ways prev rest place (insert thread.state entered) later ≠ [] := by
  rw [ways_eq h, ne_eq, List.append_eq_nil_iff, List.append_eq_nil_iff, List.flatMap_eq_nil_iff]
  simp only [not_and_or, not_forall, exists_prop, or_assoc, ne_eq]

/-- What has a way with some states forbidden has a way with fewer of them forbidden. -/
theorem ways_ne_nil_of_subset
    {fewer : Finset Nat}
    (hsubset : fewer ⊆ entered)
    (h : program.ways prev rest place entered thread ≠ []) :
    program.ways prev rest place fewer thread ≠ [] := by
  induction hleft : program.unentered entered using Nat.strong_induction_on
    generalizing entered fewer thread with
  | _ left ih =>
    have hnew : thread.state ∉ entered := fun hmem => h (ways_of_mem hmem)
    rw [ways_ne_nil_iff hnew] at h
    rw [ways_ne_nil_iff fun hmem => hnew (hsubset hmem)]
    refine h.imp_right (Or.imp_right ?_)
    rintro ⟨later, hlater, hways⟩
    obtain ⟨instruction, hcode⟩ := exists_instruction_of_mem_follow hlater
    exact ⟨later, hlater, ih _ (hleft ▸ unentered_insert_lt hnew hcode)
      (Finset.insert_subset_insert _ hsubset) hways rfl⟩

/-- A way passes through a state, which has a way then, or it avoids the state. -/
theorem ways_ne_nil_or_avoids
    (other : Thread)
    (h : program.ways prev rest place entered thread ≠ []) :
    program.ways prev rest place ∅ other ≠ [] ∨
      program.ways prev rest place (insert other.state entered) thread ≠ [] := by
  induction hleft : program.unentered entered using Nat.strong_induction_on
    generalizing entered thread with
  | _ left ih =>
    have hnew : thread.state ∉ entered := fun hmem => h (ways_of_mem hmem)
    by_cases hstate : thread.state = other.state
    · exact Or.inl fun hnone =>
        ways_ne_nil_of_subset (Finset.empty_subset _) h (ways_eq_nil_of_state hstate.symm hnone)
    have hnew' : thread.state ∉ insert other.state entered := by
      rw [Finset.mem_insert, not_or]
      exact ⟨hstate, hnew⟩
    rw [ways_ne_nil_iff hnew] at h
    rw [ways_ne_nil_iff hnew']
    rcases h with hends | honward | ⟨later, hlater, hways⟩
    · exact Or.inr (Or.inl hends)
    · exact Or.inr (Or.inr (Or.inl honward))
    · obtain ⟨instruction, hcode⟩ := exists_instruction_of_mem_follow hlater
      refine (ih _ (hleft ▸ unentered_insert_lt hnew hcode) hways rfl).imp_right fun havoids => ?_
      rw [Finset.insert_comm] at havoids
      exact Or.inr (Or.inr ⟨later, hlater, havoids⟩)

/-- A state from which a thread can go on to one with a way has a way itself. -/
theorem ways_ne_nil_of_mem_follow
    {later : Thread}
    (hlater : later ∈ program.follow prev rest.head? place thread)
    (h : program.ways prev rest place ∅ later ≠ []) :
    program.ways prev rest place ∅ thread ≠ [] := by
  rcases ways_ne_nil_or_avoids thread h with hdone | havoids
  · exact hdone
  · rw [ways_ne_nil_iff (Finset.notMem_empty _)]
    exact Or.inr (Or.inr ⟨later, hlater, havoids⟩)

end Program
end Regex
end LineSieve
