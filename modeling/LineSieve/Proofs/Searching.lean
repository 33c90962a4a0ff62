import LineSieve.Proofs.Ways

/-!
# What a search finds

A search runs its threads side by side and enters no state twice at one place, whichever thread has come
there first.  It still finds the first of all ways.  A state that is entered again could only lead to
what the earlier thread has been led to, and that thread is preferred: if one of its ways reaches the
end, the later ones do not matter, and if none does, there is none from the state either.

`Frontier` is what holds between two steps at one place as long as nothing has been found.  The states
that have been entered cannot be left except over a thread that is still waiting, and a thread waits on
a path of its own.  From this `head?_ways_settle` follows for one place, and `search_eq` for a text.
-/

namespace LineSieve
namespace Regex
namespace Program

variable {program : Program} {prev next : Option Char} {rest : List Char} {place : Nat}

/-! ## One step -/

/-- Whether the instruction of a state reads a character. -/
def reads (program : Program) (state : Nat) : Bool :=
  match program.code[state]? with
  | some (.chars _ _) => true
  | _ => false

/-- A thread is skipped whose state has been entered; else it accepts, or it is kept if it reads a
character, or it becomes other threads. -/
theorem explore_cons
    (steps : Nat) (thread : Thread) (stack : List Thread) (entered : Array Bool) (found : List Thread) :
    program.explore prev next place (steps + 1) (thread :: stack) entered found =
      if entered.getD thread.state true = true then
        program.explore prev next place steps stack entered found
      else
        match program.ends place thread with
        | marks :: _ => (found.reverse, some marks)
        | [] =>
          program.explore prev next place steps (program.follow prev next place thread ++ stack)
            (entered.setIfInBounds thread.state true)
            (if program.reads thread.state then thread :: found else found) := by
  rw [explore]
  by_cases hentered : entered.getD thread.state true = true
  · rw [if_pos hentered, if_pos hentered]
  rw [if_neg hentered, if_neg hentered]
  rcases Option.eq_none_or_eq_some program.code[thread.state]? with hcode | ⟨instruction, hcode⟩
  · simp [ends, follow, reads, hcode]
  · cases instruction with
    | assertion condition target =>
      by_cases hholds : condition.holds prev next = true <;>
        simp [ends, follow, reads, hcode, hholds]
    | _ => simp [ends, follow, reads, hcode]

theorem onward_eq_nil_of_not_reads
    {thread : Thread}
    (h : program.reads thread.state = false) :
    program.onward rest place thread = [] := by
  cases rest with
  | nil => rfl
  | cons c rest =>
    have hnone : program.advance? c thread = none := by
      unfold reads at h
      unfold advance?
      split
      next hcode => simp [hcode] at h
      next => rfl
    rw [onward, hnone]

/-- A thread that is not kept has no ways that read a character. -/
theorem flatMap_onward_kept
    (thread : Thread) :
    (if program.reads thread.state then [thread] else []).reverse.flatMap
      (program.onward rest place) = program.onward rest place thread := by
  cases hreads : program.reads thread.state with
  | true => simp
  | false =>
    rw [onward_eq_nil_of_not_reads hreads]
    rfl

/-- What has been found stays, and what will be found does not depend on it. -/
theorem explore_eq_append
    (program : Program) (prev next : Option Char) (place steps : Nat) (stack : List Thread)
    (entered : Array Bool) (found : List Thread) :
    program.explore prev next place steps stack entered found =
      (found.reverse ++ (program.explore prev next place steps stack entered []).1,
        (program.explore prev next place steps stack entered []).2) := by
  induction steps generalizing stack entered found with
  | zero => simp [explore]
  | succ steps ih =>
    cases stack with
    | nil => simp [explore]
    | cons thread stack =>
      rw [explore_cons, explore_cons]
      by_cases hentered : entered.getD thread.state true = true
      · rw [if_pos hentered, if_pos hentered]
        exact ih stack entered found
      rw [if_neg hentered, if_neg hentered]
      cases program.ends place thread with
      | cons marks others => simp
      | nil =>
        simp only
        rw [ih, ih _ _ (if program.reads thread.state then [thread] else [])]
        split_ifs <;> simp

/-! ## States that have been entered -/

/-- How many states have not been entered. -/
def remaining (entered : Array Bool) : Nat := entered.toList.count false

/-- A state is entered, and the others that have been entered stay so. -/
theorem getD_setIfInBounds_iff
    {entered : Array Bool} {state other : Nat} :
    (entered.setIfInBounds state true).getD other true = true ↔
      other = state ∨ entered.getD other true = true := by
  simp only [Array.getD_eq_getD_getElem?, Array.getElem?_setIfInBounds]
  split_ifs <;> grind

theorem remaining_setIfInBounds
    {entered : Array Bool} {state : Nat}
    (h : entered.getD state true = false) :
    remaining (entered.setIfInBounds state true) + 1 = remaining entered := by
  have hstate : entered[state]? = some false := by
    rw [Array.getD_eq_getD_getElem?] at h
    cases hget : entered[state]? with
    | none => simp [hget] at h
    | some b => simpa [hget] using h
  obtain ⟨hlt, hget⟩ := Array.getElem?_eq_some_iff.1 hstate
  have hpos : 0 < entered.toList.count false :=
    List.count_pos_iff.2 (hget ▸ Array.getElem_mem_toList hlt)
  rw [remaining, remaining, Array.toList_setIfInBounds, List.count_set (by simpa using hlt),
    Array.getElem_toList, hget, if_pos (by rfl), if_neg (by decide)]
  omega

/-! ## Other threads in the same state -/

theorem exists_mem_follow
    {thread other later : Thread}
    (hstate : thread.state = other.state)
    (h : later ∈ program.follow prev next place other) :
    ∃ later' ∈ program.follow prev next place thread, later'.state = later.state := by
  simp only [follow, hstate] at h ⊢
  split at h
  · split_ifs at h ⊢
    · exact ⟨_, List.mem_singleton_self _, by rw [List.mem_singleton.1 h]⟩
    · cases h
  · exact ⟨_, List.mem_singleton_self _, by rw [List.mem_singleton.1 h]⟩
  · simp only [List.mem_cons, List.not_mem_nil, or_false] at h ⊢
    rcases h with rfl | rfl
    · exact ⟨_, Or.inl rfl, rfl⟩
    · exact ⟨_, Or.inr rfl, rfl⟩
  · cases h

theorem ends_eq_nil_of_state
    {thread other : Thread}
    (hstate : thread.state = other.state)
    (h : program.ends place thread = []) :
    program.ends place other = [] := by
  simp only [ends, hstate] at h ⊢
  split at h
  · cases h
  · rfl

theorem onward_eq_nil_of_state
    {thread other : Thread}
    (hstate : thread.state = other.state)
    (h : program.onward rest place thread = []) :
    program.onward rest place other = [] := by
  obtain ⟨state, marks⟩ := other
  obtain rfl : thread.state = state := hstate
  cases rest with
  | nil => rfl
  | cons c rest =>
    have hadvance : program.advance? c ⟨thread.state, marks⟩ =
        (program.advance? c thread).map (Thread.withMarks fun _ => marks) :=
      advance?_withMarks (fun _ => marks) c thread
    simp only [onward, hadvance] at h ⊢
    cases hlater : program.advance? c thread with
    | none => rfl
    | some later =>
      have hways : program.ways (some c) rest (place + 1) ∅ later = [] := by simpa [hlater] using h
      exact ways_eq_nil_of_state (show later.state = (later.withMarks fun _ => marks).state from rfl) hways

/-! ## Between two steps -/

/-- A thread that waits for its turn, with the states that it has been in at this place. -/
structure Waiting where
  thread : Thread
  path : Finset Nat

def Waiting.ways (program : Program) (prev : Option Char) (rest : List Char) (place : Nat)
    (w : Waiting) : List Marks :=
  program.ways prev rest place w.path w.thread

/-- What holds at a place between two steps, as long as nothing has been found. -/
structure Frontier (program : Program) (prev : Option Char) (rest : List Char) (place : Nat)
    (entered : Array Bool) (waiting : List Waiting) : Prop where
  nested : waiting.Pairwise fun w later => later.path ⊆ w.path
  path_entered : ∀ w ∈ waiting, ∀ state ∈ w.path, entered.getD state true = true
  /-- From a state that has been entered one comes to another one, or to a thread that still waits and has
  been in this state. -/
  closed : ∀ thread : Thread, entered.getD thread.state true = true →
    ∀ later ∈ program.follow prev rest.head? place thread, entered.getD later.state true = true ∨
      ∃ w ∈ waiting, w.thread.state = later.state ∧ thread.state ∈ w.path
  barren : ∀ thread : Thread, entered.getD thread.state true = true →
    program.ends place thread = [] ∧ program.onward rest place thread = []

namespace Frontier

variable {entered : Array Bool} {w : Waiting} {waiting : List Waiting}

theorem start
    (program : Program) (prev : Option Char) (rest : List Char) (place : Nat) (threads : List Thread) :
    Frontier program prev rest place (Array.replicate program.code.size false)
      (threads.map fun thread => ⟨thread, ∅⟩) := by
  have hnone : ∀ thread : Thread,
      (Array.replicate program.code.size false).getD thread.state true = true →
        program.code[thread.state]? = none := by
    intro thread hentered
    rw [Array.getElem?_eq_none_iff]
    by_contra hlt
    rw [Nat.not_le] at hlt
    simp [Array.getD_eq_getD_getElem?, hlt] at hentered
  refine ⟨?_, by simp, fun thread hentered later hlater => ?_, fun thread hentered => ⟨?_, ?_⟩⟩
  · exact List.pairwise_of_forall_mem_list (by simp)
  · simp [follow, hnone thread hentered] at hlater
  · simp [ends, hnone thread hentered]
  · cases rest <;> simp [onward, advance?, hnone thread hentered]

/-- A thread whose state has been entered has no way. -/
theorem ways_eq_nil_of_entered
    (h : Frontier program prev rest place entered (w :: waiting))
    (hentered : entered.getD w.thread.state true = true) :
    w.ways program prev rest place = [] := by
  refine @ways_eq_nil _ _ _ _ _ _ (fun state => entered.getD state true = true) h.barren
    (fun thread hthread hout later hlater => ?_) hentered
  rcases h.closed thread hthread later hlater with hdone | ⟨waits, hmem, -, hpath⟩
  · exact hdone
  · -- a thread that waits longer has a shorter path
    rcases List.mem_cons.1 hmem with rfl | hlonger
    · exact absurd hpath hout
    · exact absurd ((List.pairwise_cons.1 h.nested).1 waits hlonger hpath) hout

theorem tail
    (h : Frontier program prev rest place entered (w :: waiting))
    (hentered : entered.getD w.thread.state true = true) :
    Frontier program prev rest place entered waiting where
  nested := h.nested.of_cons
  path_entered := fun waits hmem => h.path_entered waits (List.mem_cons_of_mem _ hmem)
  closed := by
    intro thread hthread later hlater
    rcases h.closed thread hthread later hlater with hdone | ⟨waits, hmem, hstate, hpath⟩
    · exact Or.inl hdone
    · rcases List.mem_cons.1 hmem with rfl | hlonger
      · exact Or.inl (hstate ▸ hentered)
      · exact Or.inr ⟨waits, hlonger, hstate, hpath⟩
  barren := h.barren

/-- The threads that a thread becomes wait in its place. -/
theorem enter
    (h : Frontier program prev rest place entered (w :: waiting))
    (hends : program.ends place w.thread = [])
    (honward : program.onward rest place w.thread = []) :
    Frontier program prev rest place (entered.setIfInBounds w.thread.state true)
      ((program.follow prev rest.head? place w.thread).map
        (fun later => ⟨later, insert w.thread.state w.path⟩) ++ waiting) := by
  obtain ⟨hshorter, hnested⟩ := List.pairwise_cons.1 h.nested
  have hself : (entered.setIfInBounds w.thread.state true).getD w.thread.state true = true :=
    getD_setIfInBounds_iff.2 (Or.inl rfl)
  have hstill : ∀ state, entered.getD state true = true →
      (entered.setIfInBounds w.thread.state true).getD state true = true :=
    fun state hstate => getD_setIfInBounds_iff.2 (Or.inr hstate)
  refine ⟨?_, ?_, fun thread hthread later hlater => ?_, fun thread hthread => ?_⟩
  · refine List.pairwise_append.2 ⟨?_, hnested, ?_⟩
    · rw [List.pairwise_map]
      exact List.pairwise_of_forall_mem_list fun _ _ _ _ => subset_rfl
    · intro new hnew old hold
      obtain ⟨later, -, rfl⟩ := List.mem_map.1 hnew
      exact (hshorter old hold).trans (Finset.subset_insert _ _)
  · intro waits hmem state hstate
    rcases List.mem_append.1 hmem with hnew | hold
    · obtain ⟨later, -, rfl⟩ := List.mem_map.1 hnew
      rcases Finset.mem_insert.1 hstate with rfl | hpath
      · exact hself
      · exact hstill _ (h.path_entered w List.mem_cons_self _ hpath)
    · exact hstill _ (h.path_entered waits (List.mem_cons_of_mem _ hold) _ hstate)
  · rcases getD_setIfInBounds_iff.1 hthread with hstate | hold
    · obtain ⟨new, hnew, hsame⟩ := exists_mem_follow hstate.symm hlater
      refine Or.inr ⟨⟨new, insert w.thread.state w.path⟩, ?_, hsame, ?_⟩
      · exact List.mem_append_left _ (List.mem_map_of_mem hnew)
      · rw [hstate]
        exact Finset.mem_insert_self _ _
    · rcases h.closed thread hold later hlater with hdone | ⟨waits, hmem, hsame, hpath⟩
      · exact Or.inl (hstill _ hdone)
      · rcases List.mem_cons.1 hmem with rfl | hlonger
        · exact Or.inl (hsame ▸ hself)
        · exact Or.inr ⟨waits, List.mem_append_right _ hlonger, hsame, hpath⟩
  · rcases getD_setIfInBounds_iff.1 hthread with hstate | hold
    · exact ⟨ends_eq_nil_of_state hstate.symm hends, onward_eq_nil_of_state hstate.symm honward⟩
    · exact h.barren thread hold

end Frontier

/-! ## One place -/

theorem length_follow_le
    (program : Program) (prev next : Option Char) (place : Nat) (thread : Thread) :
    (program.follow prev next place thread).length ≤ 2 := by
  unfold follow
  split
  · split_ifs <;> simp
  all_goals simp

/-- The first way of the threads that wait is the first one of those that will be found to read a
character, or else it ends at the place. -/
theorem head?_ways_explore
    (steps : Nat) {entered : Array Bool} {waiting : List Waiting}
    (h : Frontier program prev rest place entered waiting)
    (hsteps : waiting.length + 2 * remaining entered ≤ steps) :
    (waiting.flatMap (Waiting.ways program prev rest place)).head? =
      ((program.explore prev rest.head? place steps (waiting.map Waiting.thread) entered []).1.flatMap
          (program.onward rest place)).head?.or
        (program.explore prev rest.head? place steps (waiting.map Waiting.thread) entered []).2 := by
  induction steps generalizing entered waiting with
  | zero =>
    obtain rfl : waiting = [] := List.length_eq_zero_iff.1 (by omega)
    rfl
  | succ steps ih =>
    cases waiting with
    | nil => rfl
    | cons w waiting =>
      rw [List.length_cons] at hsteps
      rw [List.map_cons, explore_cons, List.flatMap_cons]
      by_cases hentered : entered.getD w.thread.state true = true
      · rw [if_pos hentered, h.ways_eq_nil_of_entered hentered]
        exact ih (h.tail hentered) (by omega)
      rw [if_neg hentered]
      have hnew : w.thread.state ∉ w.path :=
        fun hmem => hentered (h.path_entered w List.mem_cons_self _ hmem)
      rw [Waiting.ways, ways_eq hnew]
      cases hends : program.ends place w.thread with
      | cons marks others => rfl
      | nil =>
        simp only
        rw [explore_eq_append, List.nil_append, List.append_assoc, List.flatMap_append,
          flatMap_onward_kept]
        -- a way on from here comes before all that is found later
        cases honward : program.onward rest place w.thread with
        | cons marks others => rfl
        | nil =>
          have hleft := remaining_setIfInBounds (Bool.not_eq_true _ ▸ hentered)
          have hlength := length_follow_le program prev rest.head? place w.thread
          have hrest := ih (h.enter hends honward)
            (by simp only [List.length_append, List.length_map]; omega)
          rw [List.flatMap_append, List.flatMap_map, List.map_append, List.map_map] at hrest
          have hthreads : (program.follow prev rest.head? place w.thread).map (Waiting.thread ∘
              fun later => (⟨later, insert w.thread.state w.path⟩ : Waiting)) =
                program.follow prev rest.head? place w.thread := List.map_id _
          rw [hthreads] at hrest
          exact hrest

theorem head?_ways_settle
    (program : Program) (prev : Option Char) (rest : List Char) (place : Nat) (threads : List Thread) :
    (threads.flatMap (program.ways prev rest place ∅)).head? =
      ((program.settle prev rest.head? place threads).1.flatMap (program.onward rest place)).head?.or
        (program.settle prev rest.head? place threads).2 := by
  have hleft : remaining (Array.replicate program.code.size false) = program.code.size := by
    simp [remaining]
  have hhead := head?_ways_explore (threads.length + 2 * program.code.size + 1)
    (Frontier.start program prev rest place threads) (by rw [hleft, List.length_map]; omega)
  have hthreads : (threads.map fun thread => (⟨thread, ∅⟩ : Waiting)).map Waiting.thread = threads := by
    simp [Function.comp_def]
  rw [hthreads, List.flatMap_map] at hhead
  exact hhead

/-! ## A text -/

/-- All ways through the program that begin at a place of the text or behind it, leftmost first. -/
def allWays (program : Program) (prev : Option Char) (place : Nat) : List Char → List Marks
  | [] => program.ways prev [] place ∅ ⟨program.start, [(0, place)]⟩
  | c :: rest =>
    program.ways prev (c :: rest) place ∅ ⟨program.start, [(0, place)]⟩ ++
      allWays program (some c) (place + 1) rest

theorem flatMap_onward
    (c : Char) (rest : List Char) (place : Nat) (threads : List Thread) :
    threads.flatMap (program.onward (c :: rest) place) =
      (threads.filterMap (program.advance? c)).flatMap (program.ways (some c) rest (place + 1) ∅) := by
  induction threads with
  | nil => rfl
  | cons thread threads ih =>
    rw [List.flatMap_cons, ih, List.filterMap_cons, onward]
    cases program.advance? c thread <;> rfl

/-- The threads at a place, with one that begins there if there is no match yet. -/
def joined (program : Program) (place : Nat) (threads : List Thread) (best : Option Marks) :
    List Thread :=
  if best.isNone then threads ++ [⟨program.start, [(0, place)]⟩] else threads

/-- Running threads gives their first way, or the match that there has been before.  Without one the ways
that begin later come after those of the threads. -/
theorem run_eq
    (program : Program) (prev : Option Char) (place : Nat) (threads : List Thread)
    (best : Option Marks) (text : List Char) :
    program.run prev place threads best text =
      (threads.flatMap (program.ways prev text place ∅) ++
        if best.isNone then program.allWays prev place text else []).head?.or best := by
  induction text generalizing prev place threads best with
  | nil =>
    have hways : threads.flatMap (program.ways prev [] place ∅) ++
        (if best.isNone then program.allWays prev place [] else []) =
          (program.joined place threads best).flatMap (program.ways prev [] place ∅) := by
      cases best <;> simp [joined, allWays]
    have hlast : (program.settle prev none place (program.joined place threads best)).1.flatMap
        (program.onward [] place) = [] := List.flatMap_eq_nil_iff.2 fun _ _ => rfl
    have hsettle := head?_ways_settle program prev [] place (program.joined place threads best)
    rw [List.head?_nil, hlast] at hsettle
    rw [hways, hsettle]
    rfl
  | cons c rest ih =>
    have hways : threads.flatMap (program.ways prev (c :: rest) place ∅) ++
        (if best.isNone then program.allWays prev place (c :: rest) else []) =
          (program.joined place threads best).flatMap (program.ways prev (c :: rest) place ∅) ++
            if best.isNone then program.allWays (some c) (place + 1) rest else [] := by
      cases best <;> simp [joined, allWays]
    have hsettle := head?_ways_settle program prev (c :: rest) place
      (program.joined place threads best)
    rw [List.head?_cons, flatMap_onward] at hsettle
    have hrun : program.run prev place threads best (c :: rest) =
        let settled := program.settle prev (some c) place (program.joined place threads best)
        let later := settled.1.filterMap (program.advance? c)
        if later.isEmpty && (settled.2.or best).isSome then settled.2.or best
        else program.run (some c) (place + 1) later (settled.2.or best) rest := rfl
    rw [hways, List.head?_append, hsettle, hrun]
    generalize program.settle prev (some c) place (program.joined place threads best) = settled
    obtain ⟨active, accepted⟩ := settled
    simp only [ih, List.head?_append]
    generalize active.filterMap (program.advance? c) = later
    -- a match that has been found now comes before the ways that begin later
    cases later <;> cases accepted <;> cases best <;> simp [Option.or_assoc]

/-- A search finds the first of all ways. -/
theorem search_eq
    (program : Program) (prev : Option Char) (text : List Char) :
    program.search prev text = (program.allWays prev 0 text).head? := by
  rw [search, run_eq]
  simp

end Program
end Regex
end LineSieve
