import LineSieve.Proofs.Pool
import Mathlib.Data.Prod.Lex
import Mathlib.Algebra.BigOperators.Group.List.Basic
import Mathlib.Algebra.GroupWithZero.Nat

/-!
# Every run ends

Each step of a worker brings its file to a later stage, or leaves less to do at the same one.  So no
sequence of steps goes on for ever, and since there is always a worker that can take a step until
all are finished, a run can only end when all of them are.
-/

namespace LineSieve
namespace Process

/-- How many stages there are to come, at most. -/
def Phase.stage : Phase → Nat
  | waiting => 8
  | probing _ _ _ _ => 7
  | checking _ _ _ _ _ => 7
  | making _ _ _ => 7
  | creating _ => 6
  | opening _ => 5
  | writing _ _ _ => 4
  | granting _ _ => 3
  | publishing _ _ => 2
  | dropping _ _ _ => 1
  | finished _ => 0

/-- How much there is left to do at this stage.  A directory that goes from those to be tried to the
missing ones has been tried once. -/
def Phase.size : Phase → Nat
  | probing _ _ directories missing => 3 * directories.length + 2 * missing.length + 2
  | checking _ _ _ _ missing => 2 * missing.length + 1
  | making _ _ missing => 2 * missing.length
  | writing _ _ pieces => pieces.length
  | _ => 0

/-- A later stage, or the same one with less to do. -/
def Phase.Before (later phase : Phase) : Prop :=
  later.stage < phase.stage ∨ later.stage = phase.stage ∧ later.size < phase.size

theorem Phase.Before.ne_waiting
    {later phase : Phase}
    (h : later.Before phase) :
    later ≠ .waiting := by
  rintro rfl
  cases phase <;> simp [Before, stage, size] at h

/-- Every step of a worker makes progress. -/
theorem before_advance
    (config : Config) (root : Path) (worker : Nat) (path : Path) (fs : FileSystem) {phase : Phase}
    (hopen : phase.isFinished = false) :
    (advance config root worker path fs phase).2.Before phase := by
  cases phase with
  | waiting =>
    refine Or.inl ?_
    simp only [advance, depart]
    repeat' split
    all_goals simp [Phase.stage]
  | probing target parent directories missing =>
    cases directories with
    | nil => exact Or.inl (by simp [advance, Phase.stage])
    | cons directory above =>
      refine Or.inr ?_
      simp only [advance]
      repeat' split
      all_goals simp only [Phase.stage, Phase.size, List.length_cons, true_and]
      all_goals omega
  | checking target parent directory cause missing =>
    simp only [advance]
    split
    · exact Or.inr ⟨rfl, Nat.lt_succ_self _⟩
    · exact Or.inl (by simp [Phase.stage])
  | making target parent missing =>
    cases missing with
    | nil => exact Or.inl (by simp [advance, Phase.stage])
    | cons directory missing =>
      refine Or.inr ?_
      simp only [advance]
      split
      all_goals simp only [Phase.stage, Phase.size, List.length_cons, true_and]
      all_goals omega
  | writing target sifting pieces =>
    cases pieces with
    | nil =>
      refine Or.inl ?_
      simp only [advance]
      repeat' split
      all_goals simp [Phase.stage]
    | cons piece pieces => exact Or.inr ⟨rfl, Nat.lt_succ_self _⟩
  | finished result => cases hopen
  | _ =>
    refine Or.inl ?_
    simp only [advance]
    repeat' split
    all_goals simp [Phase.stage]

end Process

namespace Dispatch
namespace Pool

open Process

variable {config : Config} {parallelism : Parallelism} {root : Path} {pool later : Pool}

/-- What all workers together have left to do. -/
def load (pool : Pool) : ℕ ×ₗ ℕ :=
  toLex ((pool.workers.map fun worker => worker.phase.stage).sum,
    (pool.workers.map fun worker => worker.phase.size).sum)

theorem load_lt
    (hstep : Step config parallelism root pool later) :
    later.load < pool.load := by
  cases hstep with
  | @move index worker hget hopen hroom =>
    obtain ⟨hlt, hworker⟩ := List.getElem?_eq_some_iff.1 hget
    have hbefore := before_advance config root index worker.path pool.fs hopen
    generalize hmoved : advance config root index worker.path pool.fs worker.phase = moved at hbefore
    obtain ⟨front, back, hworkers, -, hset⟩ :=
      @List.exists_of_set _ index ⟨worker.path, moved.2⟩ pool.workers hlt
    rw [hworker] at hworkers
    rw [load, load, Prod.Lex.toLex_lt_toLex, after, hmoved]
    simp only [hset]
    rw [hworkers]
    simp only [List.map_append, List.map_cons, List.sum_append, List.sum_cons]
    rcases hbefore with hstage | ⟨hstage, hsize⟩
    · exact Or.inl (by omega)
    · exact Or.inr ⟨by omega, by omega⟩

/-- No run goes on for ever. -/
theorem wellFounded_step
    (config : Config) (parallelism : Parallelism) (root : Path) :
    WellFounded fun later pool => Step config parallelism root pool later :=
  Subrelation.wf load_lt (InvImage.wf load wellFounded_lt)

/-- As long as some worker has not finished, one of them can take a step. -/
theorem exists_step
    (config : Config) (parallelism : Parallelism) (root : Path)
    (hopen : ¬pool.IsComplete) :
    ∃ later, Step config parallelism root pool later := by
  simp only [IsComplete, not_forall, Bool.not_eq_true] at hopen
  obtain ⟨idle, hidle, hwaiting⟩ := hopen
  by_cases hrunning : ∃ worker ∈ pool.workers, worker.phase.isRunning = true
  · obtain ⟨worker, hmem, hrun⟩ := hrunning
    obtain ⟨index, hget⟩ := List.mem_iff_getElem?.1 hmem
    refine ⟨_, .move hget ?_ ?_⟩
    · cases hphase : worker.phase <;> rw [hphase] at hrun <;> first | rfl | cases hrun
    · intro hphase
      rw [hphase] at hrun
      cases hrun
  · -- nobody is at work, so there is room to begin a file
    obtain ⟨index, hget⟩ := List.mem_iff_getElem?.1 hidle
    refine ⟨_, .move hget hwaiting fun _ => ?_⟩
    have hnone : pool.running = 0 := by
      rw [running, List.countP_eq_zero]
      intro worker hmem hrun
      exact hrunning ⟨worker, hmem, hrun⟩
    rw [HasRoom, hnone]
    omega

/-- Every state of a pool can be continued until all workers have finished. -/
theorem exists_complete
    (config : Config) (parallelism : Parallelism) (root : Path) (pool : Pool) :
    ∃ later, Reaches config parallelism root pool later ∧ later.IsComplete := by
  induction pool using (wellFounded_step config parallelism root).induction with
  | _ pool ih =>
    by_cases hcomplete : pool.IsComplete
    · exact ⟨pool, .refl, hcomplete⟩
    · obtain ⟨next, hstep⟩ := exists_step config parallelism root hcomplete
      obtain ⟨later, hreaches, hdone⟩ := ih next hstep
      exact ⟨later, .head hstep hreaches, hdone⟩

end Pool
end Dispatch
end LineSieve
