import LineSieve.Proofs.Discipline
import LineSieve.Proofs.Termination

/-!
# How a run ends

When all workers of a disciplined run have finished, the tree is settled by the prospects alone,
whatever the order of the steps was.  Processing the files one after the other is one of these runs,
and so is processing a single file alone; both therefore show what the prospects are.
-/

namespace LineSieve
namespace Dispatch

open FileSystem Process

/-- All prospects have come true, and nothing else has changed. -/
structure Settled (fs : FileSystem) (paths : List Path) (prospect : Path → Prospect)
    (now : FileSystem) : Prop where
  workingDirectory : now.workingDirectory = fs.workingDirectory
  made : ∀ path ∈ paths, ∀ location ∈ (prospect path).made,
    now.entry? location = some .directory
  published : ∀ path ∈ paths, ∀ location entry,
    (prospect path).published = some (location, entry) → now.entry? location = some entry
  untouched : ∀ location, (∀ path ∈ paths, location ∉ (prospect path).made) →
    (∀ path ∈ paths, ∀ entry, (prospect path).published ≠ some (location, entry)) →
      now.entry? location = fs.entry? location

namespace Settled

variable {fs now now' : FileSystem} {paths paths' : List Path} {prospect : Path → Prospect}

/-- The prospects decide what is in every place. -/
theorem sameTree
    (h : Settled fs paths prospect now)
    (h' : Settled fs paths' prospect now')
    (hpaths : ∀ path, path ∈ paths ↔ path ∈ paths') :
    SameTree now now' := by
  refine ⟨h'.workingDirectory.trans h.workingDirectory.symm, fun location => ?_⟩
  by_cases hmade : ∃ path ∈ paths, location ∈ (prospect path).made
  · obtain ⟨path, hmem, hlocation⟩ := hmade
    rw [h.made path hmem location hlocation,
      h'.made path ((hpaths path).1 hmem) location hlocation]
  by_cases hpublished : ∃ path ∈ paths, ∃ entry, (prospect path).published = some (location, entry)
  · obtain ⟨path, hmem, entry, hlocation⟩ := hpublished
    rw [h.published path hmem location entry hlocation,
      h'.published path ((hpaths path).1 hmem) location entry hlocation]
  · simp only [not_exists, not_and] at hmade hpublished
    rw [h.untouched location hmade hpublished]
    exact h'.untouched location (fun path hmem => hmade path ((hpaths path).2 hmem))
      fun path hmem => hpublished path ((hpaths path).2 hmem)

/-- The order of the files does not matter. -/
theorem of_mem_iff
    (h : Settled fs paths prospect now)
    (hpaths : ∀ path, path ∈ paths ↔ path ∈ paths') :
    Settled fs paths' prospect now where
  workingDirectory := h.workingDirectory
  made := fun path hmem => h.made path ((hpaths path).2 hmem)
  published := fun path hmem => h.published path ((hpaths path).2 hmem)
  untouched := fun location hmade hpublished => h.untouched location
    (fun path hmem => hmade path ((hpaths path).1 hmem))
    fun path hmem => hpublished path ((hpaths path).1 hmem)

/-- What a file changes when it is processed alone, it changes among others, and in the same way. -/
theorem entry?_eq_of_changed
    {path : Path}
    (h : Settled fs paths prospect now)
    (halone : Settled fs [path] prospect now')
    (hmem : path ∈ paths)
    {location : Location}
    (hchanged : now'.entry? location ≠ fs.entry? location) :
    now.entry? location = now'.entry? location := by
  by_cases hmade : location ∈ (prospect path).made
  · rw [h.made path hmem location hmade,
      halone.made path (List.mem_singleton_self path) location hmade]
  by_cases hpublished : ∃ entry, (prospect path).published = some (location, entry)
  · obtain ⟨entry, hentry⟩ := hpublished
    rw [h.published path hmem location entry hentry,
      halone.published path (List.mem_singleton_self path) location entry hentry]
  · refine absurd (halone.untouched location ?_ ?_) hchanged
    · simpa using hmade
    · simpa using hpublished

/-- What no file changes when it is processed alone stays as it was. -/
theorem entry?_eq_of_unchanged
    {alone : Path → FileSystem}
    (h : Settled fs paths prospect now)
    (halone : ∀ path ∈ paths, Settled fs [path] prospect (alone path))
    {location : Location}
    (hunchanged : ∀ path ∈ paths, FileSystem.entry? (alone path) location = fs.entry? location) :
    now.entry? location = fs.entry? location := by
  by_cases hmade : ∃ path ∈ paths, location ∈ (prospect path).made
  · obtain ⟨path, hmem, hlocation⟩ := hmade
    rw [← hunchanged path hmem, h.made path hmem location hlocation,
      (halone path hmem).made path (List.mem_singleton_self path) location hlocation]
  by_cases hpublished : ∃ path ∈ paths, ∃ entry, (prospect path).published = some (location, entry)
  · obtain ⟨path, hmem, entry, hlocation⟩ := hpublished
    rw [← hunchanged path hmem, h.published path hmem location entry hlocation,
      (halone path hmem).published path (List.mem_singleton_self path) location entry hlocation]
  · simp only [not_exists, not_and] at hmade hpublished
    exact h.untouched location hmade hpublished

/-- Two runs of which each file changes the same when it is processed alone leave the same tree. -/
theorem sameTree_of_alone
    {α : Type} {files : List α} {path path' : α → Path} {prospect' : Path → Prospect}
    (alone alone' : Path → FileSystem)
    (h : Settled fs (files.map path) prospect now)
    (h' : Settled fs (files.map path') prospect' now')
    (halone : ∀ file ∈ files, Settled fs [path file] prospect (alone (path file)))
    (halone' : ∀ file ∈ files, Settled fs [path' file] prospect' (alone' (path' file)))
    (hsame : ∀ file ∈ files, alone' (path' file) = alone (path file)) :
    SameTree now now' := by
  refine ⟨h'.workingDirectory.trans h.workingDirectory.symm, fun location => ?_⟩
  by_cases hchanged : ∃ file ∈ files,
      FileSystem.entry? (alone (path file)) location ≠ fs.entry? location
  · obtain ⟨file, hmem, hchanged⟩ := hchanged
    have hchanged' := hchanged
    rw [← hsame file hmem] at hchanged'
    rw [h.entry?_eq_of_changed (halone file hmem) (List.mem_map_of_mem hmem) hchanged,
      h'.entry?_eq_of_changed (halone' file hmem) (List.mem_map_of_mem hmem) hchanged',
      hsame file hmem]
  · simp only [not_exists, not_and, not_not] at hchanged
    have hunchanged : now.entry? location = fs.entry? location :=
      @entry?_eq_of_unchanged fs now (files.map path) prospect alone h
        (List.forall_mem_map.2 halone) location (List.forall_mem_map.2 hchanged)
    have hunchanged' : now'.entry? location = fs.entry? location := by
      refine @entry?_eq_of_unchanged fs now' (files.map path') prospect' alone' h'
        (List.forall_mem_map.2 halone') location (List.forall_mem_map.2 fun file hmem => ?_)
      rw [hsame file hmem]
      exact hchanged file hmem
    rw [hunchanged, hunchanged']

end Settled

variable {config : Config} {parallelism : Parallelism} {root : Path} {fs : FileSystem}
  {paths : List Path} {prospect : Path → Prospect} {Tree : FileSystem → Prop}
  {Good : Nat → Path → FileSystem → Phase → Prop} {pool : Pool}

/-- Fewer workers keep the discipline as well. -/
theorem Discipline.of_subset
    {fewer : List Path}
    (d : Discipline config root fs paths prospect Tree Good)
    (hsubset : fewer ⊆ paths) :
    Discipline config root fs fewer prospect Tree Good where
  tree_start := d.tree_start
  good_start := fun worker path hmem => d.good_start worker path (hsubset hmem)
  change := fun hmem => d.change (hsubset hmem)
  good_step := fun hmem => d.good_step (hsubset hmem)
  tree_step := fun hmem => d.tree_step (hsubset hmem)
  good_stable := fun hmem hother => d.good_stable (hsubset hmem) (hsubset hother)
  scratch := d.scratch
  result := fun hmem => d.result (hsubset hmem)
  made := fun hmem => d.made (hsubset hmem)
  published := fun hmem => d.published (hsubset hmem)

namespace Pool

theorem exists_finished
    (hcomplete : pool.IsComplete)
    {worker : Worker}
    (hmem : worker ∈ pool.workers) :
    ∃ result, worker.phase = .finished result := by
  have hfinished := hcomplete worker hmem
  cases hphase : worker.phase with
  | finished result => exact ⟨result, rfl⟩
  | _ => rw [hphase] at hfinished; cases hfinished

namespace Orderly

/-- When all workers have finished, the prospects have come true. -/
theorem settled
    (d : Discipline config root fs paths prospect Tree Good)
    (h : Orderly fs paths prospect Tree Good pool)
    (hcomplete : pool.IsComplete) :
    Settled fs paths prospect pool.fs := by
  have hgood : ∀ path ∈ paths, ∃ worker result, Good worker path pool.fs (.finished result) := by
    intro path hmem
    rw [← h.files] at hmem
    obtain ⟨worker, hworker, rfl⟩ := List.mem_map.1 hmem
    obtain ⟨index, hget⟩ := List.mem_iff_getElem?.1 hworker
    obtain ⟨result, hresult⟩ := exists_finished hcomplete hworker
    have hgood := h.good index worker hget
    rw [hresult] at hgood
    exact ⟨index, result, hgood⟩
  refine ⟨h.workingDirectory, ?_, ?_, ?_⟩
  · intro path hmem
    obtain ⟨worker, result, hfinished⟩ := hgood path hmem
    exact d.made hmem h.tree hfinished
  · intro path hmem
    obtain ⟨worker, result, hfinished⟩ := hgood path hmem
    exact d.published hmem hfinished
  · intro location hmade hpublished
    rcases h.accounted location with hsame | ⟨path, hmem, hlocation, -⟩ |
      ⟨path, hmem, entry, hentry, -⟩
    · exact hsame
    · exact absurd hlocation (hmade path hmem)
    · exact absurd hentry (hpublished path hmem entry)

/-- Every worker reports what its prospect says. -/
theorem results_eq
    (d : Discipline config root fs paths prospect Tree Good)
    (h : Orderly fs paths prospect Tree Good pool)
    (hcomplete : pool.IsComplete) :
    pool.results = paths.map fun path => (prospect path).result := by
  rw [← h.files, List.map_map, results]
  have hworker : ∀ worker ∈ pool.workers,
      worker.phase.result? = some ((prospect worker.path).result) := by
    intro worker hmem
    obtain ⟨index, hget⟩ := List.mem_iff_getElem?.1 hmem
    obtain ⟨result, hresult⟩ := exists_finished hcomplete hmem
    have hgood := h.good index worker hget
    rw [hresult] at hgood ⊢
    rw [Phase.result?, d.result (h.path_mem hget) hgood]
  rw [List.filterMap_congr hworker]
  exact congrFun List.filterMap_eq_map pool.workers

theorem exists_running_of_scratch
    (d : Discipline config root fs paths prospect Tree Good)
    (h : Orderly fs paths prospect Tree Good pool)
    {index : Nat} {s : Scratch}
    (hs : pool.fs.scratch[index]? = some s) :
    ∃ worker, pool.workers[index]? = some worker ∧ worker.phase.isRunning = true := by
  rcases Nat.lt_or_ge index pool.workers.length with hlt | hge
  · refine ⟨pool.workers[index], List.getElem?_eq_getElem hlt, ?_⟩
    by_contra hidle
    have hnone := d.scratch (h.good index _ (List.getElem?_eq_getElem hlt)) (by simpa using hidle)
    rw [hnone] at hs
    cases hs
  · rw [h.scratch index hge] at hs
    cases hs

/-- When all workers have finished, no scratch file is left. -/
theorem scratch_eq_none
    (d : Discipline config root fs paths prospect Tree Good)
    (h : Orderly fs paths prospect Tree Good pool)
    (hcomplete : pool.IsComplete)
    (index : Nat) :
    pool.fs.scratch[index]? = none := by
  rw [Option.eq_none_iff_forall_ne_some]
  intro s hs
  obtain ⟨worker, hget, hrunning⟩ := h.exists_running_of_scratch d hs
  obtain ⟨result, hresult⟩ := exists_finished hcomplete (List.mem_of_getElem? hget)
  rw [hresult] at hrunning
  cases hrunning

end Orderly

/-! ## One file after the other -/

theorem isRunning_of_isFinished
    {phase : Phase}
    (h : phase.isFinished = true) :
    phase.isRunning = false := by
  cases phase with
  | finished result => rfl
  | _ => cases h

/-- What a worker does alone is a run of the pool in which the others wait. -/
theorem reaches_of_leads
    (parallelism : Parallelism)
    {index : Nat} {path : Path} {before after : FileSystem × Phase} {workers : List Worker}
    (hget : workers[index]? = some ⟨path, before.2⟩)
    (hroom : before.2 = .waiting → HasRoom parallelism ⟨before.1, workers⟩)
    (h : Leads config root index path before after) :
    Reaches config parallelism root ⟨before.1, workers⟩
      ⟨after.1, workers.set index ⟨path, after.2⟩⟩ := by
  induction h using Relation.ReflTransGen.head_induction_on generalizing workers with
  | refl =>
    obtain ⟨hlt, heq⟩ := List.getElem?_eq_some_iff.1 hget
    rw [← heq, List.set_getElem_self]
  | @head before middle hmoves _ ih =>
    obtain ⟨hopen, rfl⟩ := hmoves
    have hstep : Step config parallelism root ⟨before.1, workers⟩ _ :=
      @Step.move config parallelism root _ index ⟨path, before.2⟩ hget hopen hroom
    have hlt : index < workers.length := (List.getElem?_eq_some_iff.1 hget).1
    have hrest := @ih
      (workers.set index ⟨path, (advance config root index path before.1 before.2).2⟩)
      (List.getElem?_set_self hlt) fun hwaiting =>
        absurd hwaiting (before_advance config root index path before.1 hopen).ne_waiting
    rw [List.set_set] at hrest
    exact .head hstep hrest

/-- Processing files one after the other is a run of the pool. -/
theorem reaches_processFiles
    (config : Config) (parallelism : Parallelism) (root : Path)
    (now : FileSystem) (done : List Worker) (paths : List Path)
    (hdone : ∀ worker ∈ done, worker.phase.isFinished = true) :
    ∃ workers : List Worker,
      Reaches config parallelism root ⟨now, done ++ paths.map fun path => ⟨path, .waiting⟩⟩
        ⟨(processFiles config root now done.length paths).1, done ++ workers⟩ ∧
      (∀ worker ∈ workers, worker.phase.isFinished = true) ∧
      workers.filterMap (fun worker => worker.phase.result?) =
        (processFiles config root now done.length paths).2 := by
  induction paths generalizing now done with
  | nil => exact ⟨[], .refl, by simp, rfl⟩
  | cons path paths ih =>
    have hleads := leads_of_waiting config root done.length path now
    generalize hrun : run config now done.length false (some root) path = outcome at hleads
    rcases outcome with ⟨later, result⟩
    have hget : (done ++ (path :: paths).map fun path => (⟨path, .waiting⟩ : Worker))[done.length]?
        = some ⟨path, .waiting⟩ := by simp
    have hidle : (⟨now, done ++ (path :: paths).map fun path => ⟨path, .waiting⟩⟩ : Pool).running
        = 0 := by
      rw [running, List.countP_eq_zero]
      intro worker hmem
      rcases List.mem_append.1 hmem with hmem | hmem
      · rw [isRunning_of_isFinished (hdone worker hmem)]
        simp
      · obtain ⟨path, -, rfl⟩ := List.mem_map.1 hmem
        simp [Phase.isRunning]
    have hfirst := reaches_of_leads parallelism hget (fun _ => by
      rw [HasRoom, hidle]
      omega) hleads
    simp only [List.map_cons, List.set_append_right _ _ (Nat.le_refl _), Nat.sub_self,
      List.set_cons_zero] at hfirst
    obtain ⟨workers, hrest, hfinished, hresults⟩ := ih later (done ++ [⟨path, .finished result⟩])
      (by simpa [or_imp, forall_and, Phase.isFinished] using hdone)
    rw [List.length_append, List.length_singleton, List.append_assoc, List.append_assoc,
      List.singleton_append, List.singleton_append] at hrest
    rw [List.length_append, List.length_singleton] at hresults
    refine ⟨⟨path, .finished result⟩ :: workers, ?_, ?_, ?_⟩
    · simp only [processFiles, hrun]
      exact hfirst.trans hrest
    · simpa [Phase.isFinished] using hfinished
    · simp only [processFiles, hrun]
      rw [List.filterMap_cons, hresults]
      rfl

end Pool
end Dispatch
end LineSieve
