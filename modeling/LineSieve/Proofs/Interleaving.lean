import LineSieve.Proofs.Delivery
import LineSieve.Proofs.Settlement

/-!
# Runs in any order

What holds of a run over a directory whatever the order is in which the walk lists the files and the
workers take their steps, and however many files are processed at a time.  In every state on the way
each path holds either what it held before or its complete result, so it does no harm if the run is
cut off there.  And all runs come to the same end: each file is reported and published as if it were
processed alone.  All this rests on what `Scratch` says: a scratch file has a name that no entry has and
at which nothing is published meanwhile.
-/

namespace LineSieve
namespace Dispatch

open FileSystem Process Walk

variable {start : PoolStart} {config : Config} {parallelism : Parallelism} {fs : FileSystem}
  {root : Path} {glob : Glob} {recursive : Bool} {paths : List Path} {pool : Pool}

/-! ## On the way -/

/-- In every state that the workers can get to, a file of the walk and the path at which it is
published hold what they held at the start or the complete result; everything else is as it was,
except for new directories on the way to the targets; and scratch files belong to files that are
being worked on. -/
theorem held_of_reaches
    (hfs : fs.WellFormed)
    (hscratch : ∀ worker : Nat, fs.scratch[worker]? = none)
    (hplace : config.output = .inPlace ∨
      ∃ out, config.output = .directory out .mirrored ∧ IsFresh fs out)
    (hcheck : checkDirectory fs root = .ok ())
    (hpaths : paths.Perm (matching fs root glob recursive))
    (hreaches : Pool.Reaches config parallelism root (Pool.start fs paths) pool) :
    (∀ path ∈ paths,
      (config.output ≠ .inPlace → pool.fs.held path = fs.held path) ∧
      ∀ target, target? config root path = some target →
        pool.fs.held target = fs.held target ∨
          ∃ entry, pool.fs.held target = some entry ∧ IsFinal config fs path entry) ∧
    (∀ location,
      pool.fs.entry? location = fs.entry? location ∨
      (fs.entry? location = none ∧ pool.fs.entry? location = some .directory ∧
        ∃ path ∈ paths, ∃ directory ∈ way config (some root) path,
          pool.fs.lookup directory = .ok (location, .directory)) ∨
      ∃ path ∈ paths, ∃ target entry, target? config root path = some target ∧
        pool.fs.lookupLink target = .ok (location, entry) ∧
        pool.fs.entry? location = some entry ∧ IsFinal config fs path entry) ∧
    ∀ (index : Nat) (s : Scratch), pool.fs.scratch[index]? = some s →
      ∃ worker, pool.workers[index]? = some worker ∧ worker.phase.isRunning = true := by
  obtain ⟨prospect, Tree, Good, d, delivery⟩ :=
    exists_discipline hfs hscratch hplace hcheck fun path hmem => hpaths.subset hmem
  have hnodup : paths.Nodup := hpaths.nodup_iff.2 (nodup_matching hfs root glob recursive)
  have horderly := (Pool.Orderly.start d hscratch).reaches d hnodup hreaches
  refine ⟨fun path hmem => ⟨delivery.held_source hmem horderly.tree, fun target htarget =>
    delivery.held_target hmem horderly.tree horderly.accounted htarget⟩, ?_,
    fun index s hs => horderly.exists_running_of_scratch d hs⟩
  intro location
  rcases horderly.accounted location with hsame | ⟨path, hmem, hmade, hnone, hdir⟩ |
    ⟨path, hmem, entry, hpublished, hentry⟩
  · exact Or.inl hsame
  · exact Or.inr (Or.inl ⟨hnone, hdir, path, hmem,
      delivery.made hmem horderly.tree hmade hdir⟩)
  · obtain ⟨target, htarget, hlookup⟩ := delivery.target hmem horderly.tree hpublished hentry
    exact Or.inr (Or.inr ⟨path, hmem, target, entry, htarget, hlookup, hentry,
      delivery.isFinal hmem hpublished⟩)

theorem held_of_reaches_one_file :
    IsFresh (withFile ['a'] (Utf8.encode ['x', '\n']) 0o644) ⟨['o']⟩ ∧
      ∃ pool, Pool.Reaches ⟨[], .directory ⟨['o']⟩ .mirrored, .auto, true⟩ .auto ⟨['.']⟩
          (Pool.start (withFile ['a'] (Utf8.encode ['x', '\n']) 0o644) [⟨['.', '/', 'a']⟩]) pool ∧
        pool.IsComplete ∧
        pool.fs.held ⟨['.', '/', 'a']⟩ =
          (withFile ['a'] (Utf8.encode ['x', '\n']) 0o644).held ⟨['.', '/', 'a']⟩ := by
  have hfs : (withFile ['a'] (Utf8.encode ['x', '\n']) 0o644).WellFormed :=
    wellFormed_withFile _ ⟨by decide, by decide, by decide⟩ (by decide) (by decide) (by decide)
  have hfresh : IsFresh (withFile ['a'] (Utf8.encode ['x', '\n']) 0o644) ⟨['o']⟩ := by
    refine ⟨by decide, fun found hfound => ?_⟩
    have hnone : (withFile ['a'] (Utf8.encode ['x', '\n']) 0o644).lookupLink
        (directoryPath ⟨['o']⟩) = .error .notFound := by decide
    rw [hnone] at hfound
    cases hfound
  obtain ⟨glob, hglob⟩ : ∃ glob, compileGlob ['*'] = .ok glob := ⟨_, rfl⟩
  have hmatching : (compileGlob ['*']).toOption.map (fun glob =>
      matching (withFile ['a'] (Utf8.encode ['x', '\n']) 0o644) ⟨['.']⟩ glob true) =
        some [⟨['.', '/', 'a']⟩] := by decide +kernel
  rw [hglob] at hmatching
  have heq : matching (withFile ['a'] (Utf8.encode ['x', '\n']) 0o644) ⟨['.']⟩ glob true =
      [⟨['.', '/', 'a']⟩] := Option.some.inj hmatching
  obtain ⟨pool, hreaches, hcomplete⟩ :=
    Pool.exists_complete ⟨[], .directory ⟨['o']⟩ .mirrored, .auto, true⟩ .auto ⟨['.']⟩
      (Pool.start (withFile ['a'] (Utf8.encode ['x', '\n']) 0o644) [⟨['.', '/', 'a']⟩])
  have hheld := held_of_reaches hfs (scratch_withFile _ _ _) (Or.inr ⟨_, rfl, hfresh⟩)
    (by decide) (.of_eq heq.symm) hreaches
  exact ⟨hfresh, pool, hreaches, hcomplete, (hheld.1 _ (List.mem_singleton_self _)).1 (by simp)⟩

/-! ## At the end -/

/-- The results of a run, sorted by path. -/
def sorted (results : List FileResult) : List FileResult :=
  results.mergeSort fun a b => a.sourcePath.before b.sourcePath

theorem pairwise_sorted
    (results : List FileResult) :
    (sorted results).Pairwise fun a b => a.sourcePath.before b.sourcePath = true := by
  apply List.pairwise_mergeSort
  · intro a b c
    exact Path.before_trans
  · intro a b
    exact Path.before_total a.sourcePath b.sourcePath

/-- A call for a directory, with the files listed and the steps taken in any order. -/
inductive Runs (start : PoolStart) (config : Config) (parallelism : Parallelism) (fs : FileSystem)
    (root : Path) (pattern : List Char) (recursive : Bool) :
    FileSystem → Except DispatchError (List FileResult) → Prop
  | refused
      {e : DispatchError}
      (hcheck : checkDirectory fs root = .error e) :
      Runs start config parallelism fs root pattern recursive fs (.error e)
  | badPattern
      {e : DispatchError}
      (hcheck : checkDirectory fs root = .ok ())
      (hglob : compileGlob pattern = .error e) :
      Runs start config parallelism fs root pattern recursive fs (.error e)
  | unstarted
      {glob : Glob} {fault : PoolFault}
      (hcheck : checkDirectory fs root = .ok ())
      (hglob : compileGlob pattern = .ok glob)
      (hstart : start = .error fault) :
      Runs start config parallelism fs root pattern recursive fs (.error (.threadPool fault))
  | finished
      {glob : Glob} {paths : List Path} {pool : Pool}
      (hcheck : checkDirectory fs root = .ok ())
      (hglob : compileGlob pattern = .ok glob)
      (hstart : start = .ok ())
      (hpaths : paths.Perm (matching fs root glob recursive))
      (hreaches : Pool.Reaches config parallelism root (Pool.start fs paths) pool)
      (hcomplete : pool.IsComplete) :
      Runs start config parallelism fs root pattern recursive pool.fs (.ok (sorted pool.results))

/-- The pool has not started, and nothing has been done. -/
inductive Unstarted (start : PoolStart) (fs : FileSystem) :
    FileSystem → Except DispatchError (List FileResult) → Prop
  | mk
      {fault : PoolFault}
      (hstart : start = .error fault) :
      Unstarted start fs fs (.error (.threadPool fault))

/-- Once the pool has started, it has. -/
theorem not_unstarted_ok
    {later : FileSystem} {answer : Except DispatchError (List FileResult)} :
    ¬Unstarted (.ok ()) fs later answer := by
  intro h
  cases h with
  | mk hstart => cases hstart

theorem sourcePath_run
    (config : Config) (fs : FileSystem) (worker : Nat) (mustExist : Bool) (root : Option Path)
    (path : Path) :
    (run config fs worker mustExist root path).2.sourcePath = path := by
  unfold run
  repeat' split
  all_goals rfl

section Discipline

variable {prospect : Path → Prospect} {Tree : FileSystem → Prop}
  {Good : Nat → Path → FileSystem → Phase → Prop}

/-- Processing the files one after the other comes to the end that the prospects say. -/
theorem settled_processFiles
    (d : Discipline config root fs paths prospect Tree Good)
    (hnodup : paths.Nodup)
    (hscratch : ∀ worker : Nat, fs.scratch[worker]? = none) :
    Settled fs paths prospect (processFiles config root fs 0 paths).1 ∧
      (processFiles config root fs 0 paths).2 = paths.map fun path => (prospect path).result := by
  obtain ⟨workers, hreaches, hfinished, hresults⟩ :=
    Pool.reaches_processFiles config .auto root fs [] paths (by simp)
  have horderly := (Pool.Orderly.start d hscratch).reaches d hnodup hreaches
  have hcomplete : Pool.IsComplete ⟨(processFiles config root fs 0 paths).1, workers⟩ := hfinished
  exact ⟨horderly.settled d hcomplete, hresults.symm.trans (horderly.results_eq d hcomplete)⟩

/-- Processing a file alone comes to the end that its prospect says. -/
theorem settled_run
    (d : Discipline config root fs paths prospect Tree Good)
    (hscratch : ∀ worker : Nat, fs.scratch[worker]? = none)
    {path : Path}
    (hmem : path ∈ paths) :
    Settled fs [path] prospect (run config fs 0 false (some root) path).1 ∧
      (run config fs 0 false (some root) path).2 = (prospect path).result := by
  have hsubset : [path] ⊆ paths := by simpa using hmem
  obtain ⟨hsettled, hresults⟩ :=
    settled_processFiles (d.of_subset hsubset) (List.nodup_singleton path) hscratch
  exact ⟨hsettled, (List.cons.inj hresults).1⟩

/-- Sorted by path, the results of a run are those of the files in the order of the walk. -/
theorem sorted_results
    (d : Discipline config root fs (matching fs root glob recursive) prospect Tree Good)
    (hfs : fs.WellFormed)
    (hscratch : ∀ worker : Nat, fs.scratch[worker]? = none)
    {results : List FileResult}
    (hpaths : paths.Perm (matching fs root glob recursive))
    (hresults : results = paths.map fun path => (prospect path).result) :
    sorted results = (matching fs root glob recursive).map fun path => (prospect path).result := by
  have hsource : ∀ path ∈ matching fs root glob recursive,
      (prospect path).result.sourcePath = path := by
    intro path hmem
    rw [← (settled_run d hscratch hmem).2, sourcePath_run]
  have hperm : (sorted results).Perm
      ((matching fs root glob recursive).map fun path => (prospect path).result) := by
    rw [hresults]
    exact (List.mergeSort_perm _ _).trans (hpaths.map _)
  have hright : ((matching fs root glob recursive).map fun path => (prospect path).result).Pairwise
      fun a b => a.sourcePath.before b.sourcePath = true := by
    rw [List.pairwise_map]
    refine (sorted_matching fs root glob recursive).imp_of_mem ?_
    intro a b ha hb hab
    rw [hsource a ha, hsource b hb]
    exact hab
  refine List.Perm.eq_of_pairwise ?_ (pairwise_sorted results) hright hperm
  -- two results that may stand either way round are those of the same file
  intro a b ha hb hab hba
  obtain ⟨p, hp, rfl⟩ := List.mem_map.1 (hperm.subset ha)
  obtain ⟨q, hq, rfl⟩ := List.mem_map.1 hb
  rw [hsource p hp, hsource q hq] at hab hba
  rw [eq_of_components_eq hfs hp hq (Path.components_eq_of_before hab hba)]

/-- A run comes to the end that the prospects say. -/
theorem settled_of_runs
    (d : Discipline config root fs (matching fs root glob recursive) prospect Tree Good)
    (hfs : fs.WellFormed)
    (hscratch : ∀ worker : Nat, fs.scratch[worker]? = none)
    {pattern : List Char} {later : FileSystem} {results : List FileResult}
    (hglob : compileGlob pattern = .ok glob)
    (hruns : Runs start config parallelism fs root pattern recursive later (.ok results)) :
    Tree later ∧ Settled fs (matching fs root glob recursive) prospect later ∧
      (∀ worker : Nat, later.scratch[worker]? = none) ∧
      results = (matching fs root glob recursive).map fun path => (prospect path).result := by
  cases hruns with
  | @finished glob' paths pool hcheck hglob' hstart hpaths hreaches hcomplete =>
    obtain rfl : glob = glob' := Except.ok.inj (hglob.symm.trans hglob')
    have dpaths := d.of_subset hpaths.subset
    have horderly := (Pool.Orderly.start dpaths hscratch).reaches dpaths
      (hpaths.nodup_iff.2 (nodup_matching hfs root glob recursive)) hreaches
    exact ⟨horderly.tree,
      (horderly.settled dpaths hcomplete).of_mem_iff fun path => hpaths.mem_iff,
      horderly.scratch_eq_none dpaths hcomplete,
      sorted_results d hfs hscratch hpaths (horderly.results_eq dpaths hcomplete)⟩

end Discipline

/-- Every run comes to an end, and all runs come to the same one, whether the pool starts or not.  It is
the one of processing the files one after the other; each file is reported as if it were processed alone;
what a file changes alone, it changes in the run, and nothing else changes. -/
theorem runs_eq_processDirectory
    (hfs : fs.WellFormed)
    (hscratch : ∀ worker : Nat, fs.scratch[worker]? = none)
    (hplace : config.output = .inPlace ∨
      ∃ out, config.output = .directory out .mirrored ∧ IsFresh fs out)
    (pattern : List Char) :
    (WellFounded fun later pool => Pool.Step config parallelism root pool later) ∧
    (∀ pool, ¬pool.IsComplete → ∃ later, Pool.Step config parallelism root pool later) ∧
    (∃ later answer, Runs start config parallelism fs root pattern recursive later answer) ∧
    ∀ later answer, Runs start config parallelism fs root pattern recursive later answer →
      answer = (processDirectory start config fs root pattern recursive).2 ∧
      SameTree (processDirectory start config fs root pattern recursive).1 later ∧
      (∀ worker : Nat, later.scratch[worker]? = none) ∧
      ∀ results, answer = .ok results → ∃ glob, compileGlob pattern = .ok glob ∧
        results = (matching fs root glob recursive).map
          (fun path => (run config fs 0 false (some root) path).2) ∧
        (∀ path ∈ matching fs root glob recursive, ∀ location,
          FileSystem.entry? (run config fs 0 false (some root) path).1 location ≠
              fs.entry? location →
            later.entry? location =
              FileSystem.entry? (run config fs 0 false (some root) path).1 location) ∧
        ∀ location,
          (∀ path ∈ matching fs root glob recursive,
            FileSystem.entry? (run config fs 0 false (some root) path).1 location =
              fs.entry? location) →
          later.entry? location = fs.entry? location := by
  refine ⟨Pool.wellFounded_step config parallelism root,
    fun pool => Pool.exists_step config parallelism root, ?_, ?_⟩
  · cases hcheck : checkDirectory fs root with
    | error e => exact ⟨fs, _, .refused hcheck⟩
    | ok _ =>
      cases hglob : compileGlob pattern with
      | error e => exact ⟨fs, _, .badPattern hcheck hglob⟩
      | ok glob =>
        cases start with
        | error fault => exact ⟨fs, _, .unstarted hcheck hglob rfl⟩
        | ok _ =>
          obtain ⟨pool, hreaches, hcomplete⟩ := Pool.exists_complete config parallelism root
            (Pool.start fs (matching fs root glob recursive))
          exact ⟨pool.fs, _, .finished hcheck hglob rfl (List.Perm.refl _) hreaches hcomplete⟩
  intro later answer hruns
  cases hruns with
  | refused hcheck =>
    simp only [processDirectory, hcheck]
    exact ⟨trivial, .refl fs, hscratch, nofun⟩
  | badPattern hcheck hglob =>
    simp only [processDirectory, hcheck, hglob]
    exact ⟨trivial, .refl fs, hscratch, nofun⟩
  | unstarted hcheck hglob hstart =>
    simp only [processDirectory, hcheck, hglob, hstart]
    exact ⟨trivial, .refl fs, hscratch, nofun⟩
  | @finished glob paths pool hcheck hglob hstart hpaths hreaches hcomplete =>
    obtain ⟨prospect, Tree, Good, d, -⟩ :=
      exists_discipline hfs hscratch hplace hcheck fun path hmem => hmem
    obtain ⟨-, hsettled, hfree, hsorted⟩ := settled_of_runs d hfs hscratch hglob
      (.finished hcheck hglob hstart hpaths hreaches hcomplete)
    obtain ⟨hordered, hresults⟩ :=
      settled_processFiles d (nodup_matching hfs root glob recursive) hscratch
    simp only [processDirectory, hcheck, hglob, hstart]
    refine ⟨by rw [hsorted, hresults], hordered.sameTree hsettled fun _ => Iff.rfl, hfree, ?_⟩
    intro results hanswer
    cases hanswer
    refine ⟨glob, rfl, ?_, ?_, ?_⟩
    · rw [hsorted]
      exact List.map_congr_left fun path hmem => (settled_run d hscratch hmem).2.symm
    · intro path hmem location hchanged
      exact hsettled.entry?_eq_of_changed (settled_run d hscratch hmem).1 hmem hchanged
    · intro location hunchanged
      exact hsettled.entry?_eq_of_unchanged (fun path hmem => (settled_run d hscratch hmem).1)
        hunchanged

theorem runs_eq_processDirectory_one_file :
    (withFile ['a'] (Utf8.encode ['x', '\n']) 0o644).WellFormed ∧
      ∃ later, Runs (.ok ()) ⟨[], .inPlace, .auto, true⟩ (.threads 8)
        (withFile ['a'] (Utf8.encode ['x', '\n']) 0o644) ⟨['.']⟩ ['*'] true later
        (processDirectory (.ok ()) ⟨[], .inPlace, .auto, true⟩
          (withFile ['a'] (Utf8.encode ['x', '\n']) 0o644) ⟨['.']⟩ ['*'] true).2 := by
  have hfs : (withFile ['a'] (Utf8.encode ['x', '\n']) 0o644).WellFormed :=
    wellFormed_withFile _ ⟨by decide, by decide, by decide⟩ (by decide) (by decide) (by decide)
  obtain ⟨-, -, ⟨later, answer, hruns⟩, hend⟩ :=
    @runs_eq_processDirectory (.ok ()) ⟨[], .inPlace, .auto, true⟩ (.threads 8) _ ⟨['.']⟩ true hfs
      (scratch_withFile _ _ _) (Or.inl rfl) ['*']
  refine ⟨hfs, later, ?_⟩
  rw [← (hend later answer hruns).1]
  exact hruns

end Dispatch
end LineSieve
