import LineSieve.Proofs.Selection
import LineSieve.Proofs.Series

/-!
# What the order of the steps cannot change

In the flat layout, or with an output directory that is there already, what is left in the end hangs on
the order in which the workers take their steps.  Still each step only looks at the tree, makes a
directory, works on a scratch file or publishes one.  So in any order the tree evolves, and an entry
stays as it was unless one of the results has been published in its place.  `Passage` says this of two
trees; it holds of each step, and so of every run.
-/

namespace LineSieve

open FileSystem

variable {fs middle later last : FileSystem} {results more : List FileResult} {result : FileResult}
  {location : Location}

/-! ## Published files -/

/-- A file has been published, and its output path leads to a location. -/
def FileResult.LiesAt (result : FileResult) (fs : FileSystem) (location : Location) : Prop :=
  result.success = true ∧ ∃ target content mode, result.outputPath = some target ∧
    fs.lookupLink target = .ok (location, .file content mode)

/-- A published file stays where it is as long as the links stay. -/
theorem FileResult.LiesAt.persists
    (h : result.LiesAt fs location)
    (hevolves : Evolves fs later)
    (hlinks : KeepsLinks fs later) :
    result.LiesAt later location := by
  obtain ⟨hsuccess, target, content, mode, htarget, hlookup⟩ := h
  rw [lookupLink_eq_ok_iff] at hlookup
  obtain ⟨entry', hresolve, hkind, -⟩ := hevolves.resolve hlinks hlookup
  cases entry' with
  | file content' mode' =>
    exact ⟨hsuccess, target, content', mode', htarget, lookupLink_eq_ok_iff.2 hresolve⟩
  | _ => cases hkind

namespace Process

/-- If no link gives way, the output path leads to the published file. -/
theorem liesAt_of_published
    {worker : Nat} {path target : Path} {content : List UInt8} {mode : Nat}
    (hfs : fs.WellFormed)
    (htarget : CanTake fs target location)
    (h : Published fs later worker location (.file content mode))
    (hlinks : KeepsLinks fs later)
    (counts : ActionCounts) :
    FileResult.LiesAt ⟨path, some target, none, counts⟩ later location := by
  have hevolves := Evolves.of_published htarget.ne_directory h
  obtain ⟨name, directory, rfl, hlocates⟩ := htarget.exists_locates hfs
  have hstill := hlocates.mono hevolves.workingDirectory fun _ _ => hevolves.keeps hlinks
  have hfound := hstill.resolve_found h.entry?_self (Or.inl rfl)
  exact ⟨rfl, _, _, _, rfl, lookupLink_eq_ok_iff.2 hfound⟩

end Process

namespace Dispatch

open Process

/-- On the way from one tree to another, one of the results is published at a location. -/
inductive PlacedAt (location : Location) (fs : FileSystem) (results : List FileResult)
    (later : FileSystem) : Prop
  | mk
      {before after : FileSystem} {worker : Nat} {path target : Path} {content : List UInt8}
      {mode : Nat} {counts : ActionCounts}
      (hbefore : Evolves fs before)
      (hwell : before.WellFormed)
      (htarget : CanTake before target location)
      (h : Published before after worker location (.file content mode))
      (hafter : Evolves after later)
      (hmem : ⟨path, some target, none, counts⟩ ∈ results) :
      PlacedAt location fs results later

/-- If no link gives way, the result lies at the location in the end. -/
theorem PlacedAt.exists_liesAt
    (h : PlacedAt location fs results later)
    (hlinks : KeepsLinks fs later) :
    ∃ result ∈ results, result.LiesAt later location := by
  cases h with
  | @mk before after worker path target content mode counts hbefore hwell htarget h hafter hmem =>
    have hevolves := Evolves.of_published htarget.ne_directory h
    have hstay := (hbefore.keepsLinks_split (hevolves.trans hafter) hlinks).2
    obtain ⟨hpublishing, hafterwards⟩ := hevolves.keepsLinks_split hafter hstay
    exact ⟨_, hmem,
      (liesAt_of_published hwell htarget h hpublishing counts).persists hafter hafterwards⟩

/-- What is published on a part of the way is published on the whole of it. -/
theorem PlacedAt.extend
    (h : PlacedAt location middle results later)
    (hbefore : Evolves fs middle)
    (hafter : Evolves later last)
    (hsubset : results ⊆ more) :
    PlacedAt location fs more last := by
  cases h with
  | mk hstart hwell htarget h hend hmem =>
    exact .mk (hbefore.trans hstart) hwell htarget h (hend.trans hafter) (hsubset hmem)

/-- What processing files makes of a tree, in whatever order the steps are taken. -/
structure Passage (fs : FileSystem) (results : List FileResult) (later : FileSystem) : Prop where
  wellFormed : later.WellFormed
  evolves : Evolves fs later
  /-- Nothing is put in the place of the root. -/
  root : later.entries[([] : Location)]? = fs.entries[([] : Location)]?
  kept_or_placedAt : ∀ location entry, fs.entry? location = some entry →
    later.entry? location = some entry ∨ PlacedAt location fs results later

namespace Passage

theorem append
    (h : Passage fs results middle)
    (h' : Passage middle more later) :
    Passage fs (results ++ more) later := by
  refine ⟨h'.wellFormed, h.evolves.trans h'.evolves, h'.root.trans h.root, ?_⟩
  intro location entry hentry
  rcases h.kept_or_placedAt location entry hentry with hkept | hplaced
  · exact (h'.kept_or_placedAt location entry hkept).imp_right fun hplaced =>
      hplaced.extend h.evolves (.refl later) (List.subset_append_right results more)
  · exact Or.inr (hplaced.extend (.refl fs) h'.evolves (List.subset_append_left results more))

theorem of_subset
    (h : Passage fs results later)
    (hsubset : results ⊆ more) :
    Passage fs more later :=
  ⟨h.wellFormed, h.evolves, h.root, fun location entry hentry =>
    (h.kept_or_placedAt location entry hentry).imp_right fun hplaced =>
      hplaced.extend (.refl fs) (.refl later) hsubset⟩

theorem of_sameTree
    (hfs : fs.WellFormed)
    (hsame : SameTree fs later)
    (hentries : later.entries = fs.entries) :
    Passage fs [] later :=
  ⟨hfs.congr hsame, .of_sameTree hsame, by rw [hentries],
    fun location entry hentry => Or.inl (by rw [hsame.entry?, hentry])⟩

theorem refl
    (hfs : fs.WellFormed) :
    Passage fs [] fs :=
  of_sameTree hfs (.refl fs) rfl

/-- A directory is made. -/
theorem of_makeDirectory
    {directory : Path}
    (hfs : fs.WellFormed)
    (h : fs.makeDirectory directory = .ok later) :
    Passage fs [] later := by
  obtain ⟨hmakes, hlater⟩ := MakesDirectories.of_makeDirectory hfs h
  exact ⟨hlater, .of_makesDirectories hmakes, root_makeDirectory h,
    fun location entry hentry => Or.inl (hmakes.keeps hentry)⟩

/-- A scratch file is published. -/
theorem of_publishScratch
    {worker : Nat} {path target : Path}
    (hfs : fs.WellFormed)
    (hmode : ∀ s, fs.scratch[worker]? = some s → s.mode < 0o10000)
    (h : fs.publishScratch worker target = .ok later)
    (counts : ActionCounts) :
    Passage fs [⟨path, some target, none, counts⟩] later := by
  have hroot := root_publishScratch h
  cases hs : fs.scratch[worker]? with
  | none =>
    rw [publishScratch, hs] at h
    cases h
  | some s =>
    obtain ⟨place, htarget⟩ := canTake_of_publishScratch hs h
    rw [publishScratch_of_canTake hs htarget] at h
    cases h
    have hpublished : Published fs ((fs.put place (.file s.content s.mode)).discardScratch worker)
        worker place (.file s.content s.mode) :=
      published_put _ (ne_nil_of_entry?_ne htarget.ne_directory)
    refine ⟨wellFormed_of_published hfs htarget (hmode s hs) hpublished,
      .of_published htarget.ne_directory hpublished, hroot, fun location entry hentry => ?_⟩
    by_cases heq : location = place
    · rw [heq]
      exact Or.inr (.mk (.refl fs) hfs htarget hpublished (.refl _) (List.mem_singleton_self _))
    · left
      rw [hpublished.entry?_of_ne location heq, hentry]

end Passage

end Dispatch

/-! ## One file -/

namespace Process

variable {config : Config} {after : FileSystem} {worker : Nat} {root : Option Path} {path : Path}

/-- A file is published at a location: when the directories have been made, its destination leads
there. -/
inductive PublishesAt (config : Config) (fs : FileSystem) (worker : Nat) (root : Option Path)
    (path : Path) (location : Location) : FileSystem → FileResult → Prop
  | mk
      {made after : FileSystem} {target : Path} {content : List UInt8} {mode : Nat}
      (counts : ActionCounts)
      (hmakes : MakesDirectories fs (way config root path) made)
      (hmade : made.WellFormed)
      (htarget : CanTake made target location)
      (h : Published made after worker location (.file content mode)) :
      PublishesAt config fs worker root path location after ⟨path, some target, none, counts⟩

/-- Processing a file leaves an entry alone or publishes something in its place. -/
theorem run_kept_or_publishesAt
    (config : Config) (mustExist : Bool) (root : Option Path) (path : Path)
    (hfs : fs.WellFormed)
    (hfree : fs.scratch[worker]? = none)
    {entry : Entry}
    (hentry : fs.entry? location = some entry) :
    FileSystem.entry? (run config fs worker mustExist root path).1 location = some entry ∨
      PublishesAt config fs worker root path location
        (run config fs worker mustExist root path).1
        (run config fs worker mustExist root path).2 := by
  obtain ⟨-, made, hmakes, hmade, hran⟩ := @run_cases config fs worker mustExist root path hfs hfree
  rw [← hmakes.keeps hentry]
  generalize run config fs worker mustExist root path = ran at hran ⊢
  obtain ⟨after, result⟩ := ran
  cases hran with
  | failed hsame => exact Or.inl (hsame.entry? location)
  | @published target place content mode hplace hcontent hmode hfault htarget hpublished =>
    by_cases heq : location = place
    · rw [heq]
      exact Or.inr (.mk _ hmakes hmade htarget hpublished)
    · exact Or.inl (hpublished.entry?_of_ne location heq)

theorem PublishesAt.placedAt
    (h : PublishesAt config fs worker root path location after result) :
    Dispatch.PlacedAt location fs [result] after := by
  cases h with
  | mk counts hmakes hmade htarget h =>
    exact .mk (.of_makesDirectories hmakes) hmade htarget h (.refl after)
      (List.mem_singleton_self _)

end Process

namespace Dispatch

open Process

theorem passage_run
    (config : Config) (worker : Nat) (mustExist : Bool) (root : Option Path) (path : Path)
    (hfs : AtRest fs) :
    Passage fs [(run config fs worker mustExist root path).2]
      (run config fs worker mustExist root path).1 := by
  obtain ⟨hevolves, hlater, -⟩ :=
    evolves_run config mustExist root path hfs.wellFormed (hfs.scratch worker)
  refine ⟨hlater, hevolves, @root_run config fs worker mustExist root path, ?_⟩
  intro location entry hentry
  exact (run_kept_or_publishesAt config mustExist root path hfs.wellFormed (hfs.scratch worker)
    hentry).imp_right fun hpublishes => hpublishes.placedAt

end Dispatch

/-! ## One step -/

namespace Process

variable {path : Path} {worker : Nat} {phase next : Phase}

/-- The scratch file of a worker has permissions that can be set, and is there only as long as the worker
needs it. -/
def Scratched (worker : Nat) (fs : FileSystem) (phase : Phase) : Prop :=
  ∀ s, fs.scratch[worker]? = some s → s.mode < 0o10000 ∧ phase.hasScratch = true

theorem getElem?_scratch_of_publishScratch
    {target : Path}
    (h : fs.publishScratch worker target = .ok later) :
    later.scratch[worker]? = none := by
  unfold publishScratch at h
  split at h
  · cases h
  · split at h <;> cases h <;> simp [discardScratch]

theorem Does.scratched
    (h : Does worker path fs phase later next)
    (hscratched : Scratched worker fs phase) :
    Scratched worker later next := by
  intro s hs
  cases h with
  | looks hscratch =>
    rw [hscratch]
    exact hscratched s hs
  | makes hmake hscratch =>
    rw [scratch_of_makeDirectory hmake] at hs
    rw [hscratch]
    exact hscratched s hs
  | creates hcreate hscratch =>
    obtain ⟨place, -, rfl⟩ := exists_lookup_of_createScratch hcreate
    rw [Std.ExtTreeMap.getElem?_insert_self] at hs
    cases hs
    exact ⟨show scratchMode < 0o10000 by decide, hscratch⟩
  | writes bytes hscratch =>
    refine ⟨?_, hscratch⟩
    cases hold : fs.scratch[worker]? with
    | none =>
      rw [appendScratch, hold, hold] at hs
      cases hs
    | some old =>
      rw [getElem?_appendScratch hold] at hs
      cases hs
      exact (hscratched old hold).1
  | grants mode hscratch =>
    refine ⟨?_, hscratch⟩
    cases hold : fs.scratch[worker]? with
    | none =>
      rw [setScratchMode, hold, hold] at hs
      cases hs
    | some old =>
      rw [getElem?_setScratchMode hold] at hs
      cases hs
      exact Nat.mod_lt _ (by decide)
  | publishes hpublish =>
    rw [getElem?_scratch_of_publishScratch hpublish] at hs
    cases hs
  | drops =>
    rw [getElem?_discardScratch] at hs
    cases hs

/-- Each step passes from a tree to a tree. -/
theorem Does.passage
    (h : Does worker path fs phase later next)
    (hfs : fs.WellFormed)
    (hscratched : Scratched worker fs phase) :
    Dispatch.Passage fs next.result?.toList later := by
  cases h with
  | looks => exact (Dispatch.Passage.refl hfs).of_subset (List.nil_subset _)
  | makes hmake =>
    exact (Dispatch.Passage.of_makeDirectory hfs hmake).of_subset (List.nil_subset _)
  | creates hcreate =>
    obtain ⟨place, -, rfl⟩ := exists_lookup_of_createScratch hcreate
    exact (Dispatch.Passage.of_sameTree hfs (sameBut_newScratch fs worker _).sameTree rfl).of_subset
      (List.nil_subset _)
  | writes bytes =>
    exact (Dispatch.Passage.of_sameTree hfs (sameBut_appendScratch fs worker bytes).sameTree
      (entries_appendScratch fs worker bytes)).of_subset (List.nil_subset _)
  | grants mode =>
    exact (Dispatch.Passage.of_sameTree hfs (sameBut_setScratchMode fs worker mode).sameTree
      (entries_setScratchMode fs worker mode)).of_subset (List.nil_subset _)
  | publishes hpublish counts =>
    exact .of_publishScratch hfs (fun s hs => (hscratched s hs).1) hpublish counts
  | drops =>
    exact (Dispatch.Passage.of_sameTree hfs (sameTree_discardScratch fs worker) rfl).of_subset
      (List.nil_subset _)

end Process

/-! ## Any order of steps -/

namespace Dispatch

open Process

variable {config : Config} {parallelism : Parallelism} {root : Path}

namespace Pool

variable {pool after : Pool}

/-- What has been reported stays reported, and the worker that takes a step may report, too. -/
theorem results_subset_results_after
    {index : Nat} {worker : Worker}
    (hget : pool.workers[index]? = some worker)
    (hopen : worker.phase.isFinished = false) :
    pool.results ++
        (advance config root index worker.path pool.fs worker.phase).2.result?.toList ⊆
      (pool.after config root index worker).results := by
  intro result hmem
  rw [results, List.mem_filterMap]
  rcases List.mem_append.1 hmem with hmem | hmem
  · obtain ⟨other, hother, hresult⟩ := List.mem_filterMap.1 hmem
    obtain ⟨place, hplace⟩ := List.mem_iff_getElem?.1 hother
    refine ⟨other, List.mem_iff_getElem?.2 ⟨place, ?_⟩, hresult⟩
    rw [Pool.after, List.getElem?_set_ne, hplace]
    rintro rfl
    rw [hget] at hplace
    cases hplace
    cases hphase : worker.phase <;> rw [hphase] at hopen hresult <;> cases hresult
    cases hopen
  · refine ⟨⟨worker.path, (advance config root index worker.path pool.fs worker.phase).2⟩, ?_,
      Option.mem_toList.1 hmem⟩
    obtain ⟨hlt, -⟩ := List.getElem?_eq_some_iff.1 hget
    exact List.mem_iff_getElem?.2 ⟨index, List.getElem?_set_self hlt⟩

/-- A state of a pool that has come about by steps of its workers. -/
structure Tidy (fs : FileSystem) (pool : Pool) : Prop where
  passage : Passage fs pool.results pool.fs
  scratched : ∀ index worker, pool.workers[index]? = some worker →
    Scratched index pool.fs worker.phase
  scratch : ∀ index, pool.workers.length ≤ index → pool.fs.scratch[index]? = none

namespace Tidy

theorem start
    (hfs : AtRest fs)
    (paths : List Path) :
    Tidy fs (Pool.start fs paths) := by
  refine ⟨(Passage.refl hfs.wellFormed).of_subset (List.nil_subset _), ?_,
    fun index _ => hfs.scratch index⟩
  intro index worker _ s hs
  rw [Pool.start, hfs.scratch index] at hs
  cases hs

theorem step
    (h : Tidy fs pool)
    (hstep : Step config parallelism root pool after) :
    Tidy fs after := by
  cases hstep with
  | @move index worker hget hopen hroom =>
    have hdoes := does_advance config root index worker.path pool.fs worker.phase
    have hscratched := h.scratched index worker hget
    refine ⟨(h.passage.append (hdoes.passage h.passage.wellFormed hscratched)).of_subset
      (results_subset_results_after hget hopen), ?_, ?_⟩
    · intro other moved hother s hs
      by_cases heq : other = index
      · subst heq
        rw [Pool.after, List.getElem?_set_self (List.getElem?_eq_some_iff.1 hget).1] at hother
        cases hother
        exact hdoes.scratched hscratched s hs
      · rw [Pool.after, List.getElem?_set_ne (Ne.symm heq)] at hother
        rw [Pool.after, scratch_advance_of_ne heq] at hs
        exact h.scratched other moved hother s hs
    · intro other hge
      rw [Pool.after, List.length_set] at hge
      have hne : other ≠ index := by
        rintro rfl
        exact absurd (List.getElem?_eq_some_iff.1 hget).1 (Nat.not_lt.2 hge)
      rw [Pool.after, scratch_advance_of_ne hne]
      exact h.scratch other hge

theorem reaches
    (h : Tidy fs pool)
    (hreaches : Reaches config parallelism root pool after) :
    Tidy fs after := by
  induction hreaches with
  | refl => exact h
  | tail _ hstep ih => exact ih.step hstep

/-- When all workers have finished, nothing is being written. -/
theorem atRest
    (h : Tidy fs pool)
    (hcomplete : pool.IsComplete) :
    AtRest pool.fs := by
  refine ⟨h.passage.wellFormed, fun index => ?_⟩
  rcases Nat.lt_or_ge index pool.workers.length with hlt | hge
  · rw [Option.eq_none_iff_forall_ne_some]
    intro s hs
    have hget := List.getElem?_eq_getElem hlt
    obtain ⟨result, hresult⟩ := exists_finished hcomplete (List.mem_of_getElem? hget)
    have hphase := (h.scratched index _ hget s hs).2
    rw [hresult] at hphase
    cases hphase
  · exact h.scratch index hge

end Tidy
end Pool

/-- A run over a directory. -/
theorem passage_of_runs
    {start : PoolStart} {pattern : List Char} {recursive : Bool}
    (hfs : AtRest fs)
    (hruns : Runs start config parallelism fs root pattern recursive later (.ok results)) :
    Passage fs results later ∧ AtRest later := by
  cases hruns with
  | @finished glob paths pool hcheck hglob hstart hpaths hreaches hcomplete =>
    have htidy := (Pool.Tidy.start hfs paths).reaches hreaches
    exact ⟨htidy.passage.of_subset (List.mergeSort_perm _ _).symm.subset, htidy.atRest hcomplete⟩

end Dispatch
end LineSieve
