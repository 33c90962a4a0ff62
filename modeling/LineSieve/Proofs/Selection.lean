import LineSieve.Proofs.Interleaving

/-!
# The files of a call for a directory

A walk is over before the first file is touched.  So which files are processed is decided by the tree
at the start: all regular files below the root whose name matches, at any depth or right below it,
as far as the system accepts the paths of their directories.  Each worker reports its own file, and
the results are sorted by path, so they tell the files of the walk one by one, in any run and in
whatever way the files are processed.
-/

namespace LineSieve

open FileSystem

/-! ## What a walk finds -/

namespace Walk

/-- A regular file below the root with a matching name, given by the names that lead to it, innermost
first. -/
def Selected (fs : FileSystem) (location : Location) (glob : Glob) (recursive : Bool) :
    List (List Char) → Prop
  | [] => False
  | name :: above =>
    (∃ content mode, fs.entry? (name :: above ++ location) = some (.file content mode)) ∧
      (recursive = true ∨ above = []) ∧ glob.isMatch name = true

theorem namesBelow?_append
    {names : List (List Char)}
    (hne : names ≠ [])
    (location : Location) :
    namesBelow? location (names ++ location) = some names := by
  have hlength := List.length_pos_iff.2 hne
  simp [namesBelow?, hlength]

variable {fs : FileSystem} {root : Path} {location : Location} {glob : Glob} {recursive : Bool}

/-- A walk can go down to a directory as far as the system accepts its path. -/
theorem isDirectory_pathBelow_iff
    (hfs : fs.WellFormed)
    (hroot : fs.lookup root = .ok (location, .directory))
    {names : List (List Char)}
    (hdir : fs.isDirectoryAt (names ++ location) = true) :
    fs.isDirectory (pathBelow root names) = true ↔ Fits (pathBelow root names) := by
  obtain ⟨-, -, links, hle, hwalks⟩ := (lookup_eq_directory_iff root location).1 hroot
  have hnames : Proper names := hfs.proper (show fs.entry? (names ++ location) ≠ none by
    rw [(isDirectoryAt_iff _).1 hdir]
    simp)
  constructor
  · intro hdirectory
    unfold isDirectory leadsTo at hdirectory
    cases hlookup : fs.lookup (pathBelow root names) with
    | error e =>
      rw [hlookup] at hdirectory
      cases hdirectory
    | ok found => exact fits_of_resolve (lookup_eq_ok_iff.1 hlookup)
  · intro hfits
    have hlookup : fs.lookup (pathBelow root names) = .ok (names ++ location, .directory) := by
      rw [lookup_eq_directory_iff, trail_pathBelow hnames]
      exact ⟨hfits, hdir, links + 0, hle, hwalks.append (hfs.walks hdir)⟩
    rw [isDirectory, leadsTo, hlookup]
    rfl

/-- The files of a walk are the regular files below the root, as far as their directories can be
opened. -/
theorem mem_files_iff
    (hroot : fs.lookup root = .ok (location, .directory))
    (hinput : root.same standardInput = false)
    {f : Found} :
    f ∈ files fs root recursive ↔
      ∃ name above content mode,
        fs.entry? (name :: above ++ location) = some (.file content mode) ∧
        (recursive = true ∨ above = []) ∧ fs.isDirectory (pathBelow root above) = true ∧
        f = ⟨pathBelow root (name :: above), name⟩ := by
  have hfiles : f ∈ files fs root recursive ↔
      ∃ item ∈ fs.entries.toList, found? fs root location recursive item = some f := by
    rw [files, hinput, if_neg Bool.false_ne_true, hroot]
    exact (List.mergeSort_perm _ _).mem_iff.trans List.mem_filterMap
  rw [hfiles]
  constructor
  · rintro ⟨item, hmem, hfound⟩
    obtain ⟨name, above, content, mode, hisFound, hlocation⟩ := isFound_of_found? hmem hfound
    have hnames : namesBelow? location item.1 = some (name :: above) := by
      rw [hlocation]
      exact namesBelow?_append (List.cons_ne_nil _ _) location
    refine ⟨name, above, content, mode, hisFound.entry?, ?_⟩
    unfold found? at hfound
    rw [hnames] at hfound
    split at hfound
    next heq hentry =>
      cases heq
      split_ifs at hfound with hreach
      cases hfound
      rw [Bool.and_eq_true, Bool.or_eq_true, List.isEmpty_iff] at hreach
      exact ⟨hreach.1, hreach.2, rfl⟩
    next => cases hfound
  · rintro ⟨name, above, content, mode, hentry, hdepth, hdirectory, rfl⟩
    have hmem : (name :: above ++ location, Entry.file content mode) ∈ fs.entries.toList :=
      Std.ExtTreeMap.mem_toList_iff_getElem?_eq_some.2 hentry
    refine ⟨_, hmem, ?_⟩
    have hreach : ((recursive || above.isEmpty) && fs.isDirectory (pathBelow root above)) = true := by
      rw [Bool.and_eq_true, Bool.or_eq_true, List.isEmpty_iff]
      exact ⟨hdepth, hdirectory⟩
    simp only [found?, namesBelow?_append (List.cons_ne_nil name above) location]
    rw [if_pos hreach]

theorem mem_matching_iff
    (hfs : fs.WellFormed)
    (hroot : fs.lookup root = .ok (location, .directory))
    (hinput : root.same standardInput = false)
    {path : Path} :
    path ∈ matching fs root glob recursive ↔
      ∃ name above, Selected fs location glob recursive (name :: above) ∧
        Fits (pathBelow root above) ∧ path = pathBelow root (name :: above) := by
  have hopen : ∀ {name : List Char} {above : List (List Char)} {content : List UInt8} {mode : Nat},
      fs.entry? (name :: above ++ location) = some (.file content mode) →
        (fs.isDirectory (pathBelow root above) = true ↔ Fits (pathBelow root above)) := by
    intro name above content mode hentry
    refine isDirectory_pathBelow_iff hfs hroot (hfs.parent name (above ++ location) ?_)
    rw [← List.cons_append, hentry]
    simp
  simp only [matching, List.mem_map, List.mem_filter, mem_files_iff hroot hinput]
  constructor
  · rintro ⟨f, ⟨⟨name, above, content, mode, hentry, hdepth, hdirectory, rfl⟩, hmatch⟩, rfl⟩
    exact ⟨name, above, ⟨⟨content, mode, hentry⟩, hdepth, hmatch⟩, (hopen hentry).1 hdirectory, rfl⟩
  · rintro ⟨name, above, ⟨⟨content, mode, hentry⟩, hdepth, hmatch⟩, hfits, rfl⟩
    exact ⟨_, ⟨⟨name, above, content, mode, hentry, hdepth, (hopen hentry).2 hfits, rfl⟩, hmatch⟩, rfl⟩

/-- The files of a walk by their names below the root. -/
def selection (fs : FileSystem) (root : Path) (glob : Glob) (recursive : Bool) :
    List (List (List Char)) :=
  (matching fs root glob recursive).map (Dispatch.Mirrored.namesOf root)

theorem proper_of_entry?
    (hfs : fs.WellFormed)
    {names : List (List Char)} {entry : Entry}
    (hentry : fs.entry? (names ++ location) = some entry) :
    Proper names :=
  hfs.proper (show fs.entry? (names ++ location) ≠ none by rw [hentry]; simp)

theorem Selected.proper
    (hfs : fs.WellFormed)
    {names : List (List Char)}
    (h : Selected fs location glob recursive names) :
    Proper names := by
  cases names with
  | nil => cases h
  | cons name above =>
    obtain ⟨⟨content, mode, hentry⟩, -, -⟩ := h
    exact proper_of_entry? hfs hentry

theorem mem_selection_iff
    (hfs : fs.WellFormed)
    (hroot : fs.lookup root = .ok (location, .directory))
    (hinput : root.same standardInput = false)
    {names : List (List Char)} :
    names ∈ selection fs root glob recursive ↔
      Selected fs location glob recursive names ∧ Fits (pathBelow root names.tail) := by
  simp only [selection, List.mem_map, mem_matching_iff hfs hroot hinput]
  constructor
  · rintro ⟨-, ⟨name, above, hselected, hfits, rfl⟩, rfl⟩
    rw [Dispatch.Mirrored.namesOf_pathBelow (hselected.proper hfs)]
    exact ⟨hselected, hfits⟩
  · rintro ⟨hselected, hfits⟩
    cases names with
    | nil => cases hselected
    | cons name above =>
      exact ⟨_, ⟨name, above, hselected, hfits, rfl⟩,
        Dispatch.Mirrored.namesOf_pathBelow (hselected.proper hfs)⟩

/-- The paths of a walk are those of the names below the root. -/
theorem map_pathBelow_selection
    (hfs : fs.WellFormed)
    (hroot : fs.lookup root = .ok (location, .directory))
    (hinput : root.same standardInput = false) :
    (selection fs root glob recursive).map (pathBelow root) = matching fs root glob recursive := by
  rw [selection, List.map_map]
  refine (List.map_congr_left fun path hmem => ?_).trans (List.map_id _)
  obtain ⟨name, above, hselected, -, rfl⟩ := (mem_matching_iff hfs hroot hinput).1 hmem
  rw [Function.comp_apply, Dispatch.Mirrored.namesOf_pathBelow (hselected.proper hfs)]
  rfl

theorem nodup_selection
    (hfs : fs.WellFormed)
    (hroot : fs.lookup root = .ok (location, .directory))
    (hinput : root.same standardInput = false) :
    (selection fs root glob recursive).Nodup := by
  refine List.Nodup.of_map (pathBelow root) ?_
  rw [map_pathBelow_selection hfs hroot hinput]
  exact nodup_matching hfs root glob recursive

/-- A walk lists the files in strictly increasing order of the components of their paths. -/
theorem increasing_matching
    (hfs : fs.WellFormed)
    (root : Path) (glob : Glob) (recursive : Bool) :
    (matching fs root glob recursive).Pairwise fun a b =>
      compare a.components b.components = .lt := by
  refine (List.pairwise_and_iff.2
    ⟨sorted_matching fs root glob recursive, pairwise_matching hfs root glob recursive⟩).imp ?_
  rintro a b ⟨hbefore, hne⟩
  rw [Path.before, Ordering.isLE_iff_eq_lt_or_eq_eq] at hbefore
  exact hbefore.resolve_right fun heq => hne (Std.LawfulEqCmp.eq_of_compare heq)

end Walk

/-! ## What the workers report -/

namespace Process

variable {config : Config} {root path : Path} {worker : Nat} {fs : FileSystem} {phase : Phase}
  {result : FileResult}

theorem sourcePath_of_depart
    (h : depart config fs root path = .finished result) :
    result.sourcePath = path := by
  unfold depart at h
  repeat' split at h
  all_goals cases h
  all_goals rfl

/-- A worker reports its own file. -/
theorem sourcePath_of_advance
    (hopen : phase.isFinished = false)
    (h : (advance config root worker path fs phase).2 = .finished result) :
    result.sourcePath = path := by
  cases phase with
  | waiting => exact sourcePath_of_depart h
  | finished result => cases hopen
  | probing target parent directories missing =>
    cases directories with
    | nil =>
      cases h
      rfl
    | cons directory above =>
      simp only [advance] at h
      repeat' split at h
      all_goals cases h
  | making target parent missing =>
    cases missing with
    | nil => cases h
    | cons directory missing =>
      simp only [advance] at h
      split at h <;> cases h
  | writing target sifting pieces =>
    cases pieces with
    | cons piece pieces => cases h
    | nil =>
      simp only [advance] at h
      repeat' split at h
      all_goals cases h
  | _ =>
    simp only [advance] at h
    try split at h
    all_goals cases h
    all_goals rfl

end Process

namespace Dispatch

open Process Walk

namespace Pool

/-- The workers have the files in this order, and those that have finished report them. -/
structure Reports (paths : List Path) (pool : Pool) : Prop where
  files : pool.workers.map (·.path) = paths
  sourcePath : ∀ worker ∈ pool.workers, ∀ result, worker.phase = .finished result →
    result.sourcePath = worker.path

namespace Reports

variable {config : Config} {parallelism : Parallelism} {root : Path} {paths : List Path}
  {pool later : Pool}

theorem start
    (fs : FileSystem) (paths : List Path) :
    Reports paths (start fs paths) := by
  refine ⟨by simp [Pool.start, Function.comp_def], fun worker hmem result hresult => ?_⟩
  obtain ⟨path, -, rfl⟩ := List.mem_map.1 hmem
  cases hresult

theorem step
    (h : Reports paths pool)
    (hstep : Step config parallelism root pool later) :
    Reports paths later := by
  cases hstep with
  | @move index worker hget hopen hroom =>
    refine ⟨(map_path_after config root hget).trans h.files, ?_⟩
    intro other hmem result hresult
    rcases List.mem_or_eq_of_mem_set hmem with hmem | rfl
    · exact h.sourcePath other hmem result hresult
    · exact sourcePath_of_advance hopen hresult

theorem reaches
    (h : Reports paths pool)
    (hreaches : Reaches config parallelism root pool later) :
    Reports paths later := by
  induction hreaches with
  | refl => exact h
  | tail _ hstep ih => exact ih.step hstep

theorem map_sourcePath
    (h : Reports paths pool)
    (hcomplete : pool.IsComplete) :
    pool.results.map (·.sourcePath) = paths := by
  rw [← h.files, results, List.map_filterMap]
  have hworker : ∀ worker ∈ pool.workers,
      worker.phase.result?.map (·.sourcePath) = some worker.path := by
    intro worker hmem
    obtain ⟨result, hresult⟩ := exists_finished hcomplete hmem
    rw [hresult, Phase.result?, Option.map_some, h.sourcePath worker hmem result hresult]
  rw [List.filterMap_congr hworker]
  exact congrFun List.filterMap_eq_map pool.workers

end Reports
end Pool

variable {start : PoolStart} {config : Config} {parallelism : Parallelism} {fs later : FileSystem}
  {root : Path} {glob : Glob} {pattern : List Char} {recursive : Bool} {results : List FileResult}

/-- Once the directory and the pattern have passed, only the pool can keep a run from its results. -/
theorem Runs.unstarted_or_exists_results
    {answer : Except DispatchError (List FileResult)}
    (hruns : Runs start config parallelism fs root pattern recursive later answer)
    (hcheck : checkDirectory fs root = .ok ())
    (hglob : compileGlob pattern = .ok glob) :
    Unstarted start fs later answer ∨ start = .ok () ∧ ∃ results, answer = .ok results := by
  cases hruns with
  | refused hrefused =>
    rw [hcheck] at hrefused
    cases hrefused
  | badPattern _ hbad =>
    rw [hglob] at hbad
    cases hbad
  | unstarted _ _ hstart => exact Or.inl (.mk hstart)
  | finished _ _ hstart => exact Or.inr ⟨hstart, _, rfl⟩

theorem Runs.eq_of_badPattern
    {answer : Except DispatchError (List FileResult)} {e : DispatchError}
    (hruns : Runs start config parallelism fs root pattern recursive later answer)
    (hcheck : checkDirectory fs root = .ok ())
    (hglob : compileGlob pattern = .error e) :
    later = fs ∧ answer = .error e := by
  cases hruns with
  | refused hrefused =>
    rw [hcheck] at hrefused
    cases hrefused
  | badPattern _ hbad =>
    rw [hglob] at hbad
    cases hbad
    exact ⟨rfl, rfl⟩
  | unstarted _ hgood | finished _ hgood =>
    rw [hglob] at hgood
    cases hgood

/-- Whatever the files are processed to, the results of a run tell the files of the walk, in its
order. -/
theorem map_sourcePath_of_runs
    (hfs : fs.WellFormed)
    (hglob : compileGlob pattern = .ok glob)
    (hruns : Runs start config parallelism fs root pattern recursive later (.ok results)) :
    results.map (·.sourcePath) = matching fs root glob recursive := by
  cases hruns with
  | @finished glob' paths pool hcheck hglob' hstart hpaths hreaches hcomplete =>
    obtain rfl : glob = glob' := Except.ok.inj (hglob.symm.trans hglob')
    have hreports := ((Pool.Reports.start fs paths).reaches hreaches).map_sourcePath hcomplete
    have hperm : ((sorted pool.results).map (·.sourcePath)).Perm
        (matching fs root glob recursive) := by
      refine ((List.mergeSort_perm _ _).map _).trans ?_
      rw [hreports]
      exact hpaths
    refine List.Perm.eq_of_pairwise ?_ (List.pairwise_map.2 (pairwise_sorted _))
      (sorted_matching fs root glob recursive) hperm
    intro a b ha hb hab hba
    exact eq_of_components_eq hfs (hperm.subset ha) hb (Path.components_eq_of_before hab hba)

theorem map_sourcePath_processFiles
    (config : Config) (root : Path) (fs : FileSystem) (worker : Nat) (paths : List Path) :
    (processFiles config root fs worker paths).2.map (·.sourcePath) = paths := by
  induction paths generalizing fs worker with
  | nil => rfl
  | cons path rest ih =>
    simp only [processFiles, List.map_cons, sourcePath_run, ih]

/-- Processing the files one after the other is one of the runs. -/
theorem runs_processDirectory
    (start : PoolStart) (config : Config) (parallelism : Parallelism) (fs : FileSystem) (root : Path)
    (pattern : List Char) (recursive : Bool) :
    Runs start config parallelism fs root pattern recursive
      (processDirectory start config fs root pattern recursive).1
      (processDirectory start config fs root pattern recursive).2 := by
  unfold processDirectory
  cases hcheck : checkDirectory fs root with
  | error e => exact .refused hcheck
  | ok _ =>
    cases hglob : compileGlob pattern with
    | error e => exact .badPattern hcheck hglob
    | ok glob =>
      cases start with
      | error fault => exact .unstarted hcheck hglob rfl
      | ok _ =>
        obtain ⟨workers, hreaches, hfinished, hresults⟩ :=
          Pool.reaches_processFiles config parallelism root fs [] (matching fs root glob recursive)
            (by simp)
        have hruns := Runs.finished hcheck hglob rfl (List.Perm.refl _) hreaches hfinished
        have hsorted : sorted (workers.filterMap fun worker => worker.phase.result?) =
            (processFiles config root fs 0 (matching fs root glob recursive)).2 := by
          rw [hresults]
          have hordered := sorted_matching fs root glob recursive
          rw [← map_sourcePath_processFiles config root fs 0 (matching fs root glob recursive)]
            at hordered
          exact List.mergeSort_of_pairwise (List.pairwise_map.1 hordered)
        rw [Pool.results, List.nil_append, hsorted] at hruns
        exact hruns

/-! ## The files of a call -/

/-- A call for a directory that is not the standard input reports each regular file below it with a
matching name once, as far as the system accepts the path of its directory, and nothing else, in
strictly increasing order of the paths.  The files are those of the tree at the start, whatever is
made or published meanwhile.  If the pool does not start, nothing is done. -/
theorem runs_report_selected
    (hfs : fs.WellFormed)
    (hcheck : checkDirectory fs root = .ok ())
    (hinput : root.same standardInput = false)
    (hglob : compileGlob pattern = .ok glob) :
    ∃ (location : Location) (files : List (List (List Char))),
      fs.lookup root = .ok (location, .directory) ∧
      files.Nodup ∧
      (∀ names, names ∈ files ↔
        Selected fs location glob recursive names ∧ Fits (pathBelow root names.tail)) ∧
      ((∀ names, fs.isDirectoryAt (names ++ location) = true → Fits (pathBelow root names)) →
        ∀ names, names ∈ files ↔ Selected fs location glob recursive names) ∧
      Runs start config parallelism fs root pattern recursive
        (processDirectory start config fs root pattern recursive).1
        (processDirectory start config fs root pattern recursive).2 ∧
      ∀ later answer, Runs start config parallelism fs root pattern recursive later answer →
        Unstarted start fs later answer ∨ ∃ results, answer = .ok results ∧
          results.map (·.sourcePath) = files.map (pathBelow root) ∧
          results.Pairwise fun a b =>
            compare a.sourcePath.components b.sourcePath.components = .lt := by
  obtain ⟨-, location, hroot⟩ := lookup_of_checkDirectory hcheck
  have hselection := @mem_selection_iff fs root location glob recursive hfs hroot hinput
  have hpaths := @map_pathBelow_selection fs root location glob recursive hfs hroot hinput
  refine ⟨location, selection fs root glob recursive, hroot, nodup_selection hfs hroot hinput,
    fun names => hselection, ?_,
    runs_processDirectory start config parallelism fs root pattern recursive, ?_⟩
  · intro hopen names
    rw [hselection, and_iff_left_iff_imp]
    intro hselected
    cases names with
    | nil => cases hselected
    | cons name above =>
      obtain ⟨⟨content, mode, hentry⟩, -, -⟩ := hselected
      refine hopen above (hfs.parent name (above ++ location) ?_)
      rw [← List.cons_append, hentry]
      simp
  · intro later answer hruns
    refine (hruns.unstarted_or_exists_results hcheck hglob).imp_right ?_
    rintro ⟨-, results, rfl⟩
    have hsource := map_sourcePath_of_runs hfs hglob hruns
    have hincreasing := increasing_matching hfs root glob recursive
    rw [← hsource] at hincreasing
    exact ⟨results, rfl, by rw [hsource, hpaths], List.pairwise_map.1 hincreasing⟩

/-- A file `a` that is no text, and a directory `d` that holds a hidden file and a link to the
directory above. -/
def mixedTree : FileSystem :=
  (((withFile ['a'] [0xFF] 0o644).put [['d']] .directory).put [['.', 'b'], ['d']]
    (.file (Utf8.encode ['x', '\n']) 0o600)).put [['l'], ['d']] (.link ⟨['.', '.']⟩)

theorem wellFormed_mixedTree :
    mixedTree.WellFormed := by
  have hfile : (withFile ['a'] [0xFF] 0o644).WellFormed :=
    wellFormed_withFile _ ⟨by decide, by decide, by decide⟩ (by decide) (by decide) (by decide)
  have hdir : ((withFile ['a'] [0xFF] 0o644).put [['d']] .directory).WellFormed :=
    hfile.put (by decide) (by decide) ⟨by decide, by decide, by decide⟩ (by decide) (by decide) nofun
  refine (hdir.put (by decide) (by decide) ⟨by decide, by decide, by decide⟩ (by decide) (by decide)
    ?_).put (by decide) (by decide) ⟨by decide, by decide, by decide⟩ (by decide) (by decide) nofun
  rintro content mode ⟨⟩
  decide

theorem runs_report_selected_hidden_file :
    mixedTree.WellFormed ∧ checkDirectory mixedTree ⟨['.']⟩ = .ok () ∧
      ∃ (files : List (List (List Char))) (glob : Glob) (results : List FileResult),
        compileGlob ['*'] = .ok glob ∧ files.Nodup ∧
        (∀ names, names ∈ files ↔
          Selected mixedTree [] glob true names ∧ Fits (pathBelow ⟨['.']⟩ names.tail)) ∧
        (processDirectory (.ok ()) ⟨[], .inPlace, .auto, true⟩ mixedTree ⟨['.']⟩ ['*'] true).2 =
          .ok results ∧
        results.map (·.sourcePath) = files.map (pathBelow ⟨['.']⟩) := by
  have hcheck : checkDirectory mixedTree ⟨['.']⟩ = .ok () := by decide
  obtain ⟨glob, hglob⟩ : ∃ glob, compileGlob ['*'] = .ok glob := ⟨_, rfl⟩
  obtain ⟨location, files, hroot, hnodup, hfiles, -, hruns, hend⟩ :=
    @runs_report_selected (.ok ()) ⟨[], .inPlace, .auto, true⟩ (.threads 8) mixedTree ⟨['.']⟩ glob
      ['*'] true wellFormed_mixedTree hcheck (by decide) hglob
  have hlocation : mixedTree.lookup ⟨['.']⟩ = .ok ([], .directory) := by decide
  rw [hlocation] at hroot
  cases hroot
  obtain ⟨results, hanswer, hsource, -⟩ := (hend _ _ hruns).resolve_left not_unstarted_ok
  exact ⟨wellFormed_mixedTree, hcheck, files, glob, results, hglob, hnodup, hfiles, hanswer, hsource⟩

end Dispatch
end LineSieve
