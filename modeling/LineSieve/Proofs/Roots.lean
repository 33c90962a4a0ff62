import LineSieve.Proofs.Passage

/-!
# Calls with several roots

There are two ways to process several roots: as paths, where a root is a file or else a directory that
is processed completely, and as the targets of a run, where a root is a directory that is walked as
the run asks, or else a path.  In every tree a root is a file or a directory or neither, so a run that
asks for everything does at each root what is done for a path, also when the roots before it have made
something else of it.

`RunsPaths` and `RunsTargets` are the two calls when the files of each directory are processed in any
order.  The pool is started anew for each directory; `starts` tells what comes of it.  In place the order
leads to nothing new: such a call can only end as if the files were processed one after the other.
-/

namespace LineSieve
namespace Dispatch

open FileSystem Process

/-! ## Calls in any order -/

/-- Process a file, or everything below a directory. -/
inductive RunsPath (starts : Path → PoolStart) (config : Config) (parallelism : Parallelism)
    (fs : FileSystem) (path : Path) :
    FileSystem → Except DispatchError (List FileResult) → Prop
  | refused
      {e : DispatchError}
      (hkind : classify fs path = .error e) :
      RunsPath starts config parallelism fs path fs (.error e)
  | file
      (hkind : classify fs path = .ok .file) :
      RunsPath starts config parallelism fs path (processFile config fs path).1
        (.ok [(processFile config fs path).2])
  | directory
      {later : FileSystem} {answer : Except DispatchError (List FileResult)}
      (hkind : classify fs path = .ok .directory)
      (hruns : Runs (starts path) config parallelism fs path everyName true later answer) :
      RunsPath starts config parallelism fs path later answer

/-- Process one target of a run. -/
inductive RunsTarget (starts : Path → PoolStart) (config : Config) (parallelism : Parallelism)
    (pattern : List Char) (recursive : Bool) (fs : FileSystem) (path : Path) :
    FileSystem → Except DispatchError (List FileResult) → Prop
  | directory
      {later : FileSystem} {answer : Except DispatchError (List FileResult)}
      (hdir : fs.isDirectory path = true)
      (hruns : Runs (starts path) config parallelism fs path pattern recursive later answer) :
      RunsTarget starts config parallelism pattern recursive fs path later answer
  | path
      {later : FileSystem} {answer : Except DispatchError (List FileResult)}
      (hdir : fs.isDirectory path = false)
      (hruns : RunsPath starts config parallelism fs path later answer) :
      RunsTarget starts config parallelism pattern recursive fs path later answer

/-- Process roots one after the other, up to the first error. -/
inductive RunsEach
    (process : FileSystem → Path → FileSystem → Except DispatchError (List FileResult) → Prop) :
    FileSystem → List Path → FileSystem → Except DispatchError (List FileResult) → Prop
  | done (fs : FileSystem) :
      RunsEach process fs [] fs (.ok [])
  | refused
      {fs later : FileSystem} {path : Path} {rest : List Path} {e : DispatchError}
      (hfirst : process fs path later (.error e)) :
      RunsEach process fs (path :: rest) later (.error e)
  | stopped
      {fs middle later : FileSystem} {path : Path} {rest : List Path} {results : List FileResult}
      {e : DispatchError}
      (hfirst : process fs path middle (.ok results))
      (hrest : RunsEach process middle rest later (.error e)) :
      RunsEach process fs (path :: rest) later (.error e)
  | more
      {fs middle later : FileSystem} {path : Path} {rest : List Path}
      {results more : List FileResult}
      (hfirst : process fs path middle (.ok results))
      (hrest : RunsEach process middle rest later (.ok more)) :
      RunsEach process fs (path :: rest) later (.ok (results ++ more))

/-- Process several roots completely. -/
inductive RunsPaths (starts : Path → PoolStart) (config : Config) (parallelism : Parallelism)
    (fs : FileSystem) (paths : List Path) :
    FileSystem → Except DispatchError (List FileResult) → Prop
  | refused
      {e : DispatchError}
      (hroots : checkRoots fs paths = .error e) :
      RunsPaths starts config parallelism fs paths fs (.error e)
  | each
      {later : FileSystem} {answer : Except DispatchError (List FileResult)}
      (hroots : checkRoots fs paths = .ok ())
      (hruns : RunsEach (RunsPath starts config parallelism) fs paths later answer) :
      RunsPaths starts config parallelism fs paths later answer

/-- Process the targets of a run. -/
inductive RunsTargets (starts : Path → PoolStart) (config : Config) (parallelism : Parallelism)
    (fs : FileSystem) (paths : List Path) (pattern : List Char) (recursive : Bool) :
    FileSystem → Except DispatchError (List FileResult) → Prop
  | refused
      {e : DispatchError}
      (hroots : checkRoots fs paths = .error e) :
      RunsTargets starts config parallelism fs paths pattern recursive fs (.error e)
  | badPattern
      {e : DispatchError}
      (hroots : checkRoots fs paths = .ok ())
      (hpattern : checkPattern pattern = .error e) :
      RunsTargets starts config parallelism fs paths pattern recursive fs (.error e)
  | each
      {later : FileSystem} {answer : Except DispatchError (List FileResult)}
      (hroots : checkRoots fs paths = .ok ())
      (hpattern : checkPattern pattern = .ok ())
      (hruns : RunsEach (RunsTarget starts config parallelism pattern recursive) fs paths later
        answer) :
      RunsTargets starts config parallelism fs paths pattern recursive later answer

variable {starts : Path → PoolStart} {config : Config} {parallelism : Parallelism}
  {fs later : FileSystem} {path : Path} {paths : List Path} {pattern : List Char} {recursive : Bool}
  {kind : RootKind} {e : DispatchError} {answer : Except DispatchError (List FileResult)}
  {results : List FileResult}

/-! ## What a root is -/

theorem classify_eq_ok
    (h : classify fs path = .ok kind) :
    path.isBlank = false ∧
      match kind with
      | .file => fs.isFile path = true
      | .directory => fs.isFile path = false ∧ fs.isDirectory path = true := by
  unfold classify at h
  split_ifs at h with hblank hfile hdir
  · cases h
    exact ⟨by simpa using hblank, hfile⟩
  · cases h
    exact ⟨by simpa using hblank, by simpa using hfile, hdir⟩

/-- A path with something in it is no root only because nothing is found there. -/
theorem eq_notFound_of_classify
    (hblank : path.isBlank = false)
    (h : classify fs path = .error e) :
    e = .notFound path := by
  unfold classify at h
  rw [hblank] at h
  simp only [Bool.false_eq_true, if_false] at h
  split_ifs at h
  cases h
  rfl

theorem exists_classify_of_checkRoots
    (h : checkRoots fs paths = .ok ())
    (hmem : path ∈ paths) :
    ∃ kind, classify fs path = .ok kind := by
  induction paths with
  | nil => cases hmem
  | cons first rest ih =>
    rw [checkRoots] at h
    cases hfirst : classify fs first with
    | error e =>
      rw [hfirst] at h
      cases h
    | ok kind =>
      rw [hfirst] at h
      rcases List.mem_cons.1 hmem with rfl | hmem
      · exact ⟨kind, hfirst⟩
      · exact ih h hmem

theorem isFile_eq_false_of_isDirectory
    (hdir : fs.isDirectory path = true) :
    fs.isFile path = false := by
  unfold isDirectory leadsTo at hdir
  unfold isFile leadsTo
  cases hlookup : fs.lookup path with
  | error e => rfl
  | ok found =>
    obtain ⟨location, entry⟩ := found
    rw [hlookup] at hdir
    cases entry with
    | directory => rfl
    | _ => cases hdir

theorem classify_of_isDirectory
    (hblank : path.isBlank = false)
    (hdir : fs.isDirectory path = true) :
    classify fs path = .ok .directory := by
  simp [classify, hblank, isFile_eq_false_of_isDirectory hdir, hdir]

/-- A root that is walked completely is processed as a path. -/
theorem processTarget_everyName
    (starts : Path → PoolStart) (config : Config) (fs : FileSystem)
    (hblank : path.isBlank = false) :
    processTarget starts config everyName true fs path = processPath starts config fs path := by
  unfold processTarget
  split_ifs with hdir
  · simp only [processPath, classify_of_isDirectory hblank hdir]
  · rfl

theorem runsTarget_everyName_iff
    (hblank : path.isBlank = false) :
    RunsTarget starts config parallelism everyName true fs path later answer ↔
      RunsPath starts config parallelism fs path later answer := by
  constructor
  · intro hruns
    cases hruns with
    | directory hdir hruns => exact .directory (classify_of_isDirectory hblank hdir) hruns
    | path _ hruns => exact hruns
  · intro hruns
    cases hdir : fs.isDirectory path with
    | false => exact .path hdir hruns
    | true =>
      have hclassify := classify_of_isDirectory hblank hdir
      cases hruns with
      | refused hkind =>
        rw [hclassify] at hkind
        cases hkind
      | file hkind =>
        rw [hclassify] at hkind
        cases hkind
      | directory _ hruns => exact .directory hdir hruns

/-- What is done for a path at once is one of the ways to do it. -/
theorem runsPath_processPath
    (starts : Path → PoolStart) (config : Config) (parallelism : Parallelism) (fs : FileSystem)
    (path : Path) :
    RunsPath starts config parallelism fs path (processPath starts config fs path).1
      (processPath starts config fs path).2 := by
  unfold processPath
  cases hkind : classify fs path with
  | error e => exact .refused hkind
  | ok kind =>
    cases kind with
    | file => exact .file hkind
    | directory =>
      exact .directory hkind
        (runs_processDirectory (starts path) config parallelism fs path everyName true)

theorem runsTarget_processTarget
    (starts : Path → PoolStart) (config : Config) (parallelism : Parallelism) (pattern : List Char)
    (recursive : Bool) (fs : FileSystem) (path : Path) :
    RunsTarget starts config parallelism pattern recursive fs path
      (processTarget starts config pattern recursive fs path).1
      (processTarget starts config pattern recursive fs path).2 := by
  unfold processTarget
  split_ifs with hdir
  · exact .directory hdir
      (runs_processDirectory (starts path) config parallelism fs path pattern recursive)
  · exact .path (by simpa using hdir) (runsPath_processPath starts config parallelism fs path)

theorem passage_of_runsPath
    (hfs : AtRest fs)
    (hruns : RunsPath starts config parallelism fs path later (.ok results)) :
    Passage fs results later ∧ AtRest later := by
  cases hruns with
  | file => exact ⟨passage_run config 0 true none path hfs, (hfs.run config 0 true none path).2⟩
  | directory _ hruns => exact passage_of_runs hfs hruns

theorem passage_of_runsTarget
    (hfs : AtRest fs)
    (hruns : RunsTarget starts config parallelism pattern recursive fs path later (.ok results)) :
    Passage fs results later ∧ AtRest later := by
  cases hruns with
  | directory _ hruns => exact passage_of_runs hfs hruns
  | path _ hruns => exact passage_of_runsPath hfs hruns

/-! ## One root in place -/

/-- All runs over a directory in place come to the same end. -/
theorem eq_of_runs_inPlace
    {start : PoolStart} {later' : FileSystem} {results' : List FileResult}
    (hfs : AtRest fs)
    (hinPlace : config.output = .inPlace)
    (h : Runs start config parallelism fs path pattern recursive later (.ok results))
    (h' : Runs start config parallelism fs path pattern recursive later' (.ok results')) :
    later = later' ∧ results = results' := by
  obtain ⟨hpassage, hrest⟩ := passage_of_runs hfs h
  obtain ⟨hpassage', hrest'⟩ := passage_of_runs hfs h'
  have hends := h
  cases hends with
  | @finished glob _ _ hcheck hglob =>
    obtain ⟨prospect, Tree, Good, d, -⟩ := exists_discipline hfs.wellFormed hfs.scratch
      (Or.inl hinPlace) hcheck fun file (hmem : file ∈ Walk.matching fs path glob recursive) => hmem
    obtain ⟨-, hsettled, -, hresults⟩ := settled_of_runs d hfs.wellFormed hfs.scratch hglob h
    obtain ⟨-, hsettled', -, hresults'⟩ := settled_of_runs d hfs.wellFormed hfs.scratch hglob h'
    refine ⟨eq_of_sameTree (hsettled'.sameTree hsettled fun _ => Iff.rfl)
      (hpassage.root.trans hpassage'.root.symm) ?_, hresults.trans hresults'.symm⟩
    apply Std.ExtTreeMap.ext_getElem?
    intro worker
    rw [hrest.scratch worker, hrest'.scratch worker]

/-- In place a run over a directory can only end as if the files were processed one after the other. -/
theorem eq_processDirectory_of_runs
    {start : PoolStart}
    (hfs : AtRest fs)
    (hinPlace : config.output = .inPlace)
    (hruns : Runs start config parallelism fs path pattern recursive later answer) :
    processDirectory start config fs path pattern recursive = (later, answer) := by
  have hordered := runs_processDirectory start config parallelism fs path pattern recursive
  have hends := hruns
  cases hends with
  | refused hcheck => simp only [processDirectory, hcheck]
  | badPattern hcheck hglob => simp only [processDirectory, hcheck, hglob]
  | unstarted hcheck hglob hstart => simp only [processDirectory, hcheck, hglob, hstart]
  | finished hcheck hglob hstart =>
    subst hstart
    simp only [processDirectory, hcheck, hglob] at hordered ⊢
    obtain ⟨hlater, hresults⟩ := eq_of_runs_inPlace hfs hinPlace hordered hruns
    rw [hlater, hresults]

theorem eq_processPath_of_runsPath
    (hfs : AtRest fs)
    (hinPlace : config.output = .inPlace)
    (hruns : RunsPath starts config parallelism fs path later answer) :
    processPath starts config fs path = (later, answer) := by
  cases hruns with
  | refused hkind => simp only [processPath, hkind]
  | file hkind => simp only [processPath, hkind]
  | directory hkind hruns =>
    simp only [processPath, hkind, eq_processDirectory_of_runs hfs hinPlace hruns]

theorem eq_processTarget_of_runsTarget
    (hfs : AtRest fs)
    (hinPlace : config.output = .inPlace)
    (hruns : RunsTarget starts config parallelism pattern recursive fs path later answer) :
    processTarget starts config pattern recursive fs path = (later, answer) := by
  cases hruns with
  | directory hdir hruns =>
    rw [processTarget, if_pos hdir, eq_processDirectory_of_runs hfs hinPlace hruns]
  | path hdir hruns =>
    rw [processTarget, if_neg (by simp [hdir]), eq_processPath_of_runsPath hfs hinPlace hruns]

theorem Steady.keepsLinks
    {process : FileSystem → Path → FileSystem × Except DispatchError (List FileResult)}
    (hsteady : Steady config process)
    (hfs : AtRest fs)
    (hinPlace : config.output = .inPlace)
    (h : process fs path = (later, .ok results)) :
    KeepsLinks fs later := by
  rcases hsteady fs path with ⟨_, _, hstep, hseries⟩ | ⟨_, hstep⟩ <;> cases h.symm.trans hstep
  exact hseries.keepsLinks hfs hinPlace

theorem keepsLinks_of_runsPath
    (hfs : AtRest fs)
    (hinPlace : config.output = .inPlace)
    (hruns : RunsPath starts config parallelism fs path later (.ok results)) :
    KeepsLinks fs later :=
  (steady_processPath starts config).keepsLinks hfs hinPlace
    (eq_processPath_of_runsPath hfs hinPlace hruns)

theorem keepsLinks_of_runsTarget
    (hfs : AtRest fs)
    (hinPlace : config.output = .inPlace)
    (hruns : RunsTarget starts config parallelism pattern recursive fs path later (.ok results)) :
    KeepsLinks fs later :=
  (steady_processTarget starts config pattern recursive).keepsLinks hfs hinPlace
    (eq_processTarget_of_runsTarget hfs hinPlace hruns)

/-! ## One root after the other -/

section Each

variable {process process' : FileSystem → Path → FileSystem × Except DispatchError (List FileResult)}
  {relation relation' :
    FileSystem → Path → FileSystem → Except DispatchError (List FileResult) → Prop}

/-- What is the same at each root, in whatever tree, is the same for all of them. -/
theorem processEach_congr
    (h : ∀ path ∈ paths, ∀ fs, process fs path = process' fs path)
    (fs : FileSystem) :
    processEach process fs paths = processEach process' fs paths := by
  induction paths generalizing fs with
  | nil => rfl
  | cons path rest ih =>
    obtain ⟨hpath, hrest⟩ := List.forall_mem_cons.1 h
    simp only [processEach, hpath, ih hrest]

theorem RunsEach.imp
    (h : ∀ path ∈ paths, ∀ fs later answer,
      relation fs path later answer → relation' fs path later answer)
    (hruns : RunsEach relation fs paths later answer) :
    RunsEach relation' fs paths later answer := by
  induction hruns with
  | done fs => exact .done fs
  | refused hfirst => exact .refused (h _ List.mem_cons_self _ _ _ hfirst)
  | stopped hfirst _ ih =>
    exact .stopped (h _ List.mem_cons_self _ _ _ hfirst) (ih (List.forall_mem_cons.1 h).2)
  | more hfirst _ ih =>
    exact .more (h _ List.mem_cons_self _ _ _ hfirst) (ih (List.forall_mem_cons.1 h).2)

theorem runsEach_processEach
    (h : ∀ fs path, relation fs path (process fs path).1 (process fs path).2)
    (fs : FileSystem) (paths : List Path) :
    RunsEach relation fs paths (processEach process fs paths).1
      (processEach process fs paths).2 := by
  induction paths generalizing fs with
  | nil => exact .done fs
  | cons path rest ih =>
    have hfirst := h fs path
    rw [processEach]
    generalize process fs path = outcome at hfirst
    rcases outcome with ⟨middle, e | results⟩
    · exact .refused hfirst
    have hrest := ih middle
    simp only
    generalize processEach process middle rest = outcome at hrest
    rcases outcome with ⟨later, e | more⟩
    · exact .stopped hfirst hrest
    · exact .more hfirst hrest

/-- Where an error has stopped a call, the roots before have been processed. -/
theorem RunsEach.exists_refused
    (h : RunsEach relation fs paths later (.error e)) :
    ∃ before path rest middle results, paths = before ++ path :: rest ∧
      RunsEach relation fs before middle (.ok results) ∧ relation middle path later (.error e) := by
  generalize hanswer : Except.error e = answer at h
  induction h with
  | done fs => cases hanswer
  | @refused fs later path rest e hfirst =>
    cases hanswer
    exact ⟨[], path, rest, fs, [], rfl, .done fs, hfirst⟩
  | @stopped fs middle later path rest results e hfirst _ ih =>
    obtain ⟨before, refused, after, reached, more, rfl, hbefore, hrefused⟩ := ih hanswer
    exact ⟨path :: before, refused, after, reached, results ++ more, rfl, .more hfirst hbefore,
      hrefused⟩
  | more => cases hanswer

theorem RunsEach.passage
    (hpassage : ∀ {fs path later results}, AtRest fs → relation fs path later (.ok results) →
      Passage fs results later ∧ AtRest later)
    (hfs : AtRest fs)
    (h : RunsEach relation fs paths later (.ok results)) :
    Passage fs results later ∧ AtRest later := by
  generalize hanswer : Except.ok results = answer at h
  induction h generalizing results with
  | done fs =>
    cases hanswer
    exact ⟨.refl hfs.wellFormed, hfs⟩
  | refused | stopped => cases hanswer
  | more hfirst _ ih =>
    cases hanswer
    obtain ⟨hstep, hmiddle⟩ := hpassage hfs hfirst
    obtain ⟨hrest, hlater⟩ := ih hmiddle rfl
    exact ⟨hstep.append hrest, hlater⟩

/-- Links that stay at each root stay at all of them. -/
theorem RunsEach.keepsLinks
    (hpassage : ∀ {fs path later results}, AtRest fs → relation fs path later (.ok results) →
      Passage fs results later ∧ AtRest later)
    (hkeeps : ∀ {fs path later results}, AtRest fs → relation fs path later (.ok results) →
      KeepsLinks fs later)
    (hfs : AtRest fs)
    (h : RunsEach relation fs paths later (.ok results)) :
    KeepsLinks fs later := by
  generalize hanswer : Except.ok results = answer at h
  induction h generalizing results with
  | done fs => exact .refl fs
  | refused | stopped => cases hanswer
  | more hfirst _ ih =>
    exact (hkeeps hfs hfirst).trans (ih (hpassage hfs hfirst).2 rfl)

end Each

theorem isBlank_eq_false_of_checkRoots
    (hroots : checkRoots fs paths = .ok ()) :
    ∀ path ∈ paths, path.isBlank = false := by
  intro path hmem
  obtain ⟨kind, hkind⟩ := exists_classify_of_checkRoots hroots hmem
  exact (classify_eq_ok hkind).1

/-! ## Both calls -/

theorem runsPaths_processPaths
    (starts : Path → PoolStart) (config : Config) (parallelism : Parallelism) (fs : FileSystem)
    (paths : List Path) :
    RunsPaths starts config parallelism fs paths (processPaths starts config fs paths).1
      (processPaths starts config fs paths).2 := by
  unfold processPaths
  cases hroots : checkRoots fs paths with
  | error e => exact .refused hroots
  | ok _ =>
    exact .each hroots
      (runsEach_processEach (runsPath_processPath starts config parallelism) fs paths)

theorem runsTargets_runTargets
    (starts : Path → PoolStart) (config : Config) (parallelism : Parallelism) (fs : FileSystem)
    (paths : List Path) (pattern : List Char) (recursive : Bool) :
    RunsTargets starts config parallelism fs paths pattern recursive
      (runTargets starts config fs paths pattern recursive).1
      (runTargets starts config fs paths pattern recursive).2 := by
  unfold runTargets
  cases hroots : checkRoots fs paths with
  | error e => exact .refused hroots
  | ok _ =>
    cases hpattern : checkPattern pattern with
    | error e => exact .badPattern hroots hpattern
    | ok _ =>
      exact .each hroots hpattern (runsEach_processEach
        (runsTarget_processTarget starts config parallelism pattern recursive) fs paths)

theorem passage_of_runsTargets
    (hfs : AtRest fs)
    (hruns : RunsTargets starts config parallelism fs paths pattern recursive later (.ok results)) :
    Passage fs results later ∧ AtRest later := by
  cases hruns with
  | each _ _ hruns => exact hruns.passage passage_of_runsTarget hfs

/-- A run that asks for all files at any depth and a call for the same paths return the same and leave
the same tree, whatever the roots become on the way, wherever an error stops them and whichever pools
start; and with the files of each directory in any order, the one can come to an end exactly if the other
can. -/
theorem runTargets_eq_processPaths
    (starts : Path → PoolStart) (config : Config) (parallelism : Parallelism) (fs : FileSystem)
    (paths : List Path) :
    runTargets starts config fs paths everyName true = processPaths starts config fs paths ∧
      RunsPaths starts config parallelism fs paths (processPaths starts config fs paths).1
        (processPaths starts config fs paths).2 ∧
      ∀ later answer, RunsTargets starts config parallelism fs paths everyName true later answer ↔
        RunsPaths starts config parallelism fs paths later answer := by
  have hpattern : checkPattern everyName = .ok () := rfl
  refine ⟨?_, runsPaths_processPaths starts config parallelism fs paths,
    fun later answer => ⟨fun hruns => ?_, fun hruns => ?_⟩⟩
  · unfold runTargets processPaths
    cases hroots : checkRoots fs paths with
    | error e => rfl
    | ok _ =>
      rw [hpattern]
      exact processEach_congr (fun path hmem fs => processTarget_everyName starts config fs
        (isBlank_eq_false_of_checkRoots hroots path hmem)) fs
  · cases hruns with
    | refused hroots => exact .refused hroots
    | badPattern _ hbad =>
      rw [hpattern] at hbad
      cases hbad
    | each hroots _ hruns =>
      exact .each hroots (hruns.imp fun path hmem fs later answer =>
        (runsTarget_everyName_iff (isBlank_eq_false_of_checkRoots hroots path hmem)).1)
  · cases hruns with
    | refused hroots => exact .refused hroots
    | each hroots hruns =>
      exact .each hroots hpattern (hruns.imp fun path hmem fs later answer =>
        (runsTarget_everyName_iff (isBlank_eq_false_of_checkRoots hroots path hmem)).2)

end Dispatch
end LineSieve
