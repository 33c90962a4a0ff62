import LineSieve.Dispatch
import LineSieve.Proofs.Evolution

/-!
# Files one after the other

A call processes one file after the other, whatever its roots are and wherever the files come from.
`Series` says that a tree and some results come from another tree in this way.  Every call that
returns results is a series, and a call that is aborted is a series up to the root that is refused,
in the tree that the series has left.  What holds of each step of a series holds of the whole.
-/

namespace LineSieve
namespace Dispatch

open FileSystem Process

/-- Files are processed one after the other, with these results. -/
inductive Series (config : Config) : FileSystem → List FileResult → FileSystem → Prop
  | nil (fs : FileSystem) :
      Series config fs [] fs
  | cons
      {fs later : FileSystem} {results : List FileResult}
      (worker : Nat) (mustExist : Bool) (root : Option Path) (path : Path)
      (h : Series config (run config fs worker mustExist root path).1 results later) :
      Series config fs ((run config fs worker mustExist root path).2 :: results) later

/-- A tree that is well formed and in which nothing is being written. -/
structure AtRest (fs : FileSystem) : Prop where
  wellFormed : fs.WellFormed
  scratch : ∀ worker : Nat, fs.scratch[worker]? = none

variable {config : Config} {fs later last : FileSystem} {results more : List FileResult}
  {path : Path} {paths : List Path}

theorem AtRest.run
    (h : AtRest fs)
    (config : Config) (worker : Nat) (mustExist : Bool) (root : Option Path) (path : Path) :
    Evolves fs (run config fs worker mustExist root path).1 ∧
      AtRest (Process.run config fs worker mustExist root path).1 := by
  obtain ⟨hevolves, hfs, hscratch⟩ :=
    evolves_run config mustExist root path h.wellFormed (h.scratch worker)
  refine ⟨hevolves, hfs, fun other => ?_⟩
  rw [hscratch]
  exact h.scratch other

namespace Series

theorem append
    (h : Series config fs results later)
    (h' : Series config later more last) :
    Series config fs (results ++ more) last := by
  induction h with
  | nil => exact h'
  | cons worker mustExist root path _ ih => exact .cons worker mustExist root path (ih h')

theorem evolves
    (h : Series config fs results later)
    (hfs : AtRest fs) :
    Evolves fs later ∧ AtRest later := by
  induction h with
  | nil => exact ⟨.refl _, hfs⟩
  | @cons fs later results worker mustExist root path _ ih =>
    obtain ⟨hstep, hrest⟩ := hfs.run config worker mustExist root path
    exact ⟨hstep.trans (ih hrest).1, (ih hrest).2⟩

/-- In place no link gives way. -/
theorem keepsLinks
    (h : Series config fs results later)
    (hfs : AtRest fs)
    (hinPlace : config.output = .inPlace) :
    KeepsLinks fs later := by
  induction h with
  | nil => exact .refl _
  | @cons fs later results worker mustExist root path _ ih =>
    obtain ⟨-, hrest⟩ := hfs.run config worker mustExist root path
    exact (keepsLinks_run mustExist root path hfs.wellFormed (hfs.scratch worker) hinPlace).trans
      (ih hrest)

end Series

/-! ## Calls -/

/-- A step of a call: it processes files one after the other, or refuses a root and does nothing. -/
def Steady (config : Config)
    (process : FileSystem → Path → FileSystem × Except DispatchError (List FileResult)) : Prop :=
  ∀ fs path,
    (∃ later results, process fs path = (later, .ok results) ∧ Series config fs results later) ∨
      ∃ e, process fs path = (fs, .error e)

theorem series_processFiles
    (config : Config) (root : Path) (fs : FileSystem) (worker : Nat) (paths : List Path) :
    Series config fs (processFiles config root fs worker paths).2
      (processFiles config root fs worker paths).1 := by
  induction paths generalizing fs worker with
  | nil => exact .nil fs
  | cons path rest ih => exact .cons worker false (some root) path (ih _ _)

theorem steady_processDirectory
    (starts : Path → PoolStart) (config : Config) (pattern : List Char) (recursive : Bool) :
    Steady config fun fs path =>
      processDirectory (starts path) config fs path pattern recursive := by
  intro fs path
  simp only [processDirectory]
  cases checkDirectory fs path with
  | error e => exact Or.inr ⟨e, rfl⟩
  | ok _ =>
    cases compileGlob pattern with
    | error e => exact Or.inr ⟨e, rfl⟩
    | ok glob =>
      cases starts path with
      | error fault => exact Or.inr ⟨.threadPool fault, rfl⟩
      | ok _ => exact Or.inl ⟨_, _, rfl, series_processFiles config path fs 0 _⟩

theorem steady_processPath
    (starts : Path → PoolStart) (config : Config) :
    Steady config (processPath starts config) := by
  intro fs path
  unfold processPath
  cases classify fs path with
  | error e => exact Or.inr ⟨e, rfl⟩
  | ok kind =>
    cases kind with
    | file => exact Or.inl ⟨_, _, rfl, .cons 0 true none path (.nil _)⟩
    | directory => exact steady_processDirectory starts config everyName true fs path

theorem steady_processTarget
    (starts : Path → PoolStart) (config : Config) (pattern : List Char) (recursive : Bool) :
    Steady config (processTarget starts config pattern recursive) := by
  intro fs path
  unfold processTarget
  split_ifs
  · exact steady_processDirectory starts config pattern recursive fs path
  · exact steady_processPath starts config fs path

section ProcessEach

variable {process : FileSystem → Path → FileSystem × Except DispatchError (List FileResult)}

/-- A call over several roots is one series, or a series up to the root that is refused. -/
theorem processEach_cases
    (hprocess : Steady config process)
    (fs : FileSystem) (paths : List Path) :
    (∃ later results, processEach process fs paths = (later, .ok results) ∧
        Series config fs results later) ∨
      ∃ later results e, processEach process fs paths = (later, .error e) ∧
        Series config fs results later ∧ ∃ path ∈ paths, process later path = (later, .error e) := by
  induction paths generalizing fs with
  | nil => exact Or.inl ⟨fs, [], rfl, .nil fs⟩
  | cons path rest ih =>
    rcases hprocess fs path with ⟨middle, results, hstep, hseries⟩ | ⟨e, hstep⟩
    · rcases ih middle with ⟨later, more, hrest, hmore⟩ |
        ⟨later, more, e, hrest, hmore, refused, hmem, hrefused⟩
      · exact Or.inl ⟨later, results ++ more, by simp only [processEach, hstep, hrest],
          hseries.append hmore⟩
      · exact Or.inr ⟨later, results ++ more, e, by simp only [processEach, hstep, hrest],
          hseries.append hmore, refused, List.mem_cons_of_mem path hmem, hrefused⟩
    · exact Or.inr ⟨fs, [], e, by simp only [processEach, hstep], .nil fs, path, List.mem_cons_self,
        hstep⟩

end ProcessEach

/-- A run, whether it is aborted or not, is a series. -/
theorem exists_series_runTargets
    (starts : Path → PoolStart) (config : Config) (fs : FileSystem) (paths : List Path)
    (pattern : List Char) (recursive : Bool) :
    ∃ results, Series config fs results (runTargets starts config fs paths pattern recursive).1 ∧
      ∀ answer, (runTargets starts config fs paths pattern recursive).2 = .ok answer →
        answer = results := by
  unfold runTargets
  cases checkRoots fs paths with
  | error e => exact ⟨[], .nil fs, nofun⟩
  | ok _ =>
    cases checkPattern pattern with
    | error e => exact ⟨[], .nil fs, nofun⟩
    | ok _ =>
      rcases processEach_cases (steady_processTarget starts config pattern recursive) fs paths with
        ⟨later, results, heach, hseries⟩ | ⟨later, results, e, heach, hseries, -⟩
      · simp only [heach]
        exact ⟨results, hseries, by simp⟩
      · simp only [heach]
        exact ⟨results, hseries, nofun⟩

/-- A run that returns results is a series. -/
theorem series_of_runTargets
    {starts : Path → PoolStart} {pattern : List Char} {recursive : Bool}
    (h : runTargets starts config fs paths pattern recursive = (later, .ok results)) :
    Series config fs results later := by
  obtain ⟨processed, hseries, hanswer⟩ :=
    exists_series_runTargets starts config fs paths pattern recursive
  rw [h] at hseries hanswer
  rwa [hanswer results rfl]

end Dispatch
end LineSieve
