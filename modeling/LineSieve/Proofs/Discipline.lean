import LineSieve.Proofs.Completion

/-!
# Workers that keep out of each other's way

A prospect says what a worker will have done in the end: what it reports, which directories it
makes, and which file it publishes.  Workers keep a discipline if each of them only makes changes
that belong to its prospect, and if what a worker relies on is not touched by the changes that
belong to another one.  Then the order of their steps does not matter: in every state that the pool
can get to, each place holds what it held at the start or what a prospect puts there, and when all
are finished every prospect has come true.
-/

namespace LineSieve
namespace Dispatch

open FileSystem Process

/-- What a worker will have done in the end. -/
structure Prospect where
  result : FileResult
  /-- The places of directories that are there then. -/
  made : Set Location
  /-- The place of the file that has been published, and the file. -/
  published : Option (Location × Entry)

/-- A change that belongs to a prospect: a directory is made where nothing is, or the file is put in
its place, where nothing is or a file. -/
structure Change (prospect : Prospect) (fs later : FileSystem) : Prop where
  workingDirectory : later.workingDirectory = fs.workingDirectory
  wellFormed : fs.WellFormed → later.WellFormed
  entry? : ∀ location, later.entry? location = fs.entry? location ∨
    (location ∈ prospect.made ∧ fs.entry? location = none ∧
      later.entry? location = some .directory) ∨
    ∃ entry, prospect.published = some (location, entry) ∧ later.entry? location = some entry ∧
      ∀ old, fs.entry? location = some old → old.isFile = true

namespace Change

variable {prospect : Prospect} {fs later : FileSystem}

theorem of_sameTree
    (h : SameTree fs later) :
    Change prospect fs later :=
  ⟨h.workingDirectory, fun hfs => hfs.congr h, fun location => Or.inl (h.entry? location)⟩

/-- Directories and links stay. -/
theorem keeps
    (h : Change prospect fs later)
    {location : Location} {entry : Entry}
    (hfile : entry.isFile = false)
    (hentry : fs.entry? location = some entry) :
    later.entry? location = some entry := by
  rcases h.entry? location with heq | ⟨-, hnone, -⟩ | ⟨_, _, _, hold⟩
  · rw [heq, hentry]
  · rw [hnone] at hentry
    cases hentry
  · rw [hold entry hentry] at hfile
    cases hfile

theorem isDirectoryAt
    (h : Change prospect fs later)
    {location : Location}
    (hdir : fs.isDirectoryAt location = true) :
    later.isDirectoryAt location = true := by
  rw [isDirectoryAt_iff] at hdir ⊢
  exact h.keeps rfl hdir

/-- Files stay, but for the one in the place of the file of the prospect. -/
theorem keeps_file
    (h : Change prospect fs later)
    {location : Location} {entry : Entry}
    (hother : ∀ file, prospect.published ≠ some (location, file))
    (hentry : fs.entry? location = some entry) :
    later.entry? location = some entry := by
  rcases h.entry? location with heq | ⟨-, hnone, -⟩ | ⟨file, hpublished, -⟩
  · rw [heq, hentry]
  · rw [hnone] at hentry
    cases hentry
  · exact absurd hpublished (hother file)

end Change

/-- Every worker keeps to its prospect, relying on `Good`, and the tree as a whole stays as `Tree`
says. -/
structure Discipline (config : Config) (root : Path) (fs : FileSystem) (paths : List Path)
    (prospect : Path → Prospect) (Tree : FileSystem → Prop)
    (Good : Nat → Path → FileSystem → Phase → Prop) : Prop where
  tree_start : Tree fs
  good_start : ∀ worker, ∀ path ∈ paths, Good worker path fs .waiting
  /-- A step of a worker belongs to its prospect. -/
  change : ∀ {worker path now phase}, path ∈ paths → Tree now → Good worker path now phase →
    phase.isFinished = false →
    Change (prospect path) now (advance config root worker path now phase).1
  good_step : ∀ {worker path now phase}, path ∈ paths → Tree now → Good worker path now phase →
    phase.isFinished = false →
    Good worker path (advance config root worker path now phase).1
      (advance config root worker path now phase).2
  tree_step : ∀ {path now later}, path ∈ paths → Tree now → Change (prospect path) now later →
    Tree later
  /-- What a worker relies on is not touched by others. -/
  good_stable : ∀ {worker path other now later phase}, path ∈ paths → other ∈ paths →
    other ≠ path → Tree now → Tree later → Change (prospect other) now later →
    later.scratch[worker]? = now.scratch[worker]? → Good worker path now phase →
    Good worker path later phase
  scratch : ∀ {worker path now phase}, Good worker path now phase → phase.isRunning = false →
    now.scratch[worker]? = none
  result : ∀ {worker path now result}, path ∈ paths → Good worker path now (.finished result) →
    result = (prospect path).result
  made : ∀ {worker path now result}, path ∈ paths → Tree now →
    Good worker path now (.finished result) →
    ∀ location ∈ (prospect path).made, now.entry? location = some .directory
  published : ∀ {worker path now result}, path ∈ paths → Good worker path now (.finished result) →
    ∀ location entry, (prospect path).published = some (location, entry) →
      now.entry? location = some entry

/-- Every place holds what it held at the start, or what a prospect puts there. -/
def Accounted (fs : FileSystem) (paths : List Path) (prospect : Path → Prospect)
    (now : FileSystem) : Prop :=
  ∀ location, now.entry? location = fs.entry? location ∨
    (∃ path ∈ paths, location ∈ (prospect path).made ∧ fs.entry? location = none ∧
      now.entry? location = some .directory) ∨
    ∃ path ∈ paths, ∃ entry, (prospect path).published = some (location, entry) ∧
      now.entry? location = some entry

theorem Accounted.step
    {fs now later : FileSystem} {paths : List Path} {prospect : Path → Prospect} {path : Path}
    (h : Accounted fs paths prospect now)
    (hmem : path ∈ paths)
    (hchange : Change (prospect path) now later) :
    Accounted fs paths prospect later := by
  intro location
  rcases hchange.entry? location with heq | ⟨hmade, hnone, hdir⟩ | ⟨entry, hpublished, hentry, -⟩
  · rw [heq]
    exact h location
  · rcases h location with hsame | ⟨_, _, _, _, hdir'⟩ | ⟨_, _, _, _, hentry⟩
    · exact Or.inr (Or.inl ⟨path, hmem, hmade, hsame ▸ hnone, hdir⟩)
    · rw [hnone] at hdir'
      cases hdir'
    · rw [hnone] at hentry
      cases hentry
  · exact Or.inr (Or.inr ⟨path, hmem, entry, hpublished, hentry⟩)

/-- A step of a worker leaves the scratch files of the others alone. -/
theorem scratch_advance_of_ne
    {config : Config} {root : Path} {worker other : Nat} {path : Path} {fs : FileSystem}
    {phase : Phase}
    (h : other ≠ worker) :
    (advance config root worker path fs phase).1.scratch[other]? = fs.scratch[other]? := by
  have hdoes := does_advance config root worker path fs phase
  generalize advance config root worker path fs phase = moved at hdoes ⊢
  obtain ⟨later, next⟩ := moved
  cases hdoes with
  | looks => rfl
  | makes hmake => rw [scratch_of_makeDirectory hmake]
  | creates hcreate =>
    obtain ⟨location, -, rfl⟩ := exists_lookup_of_createScratch hcreate
    exact (sameBut_newScratch fs worker _).scratch_of_ne h
  | writes bytes => exact (sameBut_appendScratch fs worker bytes).scratch_of_ne h
  | grants mode => exact (sameBut_setScratchMode fs worker mode).scratch_of_ne h
  | publishes hpublish =>
    unfold publishScratch at hpublish
    split at hpublish
    · cases hpublish
    · split at hpublish <;> cases hpublish <;> exact scratch_discardScratch_of_ne _ h
  | drops => exact scratch_discardScratch_of_ne fs h

namespace Pool

/-- A step changes no worker's file. -/
theorem map_path_after
    (config : Config) (root : Path) {pool : Pool} {index : Nat} {worker : Worker}
    (hget : pool.workers[index]? = some worker) :
    (pool.after config root index worker).workers.map (·.path) = pool.workers.map (·.path) := by
  have hpath : (pool.workers.map (·.path))[index]? = some worker.path := by
    rw [List.getElem?_map, hget]
    rfl
  obtain ⟨hlt, hpath⟩ := List.getElem?_eq_some_iff.1 hpath
  simp only [Pool.after, List.map_set]
  rw [← hpath, List.set_getElem_self]

/-- A state of a pool in which everything is as the discipline wants it. -/
structure Orderly (fs : FileSystem) (paths : List Path) (prospect : Path → Prospect)
    (Tree : FileSystem → Prop) (Good : Nat → Path → FileSystem → Phase → Prop) (pool : Pool) :
    Prop where
  files : pool.workers.map (·.path) = paths
  workingDirectory : pool.fs.workingDirectory = fs.workingDirectory
  tree : Tree pool.fs
  accounted : Accounted fs paths prospect pool.fs
  good : ∀ index worker, pool.workers[index]? = some worker →
    Good index worker.path pool.fs worker.phase
  scratch : ∀ index, pool.workers.length ≤ index → pool.fs.scratch[index]? = none

variable {config : Config} {parallelism : Parallelism} {root : Path} {fs : FileSystem}
  {paths : List Path} {prospect : Path → Prospect} {Tree : FileSystem → Prop}
  {Good : Nat → Path → FileSystem → Phase → Prop} {pool later : Pool}

namespace Orderly

theorem path_mem
    (h : Orderly fs paths prospect Tree Good pool)
    {index : Nat} {worker : Worker}
    (hget : pool.workers[index]? = some worker) :
    worker.path ∈ paths := by
  rw [← h.files]
  exact List.mem_map_of_mem (List.mem_of_getElem? hget)

/-- Different workers have different files. -/
theorem path_ne
    (h : Orderly fs paths prospect Tree Good pool)
    (hnodup : paths.Nodup)
    {i j : Nat} {a b : Worker}
    (ha : pool.workers[i]? = some a)
    (hb : pool.workers[j]? = some b)
    (hij : i ≠ j) :
    a.path ≠ b.path := by
  have ha' : paths[i]? = some a.path := by rw [← h.files, List.getElem?_map, ha]; rfl
  have hb' : paths[j]? = some b.path := by rw [← h.files, List.getElem?_map, hb]; rfl
  intro heq
  rw [heq, ← hb'] at ha'
  have hlt : i < paths.length := by
    rcases Nat.lt_or_ge i paths.length with hlt | hge
    · exact hlt
    · rw [List.getElem?_eq_none hge, hb'] at ha'
      cases ha'
  exact hij ((List.getElem?_inj hlt hnodup).1 ha')

theorem start
    (d : Discipline config root fs paths prospect Tree Good)
    (hscratch : ∀ worker : Nat, fs.scratch[worker]? = none) :
    Orderly fs paths prospect Tree Good (start fs paths) where
  files := by simp [Pool.start, Function.comp_def]
  workingDirectory := rfl
  tree := d.tree_start
  accounted := fun _ => Or.inl rfl
  good := by
    intro index worker hget
    obtain ⟨path, hpath, rfl⟩ : ∃ path, paths[index]? = some path ∧ ⟨path, .waiting⟩ = worker := by
      simpa [Pool.start] using hget
    exact d.good_start index path (List.mem_of_getElem? hpath)
  scratch := fun worker _ => hscratch worker

/-- Every step keeps the discipline. -/
theorem step
    (d : Discipline config root fs paths prospect Tree Good)
    (hnodup : paths.Nodup)
    (h : Orderly fs paths prospect Tree Good pool)
    (hstep : Step config parallelism root pool later) :
    Orderly fs paths prospect Tree Good later := by
  cases hstep with
  | @move index worker hget hopen hroom =>
    have hmem := h.path_mem hget
    have hgood := h.good index worker hget
    have hchange := d.change hmem h.tree hgood hopen
    have htree := d.tree_step hmem h.tree hchange
    have hlt : index < pool.workers.length := (List.getElem?_eq_some_iff.1 hget).1
    refine ⟨(map_path_after config root hget).trans h.files,
      hchange.workingDirectory.trans h.workingDirectory, htree, h.accounted.step hmem hchange, ?_, ?_⟩
    · intro i other hother
      by_cases hi : i = index
      · -- the worker that took the step
        subst hi
        simp only [Pool.after, List.getElem?_set_self hlt, Option.some.injEq] at hother
        subst hother
        exact d.good_step hmem h.tree hgood hopen
      · -- all others
        simp only [Pool.after, List.getElem?_set_ne (Ne.symm hi)] at hother
        exact d.good_stable (h.path_mem hother) hmem (h.path_ne hnodup hget hother (Ne.symm hi))
          h.tree htree hchange (scratch_advance_of_ne hi) (h.good i other hother)
    · intro i hi
      simp only [Pool.after, List.length_set] at hi
      have hne : i ≠ index := by omega
      exact (scratch_advance_of_ne hne).trans (h.scratch i hi)

theorem reaches
    (d : Discipline config root fs paths prospect Tree Good)
    (hnodup : paths.Nodup)
    (h : Orderly fs paths prospect Tree Good pool)
    (hreaches : Reaches config parallelism root pool later) :
    Orderly fs paths prospect Tree Good later := by
  induction hreaches with
  | refl => exact h
  | tail _ hstep ih => exact ih.step d hnodup hstep

end Orderly
end Pool
end Dispatch
end LineSieve
