import LineSieve.Proofs.Selection

/-!
# Spellings of a root

A directory can be called by many paths: with `.` in front or a slash behind, from the root, or
through a link.  Files are looked for, read and replaced where these paths lead, so the spelling only
shows in the paths that are reported.  Two things tell spellings apart.  The path `-` names standard
input, below which nothing is listed.  And the system accepts a path only up to a length, so a long
spelling may put files out of reach that a short one reaches.
-/

namespace LineSieve

open FileSystem

/-! ## Names below a root -/

namespace Path

theorem compare_append_left
    (front a b : List Component) :
    compare (front ++ a) (front ++ b) = compare a b := by
  induction front with
  | nil => rfl
  | cons step front ih =>
    have hself : compare step step = .eq := Std.ReflCmp.compare_self
    show List.compareLex compare (step :: (front ++ a)) (step :: (front ++ b)) = _
    rw [List.compareLex_cons_cons, hself]
    exact ih

end Path

namespace Walk

variable {fs : FileSystem} {root root' : Path} {location : Location} {glob : Glob}
  {recursive : Bool} {names : List (List Char)}

/-- The system accepts the paths below two roots alike. -/
def SameReach (fs : FileSystem) (location : Location) (root root' : Path) : Prop :=
  ∀ names, fs.entry? (names ++ location) ≠ none →
    (Fits (pathBelow root names) ↔ Fits (pathBelow root' names))

/-- Names below a root are ordered among themselves as the paths are. -/
theorem increasing_selection
    (hfs : fs.WellFormed)
    (hroot : fs.lookup root = .ok (location, .directory))
    (hinput : root.same standardInput = false) :
    (selection fs root glob recursive).Pairwise fun a b =>
      compare (a.reverse.map Component.name) (b.reverse.map Component.name) = .lt := by
  have hincreasing := increasing_matching hfs root glob recursive
  rw [← map_pathBelow_selection hfs hroot hinput, List.pairwise_map] at hincreasing
  refine hincreasing.imp_of_mem fun {a b} ha hb hlt => ?_
  have hproper := ((mem_selection_iff hfs hroot hinput).1 ha).1.proper hfs
  have hproper' := ((mem_selection_iff hfs hroot hinput).1 hb).1.proper hfs
  rwa [components_pathBelow hproper, components_pathBelow hproper', Path.compare_append_left] at hlt

/-- From two spellings a walk lists the same files in the same order. -/
theorem selection_eq
    (hfs : fs.WellFormed)
    (hroot : fs.lookup root = .ok (location, .directory))
    (hroot' : fs.lookup root' = .ok (location, .directory))
    (hinput : root.same standardInput = false)
    (hinput' : root'.same standardInput = false)
    (hreach : SameReach fs location root root') :
    selection fs root glob recursive = selection fs root' glob recursive := by
  have hnodup := @nodup_selection fs root location glob recursive hfs hroot hinput
  have hnodup' := @nodup_selection fs root' location glob recursive hfs hroot' hinput'
  refine List.Perm.eq_of_pairwise ?_ (increasing_selection hfs hroot hinput)
    (increasing_selection hfs hroot' hinput') ((List.perm_ext_iff_of_nodup hnodup hnodup').2 ?_)
  · intro a b _ _ hab hba
    exact absurd hba (Std.OrientedCmp.not_lt_of_lt hab)
  intro names
  rw [mem_selection_iff hfs hroot hinput, mem_selection_iff hfs hroot' hinput']
  refine and_congr_right fun hselected => ?_
  cases names with
  | nil => cases hselected
  | cons name above =>
    obtain ⟨⟨content, mode, hentry⟩, -, -⟩ := hselected
    refine hreach above ?_
    have hdir := hfs.parent name (above ++ location) (by rw [← List.cons_append, hentry]; simp)
    rw [(isDirectoryAt_iff _).1 hdir]
    simp

theorem nul_not_mem_pathBelow
    (hfs : fs.WellFormed)
    (hroot : '\x00' ∉ root.text)
    (hentry : fs.entry? (names ++ location) ≠ none) :
    '\x00' ∉ (pathBelow root names).text := by
  induction names with
  | nil => exact hroot
  | cons name above ih =>
    have hname := hfs.isName name (above ++ location) hentry
    have hdir := hfs.parent name (above ++ location) hentry
    rw [isDirectoryAt_iff] at hdir
    have habove := ih (by rw [hdir]; simp)
    obtain ⟨gap, htext, hgap⟩ := Path.join_name_text (pathBelow root above) hname
    have hnul := hfs.no_nul name (above ++ location) hentry
    rw [pathBelow_cons, htext]
    rcases hgap with ⟨rfl, -⟩ | ⟨rfl, -⟩ <;> simp [habove, hnul]

/-- What the system accepts alike it also refuses alike. -/
theorem refusal?_pathBelow_eq
    (hfs : fs.WellFormed)
    (hroot : Fits root)
    (hroot' : Fits root')
    (hreach : SameReach fs location root root')
    (hentry : fs.entry? (names ++ location) ≠ none) :
    refusal? (pathBelow root names) = refusal? (pathBelow root' names) := by
  have hproper := hfs.proper hentry
  have hrefused : ∀ {start : Path}, Fits start → ¬Fits (pathBelow start names) →
      refusal? (pathBelow start names) = some .nameTooLong := by
    intro start hstart hunfit
    have hnul := nul_not_mem_pathBelow hfs hstart.no_nul hentry
    have hne := Dispatch.Mirrored.text_pathBelow_ne_nil hstart.nonempty hproper
    have hlen : pathLimit < (Utf8.encode (pathBelow start names).text).length := by
      by_contra hle
      exact hunfit ⟨hnul, hne, Nat.not_lt.1 hle⟩
    rw [refusal?, if_neg (by simpa using hnul), if_neg (by simpa using hne), if_pos hlen]
  by_cases hfits : Fits (pathBelow root names)
  · rw [refusal?_eq_none_of_fits hfits, refusal?_eq_none_of_fits ((hreach names hentry).1 hfits)]
  · rw [hrefused hroot hfits, hrefused hroot' fun h => hfits ((hreach names hentry).2 h)]

end Walk

/-! ## Paths that lead the same way -/

namespace FileSystem

/-- Two paths lead to the same entry or place, or the system refuses both for the same reason. -/
def SameWay (fs : FileSystem) (path path' : Path) : Prop :=
  ∀ followLast, fs.resolve followLast path = fs.resolve followLast path'

namespace SameWay

variable {fs later : FileSystem} {path path' : Path}

theorem refl
    (fs : FileSystem) (path : Path) :
    SameWay fs path path := fun _ => rfl

theorem congr
    (h : SameWay fs path path')
    (hsame : SameTree fs later) :
    SameWay later path path' := by
  intro followLast
  rw [hsame.resolve, hsame.resolve, h]

theorem of_points
    {name : List Char} {directory : Location} {entry : Entry}
    (h : Points fs path name directory)
    (h' : Points fs path' name directory)
    (hentry : fs.entry? (name :: directory) = some entry)
    (hlink : entry.isLink = false)
    (hrefusal : refusal? path = refusal? path') :
    SameWay fs path path' := by
  intro followLast
  rw [h.resolve_eq hentry (Or.inr hlink), h'.resolve_eq hentry (Or.inr hlink), answer, answer,
    hrefusal]

theorem lookup
    (h : SameWay fs path path') :
    fs.lookup path = fs.lookup path' := by
  rw [FileSystem.lookup, FileSystem.lookup, h]

theorem publishScratch
    (h : SameWay fs path path')
    (worker : Nat) :
    fs.publishScratch worker path = fs.publishScratch worker path' := by
  rw [FileSystem.publishScratch, FileSystem.publishScratch, h]

end SameWay
end FileSystem

/-! ## One file -/

namespace Process

/-- No failure, or one for the same reason with a path of its own. -/
inductive SameFailure : Option FileError → Option FileError → Prop
  | none :
      SameFailure none none
  | io (path path' : Path) (cause : IoError) :
      SameFailure (some (.io path cause)) (some (.io path' cause))

/-- The same state of the tree and of the scratch files, the same failure and the same counts. -/
structure SameOutcome (outcome outcome' : FileSystem × Option FileError × ActionCounts) : Prop where
  fs : outcome'.1 = outcome.1
  failure : SameFailure outcome.2.1 outcome'.2.1
  counts : outcome'.2.2 = outcome.2.2

variable {config : Config} {fs : FileSystem} {worker : Nat}
  {path path' target target' : Path}

theorem publish_of_sameWay
    (config : Config) (worker : Nat)
    (hpath : fs.lookup path = fs.lookup path')
    (htarget : SameWay fs target target') :
    (∃ after, publish config fs worker path target = .ok after ∧
        publish config fs worker path' target' = .ok after) ∨
      ∃ about about' cause, publish config fs worker path target = .error (.io about cause) ∧
        publish config fs worker path' target' = .error (.io about' cause) := by
  have hmove : ∀ {prepared : FileSystem}, SameTree fs prepared →
      prepared.publishScratch worker target = prepared.publishScratch worker target' :=
    fun hsame => (htarget.congr hsame).publishScratch worker
  have hmode : fs.modeOf path' = fs.modeOf path := by rw [modeOf, modeOf, hpath]
  unfold publish
  rw [hmode]
  by_cases hkeep : config.keepPermissions = true
  · cases fs.modeOf path with
    | error e =>
      simp only [hkeep, if_true]
      exact Or.inr ⟨path, path', e, rfl, rfl⟩
    | ok mode =>
      simp only [hkeep, if_true]
      rw [hmove (sameBut_setScratchMode fs worker mode).sameTree]
      cases (fs.setScratchMode worker mode).publishScratch worker target' with
      | error e => exact Or.inr ⟨target, target', e, rfl, rfl⟩
      | ok after => exact Or.inl ⟨after, rfl, rfl⟩
  · simp only [hkeep, Bool.false_eq_true, if_false]
    rw [hmove (.refl fs)]
    cases fs.publishScratch worker target' with
    | error e => exact Or.inr ⟨target, target', e, rfl, rfl⟩
    | ok after => exact Or.inl ⟨after, rfl, rfl⟩

theorem fill_of_sameWay
    (config : Config) (worker : Nat)
    (hpath : fs.lookup path = fs.lookup path')
    (htarget : SameWay fs target target') :
    SameOutcome (fill config fs worker path target) (fill config fs worker path' target') := by
  have hcontent : fs.contentOf path' = fs.contentOf path := by rw [contentOf, contentOf, hpath]
  unfold fill
  rw [hcontent]
  cases fs.contentOf path with
  | error e => exact ⟨rfl, .io path path' e, rfl⟩
  | ok content =>
    have hsame := (sameBut_appendScratch fs worker (sift config.rules content).bytes).sameTree
    cases hfault : (sift config.rules content).fault with
    | some fault =>
      simp only [hfault]
      exact ⟨rfl, .io path path' _, rfl⟩
    | none =>
      simp only [hfault]
      have hpath' := (hsame.lookup path).trans (hpath.trans (hsame.lookup path').symm)
      rcases publish_of_sameWay config worker hpath' (htarget.congr hsame) with
        ⟨after, hpublish, hpublish'⟩ | ⟨about, about', cause, hpublish, hpublish'⟩
      · rw [hpublish, hpublish']
        exact ⟨rfl, .none, rfl⟩
      · rw [hpublish, hpublish']
        exact ⟨rfl, .io about about' cause, rfl⟩

theorem replace_of_sameWay
    (config : Config) (worker : Nat)
    (hpath : fs.lookup path = fs.lookup path')
    (htarget : SameWay fs target target')
    (hdirectory : fs.lookup (scratchDirectory target) = fs.lookup (scratchDirectory target')) :
    SameOutcome (replace config fs worker path target) (replace config fs worker path' target') := by
  have hcreate : fs.createScratch worker (scratchDirectory target) =
      fs.createScratch worker (scratchDirectory target') := by
    rw [createScratch, createScratch, hdirectory]
  unfold replace
  rw [← hcreate]
  cases hcreated : fs.createScratch worker (scratchDirectory target) with
  | error e => exact ⟨rfl, .io _ _ e, rfl⟩
  | ok created =>
    obtain ⟨location, -, rfl⟩ := exists_lookup_of_createScratch hcreated
    have hsame := (sameBut_newScratch fs worker ⟨location, [], scratchMode⟩).sameTree
    have hpath' := (hsame.lookup path).trans (hpath.trans (hsame.lookup path').symm)
    exact fill_of_sameWay config worker hpath' (htarget.congr hsame)

end Process

namespace Dispatch

open Process Walk

/-- The same answer about the same file, which two roots reach by different paths. -/
structure Corresponds (config : Config) (root root' : Path) (result result' : FileResult) : Prop where
  relative : ∃ below, result.sourcePath.relativeTo? root = some below ∧
    result'.sourcePath.relativeTo? root' = some below
  failure : SameFailure result.error result'.error
  counts : result'.counts = result.counts
  inPlace : config.output = .inPlace →
    result.outputPath = some result.sourcePath ∧ result'.outputPath = some result'.sourcePath
  mirrored : config.output ≠ .inPlace → result'.outputPath = result.outputPath

section File

variable {config : Config} {fs : FileSystem} {root root' : Path} {location : Location} {glob : Glob}
  {recursive : Bool} {name : List Char} {above : List (List Char)} {content : List UInt8} {mode : Nat}

/-- As far as a walk goes, the directory of a scratch file beside a file is there. -/
theorem lookup_scratchDirectory_pathBelow
    (hfs : fs.WellFormed)
    (hroot : fs.lookup root = .ok (location, .directory))
    (hfits : Fits (pathBelow root above))
    (hentry : fs.entry? (name :: above ++ location) = some (.file content mode)) :
    fs.lookup (scratchDirectory (pathBelow root (name :: above))) =
      .ok (above ++ location, .directory) := by
  have hfound : IsFound fs root location (pathBelow root (name :: above)) name above content mode :=
    ⟨rfl, hentry⟩
  obtain ⟨hname, -⟩ := Proper.cons.1 (hfound.proper hfs)
  obtain ⟨parent, hparent, hne, -⟩ := Path.exists_parent?_join_name hname hfits.nonempty
  have hpre := Path.isPrefix_of_parent?_join_name hname hfits.nonempty hparent
  have hscratch : scratchDirectory (pathBelow root (name :: above)) = parent := by
    have hkeep : parent.text.isEmpty = false := by simpa using hne
    rw [scratchDirectory, directoryOf?, pathBelow_cons, hparent, Option.filter_some, hkeep]
    rfl
  rw [lookup_scratchDirectory (hfound.points hfs hroot), hscratch,
    answer_of_fits (hfits.of_prefix hpre hne)]

section Run

variable (hfs : fs.WellFormed) (hblank : root.isBlank = false) (hblank' : root'.isBlank = false)
  (hroot : fs.lookup root = .ok (location, .directory))
  (hroot' : fs.lookup root' = .ok (location, .directory))
  (hreach : SameReach fs location root root')
  (hentry : fs.entry? (name :: above ++ location) = some (.file content mode))

include hfs hentry in
theorem checkPath_pathBelow
    (hblank : root.isBlank = false) :
    checkPath fs false (pathBelow root (name :: above)) = .ok () := by
  have hnames : Proper (name :: above) := proper_of_entry? hfs hentry
  rw [checkPath, InPlace.isBlank_eq_false hblank hnames]
  rfl

include hfs hentry in
theorem points_pathBelow
    (hroot : fs.lookup root = .ok (location, .directory)) :
    Points fs (pathBelow root (name :: above)) name (above ++ location) :=
  IsFound.points hfs hroot ⟨rfl, hentry⟩

include hfs hroot hroot' hreach hentry in
theorem refusal?_file_eq :
    refusal? (pathBelow root (name :: above)) = refusal? (pathBelow root' (name :: above)) :=
  refusal?_pathBelow_eq hfs ((lookup_eq_directory_iff _ _).1 hroot).1
    ((lookup_eq_directory_iff _ _).1 hroot').1 hreach (by rw [hentry]; simp)

include hfs hblank hblank' hroot hroot' hreach hentry in
/-- In place a file is processed in the same way from two spellings of the root. -/
theorem run_inPlace_of_spellings
    (hplace : config.output = .inPlace)
    (hfits : Fits (pathBelow root above)) :
    (run config fs 0 false (some root') (pathBelow root' (name :: above))).1 =
        (run config fs 0 false (some root) (pathBelow root (name :: above))).1 ∧
      Corresponds config root root'
        (run config fs 0 false (some root) (pathBelow root (name :: above))).2
        (run config fs 0 false (some root') (pathBelow root' (name :: above))).2 := by
  have hnames : Proper (name :: above) := proper_of_entry? hfs hentry
  have hpoints := points_pathBelow hfs hentry hroot
  have hpoints' := points_pathBelow hfs hentry hroot'
  have hway := SameWay.of_points hpoints hpoints' hentry rfl
    (refusal?_file_eq hfs hroot hroot' hreach hentry)
  have hdir := (isDirectoryAt_iff _).1 hpoints.isDirectoryAt
  have hfits' : Fits (pathBelow root' above) := (hreach above (by rw [hdir]; simp)).1 hfits
  have hdirectory := lookup_scratchDirectory_pathBelow hfs hroot hfits hentry
  rw [← lookup_scratchDirectory_pathBelow hfs hroot' hfits' hentry] at hdirectory
  have houtcome := replace_of_sameWay config 0 hway.lookup hway hdirectory
  simp only [run, checkPath_pathBelow hfs hentry hblank, checkPath_pathBelow hfs hentry hblank',
    destination, hplace, inPlaceTarget_of_points hpoints hentry rfl,
    inPlaceTarget_of_points hpoints' hentry rfl]
  exact ⟨houtcome.fs,
    ⟨_, relativeTo?_pathBelow root hnames, relativeTo?_pathBelow root' hnames⟩,
    houtcome.failure, houtcome.counts, fun _ => ⟨rfl, rfl⟩, fun hother => absurd hplace hother⟩

include hfs hblank hblank' hroot hroot' hreach hentry in
/-- Into an output directory a file is processed in the same way from two spellings of the root. -/
theorem run_mirrored_of_spellings
    {out : Path}
    (hplace : config.output = .directory out .mirrored) :
    (run config fs 0 false (some root') (pathBelow root' (name :: above))).1 =
        (run config fs 0 false (some root) (pathBelow root (name :: above))).1 ∧
      Corresponds config root root'
        (run config fs 0 false (some root) (pathBelow root (name :: above))).2
        (run config fs 0 false (some root') (pathBelow root' (name :: above))).2 := by
  have hnames : Proper (name :: above) := proper_of_entry? hfs hentry
  have hrelative : ∃ below,
      (pathBelow root (name :: above)).relativeTo? root = some below ∧
        (pathBelow root' (name :: above)).relativeTo? root' = some below :=
    ⟨_, relativeTo?_pathBelow root hnames, relativeTo?_pathBelow root' hnames⟩
  have hother : config.output ≠ .inPlace := by simp [hplace]
  -- both have the same destination, and the same directories are made for it
  have hsame : destination config fs (some root') (pathBelow root' (name :: above)) =
      destination config fs (some root) (pathBelow root (name :: above)) := by
    simp only [destination, hplace, Mirrored.outputPath?_pathBelow out root hnames,
      Mirrored.outputPath?_pathBelow out root' hnames]
  have hfault : ∀ {e made}, destination config fs (some root) (pathBelow root (name :: above)) =
      (made, .error e) → ∃ about cause, e = .io about cause := by
    intro e made herror
    simp only [destination, hplace, Mirrored.outputPath?_pathBelow out root hnames] at herror
    repeat' split at herror
    all_goals cases herror
    exact ⟨_, _, rfl⟩
  obtain ⟨hmakes, -⟩ := @makesDirectories_destination config fs (some root)
    (pathBelow root (name :: above)) hfs
  simp only [run, checkPath_pathBelow hfs hentry hblank, checkPath_pathBelow hfs hentry hblank',
    hsame]
  cases hdestination : destination config fs (some root) (pathBelow root (name :: above)) with
  | mk made outcome =>
    cases outcome with
    | error e =>
      obtain ⟨about, cause, rfl⟩ := hfault hdestination
      exact ⟨rfl, hrelative, .io about about cause, rfl, fun h => absurd h hother, fun _ => rfl⟩
    | ok target =>
      rw [hdestination] at hmakes
      have hkeep : ∀ l e, e.isFile = false → fs.entry? l = some e → made.entry? l = some e :=
        fun _ _ _ => hmakes.keeps
      have hway : SameWay made (pathBelow root (name :: above)) (pathBelow root' (name :: above)) :=
        .of_points ((points_pathBelow hfs hentry hroot).mono hmakes.workingDirectory hkeep)
          ((points_pathBelow hfs hentry hroot').mono hmakes.workingDirectory hkeep)
          (hmakes.keeps hentry) rfl (refusal?_file_eq hfs hroot hroot' hreach hentry)
      have houtcome := replace_of_sameWay config 0 hway.lookup (.refl made target) rfl
      exact ⟨houtcome.fs, hrelative, houtcome.failure, houtcome.counts, fun h => absurd h hother,
        fun _ => rfl⟩

include hfs hblank hblank' hroot hroot' hreach hentry in
/-- A file is processed in the same way from two spellings of the root. -/
theorem run_of_spellings
    (hplace : config.output = .inPlace ∨ ∃ out, config.output = .directory out .mirrored)
    (hfits : Fits (pathBelow root above)) :
    (run config fs 0 false (some root') (pathBelow root' (name :: above))).1 =
        (run config fs 0 false (some root) (pathBelow root (name :: above))).1 ∧
      Corresponds config root root'
        (run config fs 0 false (some root) (pathBelow root (name :: above))).2
        (run config fs 0 false (some root') (pathBelow root' (name :: above))).2 := by
  rcases hplace with hplace | ⟨out, hplace⟩
  · exact run_inPlace_of_spellings hfs hblank hblank' hroot hroot' hreach hentry hplace hfits
  · exact run_mirrored_of_spellings hfs hblank hblank' hroot hroot' hreach hentry hplace

end Run

end File

/-! ## All files -/

section Runs

variable {start : PoolStart} {config : Config} {parallelism parallelism' : Parallelism}
  {fs later later' : FileSystem} {root root' : Path} {location : Location} {pattern : List Char}
  {glob : Glob} {recursive : Bool} {answer answer' : Except DispatchError (List FileResult)}
  {results : List FileResult}

/-- A run comes to what its files come to alone: each is reported as if it were processed alone, and
the tree is settled by what they change. -/
theorem exists_settled_of_runs
    (hfs : fs.WellFormed)
    (hscratch : ∀ worker : Nat, fs.scratch[worker]? = none)
    (hplace : config.output = .inPlace ∨
      ∃ out, config.output = .directory out .mirrored ∧ IsFresh fs out)
    (hglob : compileGlob pattern = .ok glob)
    (hruns : Runs start config parallelism fs root pattern recursive later (.ok results)) :
    ∃ prospect,
      Settled fs (matching fs root glob recursive) prospect later ∧
      (∀ path ∈ matching fs root glob recursive,
        Settled fs [path] prospect (run config fs 0 false (some root) path).1) ∧
      results = (matching fs root glob recursive).map
        fun path => (run config fs 0 false (some root) path).2 := by
  have hcheck : checkDirectory fs root = .ok () := by
    cases hruns
    assumption
  obtain ⟨prospect, Tree, Good, d, -⟩ :=
    exists_discipline hfs hscratch hplace hcheck fun path hmem => hmem
  obtain ⟨-, hsettled, -, hresults⟩ := settled_of_runs d hfs hscratch hglob hruns
  refine ⟨prospect, hsettled, fun path hmem => (settled_run d hscratch hmem).1, ?_⟩
  rw [hresults]
  exact List.map_congr_left fun path hmem => (settled_run d hscratch hmem).2.symm

/-- The same answer from two roots: the same error, or corresponding results one by one. -/
inductive SameAnswer (config : Config) (root root' : Path) :
    Except DispatchError (List FileResult) → Except DispatchError (List FileResult) → Prop
  | error (e : DispatchError) :
      SameAnswer config root root' (.error e) (.error e)
  | ok
      {results results' : List FileResult}
      (h : List.Forall₂ (Corresponds config root root') results results') :
      SameAnswer config root root' (.ok results) (.ok results')

/-- If the pool does not start, it does not matter for which root. -/
theorem Unstarted.sameAnswer
    (h : Unstarted start fs later answer)
    (h' : Unstarted start fs later' answer') :
    SameTree later later' ∧ SameAnswer config root root' answer answer' := by
  cases h with
  | mk hstart =>
    cases h' with
    | mk hstart' =>
      cases hstart.symm.trans hstart'
      exact ⟨.refl fs, .error _⟩

/-- Two runs from different spellings of one directory, of which neither is the standard input, give
the same answer and leave the same tree, provided that the system accepts the paths below both of
them alike. -/
theorem runs_of_spellings
    (hfs : fs.WellFormed)
    (hscratch : ∀ worker : Nat, fs.scratch[worker]? = none)
    (hplace : config.output = .inPlace ∨
      ∃ out, config.output = .directory out .mirrored ∧ IsFresh fs out)
    (hcheck : checkDirectory fs root = .ok ())
    (hcheck' : checkDirectory fs root' = .ok ())
    (hroot : fs.lookup root = .ok (location, .directory))
    (hroot' : fs.lookup root' = .ok (location, .directory))
    (hinput : root.same standardInput = false)
    (hinput' : root'.same standardInput = false)
    (hreach : SameReach fs location root root')
    (hruns : Runs start config parallelism fs root pattern recursive later answer)
    (hruns' : Runs start config parallelism' fs root' pattern recursive later' answer') :
    SameTree later later' ∧ SameAnswer config root root' answer answer' := by
  have hblank := (lookup_of_checkDirectory hcheck).1
  have hblank' := (lookup_of_checkDirectory hcheck').1
  have hkind : config.output = .inPlace ∨ ∃ out, config.output = .directory out .mirrored :=
    hplace.imp_right fun ⟨out, hout, _⟩ => ⟨out, hout⟩
  cases hglob : compileGlob pattern with
  | error e =>
    obtain ⟨rfl, rfl⟩ := hruns.eq_of_badPattern hcheck hglob
    obtain ⟨rfl, rfl⟩ := hruns'.eq_of_badPattern hcheck' hglob
    exact ⟨.refl _, .error e⟩
  | ok glob =>
    rcases hruns.unstarted_or_exists_results hcheck hglob with hunstarted | ⟨rfl, results, rfl⟩
    · rcases hruns'.unstarted_or_exists_results hcheck' hglob with hunstarted' | ⟨rfl, -⟩
      · exact hunstarted.sameAnswer hunstarted'
      · exact absurd hunstarted not_unstarted_ok
    obtain ⟨-, results', rfl⟩ :=
      (hruns'.unstarted_or_exists_results hcheck' hglob).resolve_left not_unstarted_ok
    obtain ⟨prospect, hsettled, halone, hresults⟩ :=
      exists_settled_of_runs hfs hscratch hplace hglob hruns
    obtain ⟨prospect', hsettled', halone', hresults'⟩ :=
      exists_settled_of_runs hfs hscratch hplace hglob hruns'
    have hnames := @selection_eq fs root root' location glob recursive hfs hroot hroot' hinput
      hinput' hreach
    have hpaths := @map_pathBelow_selection fs root location glob recursive hfs hroot hinput
    have hpaths' := @map_pathBelow_selection fs root' location glob recursive hfs hroot' hinput'
    rw [← hnames] at hpaths'
    -- each file is processed alone in the same way
    have hfile : ∀ names ∈ selection fs root glob recursive,
        (run config fs 0 false (some root') (pathBelow root' names)).1 =
            (run config fs 0 false (some root) (pathBelow root names)).1 ∧
          Corresponds config root root'
            (run config fs 0 false (some root) (pathBelow root names)).2
            (run config fs 0 false (some root') (pathBelow root' names)).2 := by
      intro names hmem
      obtain ⟨hselected, hfits⟩ := (mem_selection_iff hfs hroot hinput).1 hmem
      cases names with
      | nil => cases hselected
      | cons name above =>
        obtain ⟨⟨content, mode, hentry⟩, -, -⟩ := hselected
        exact run_of_spellings hfs hblank hblank' hroot hroot' hreach hentry hkind hfits
    rw [← hpaths] at hsettled halone hresults
    rw [← hpaths'] at hsettled' halone' hresults'
    refine ⟨?_, .ok ?_⟩
    · rw [List.forall_mem_map] at halone halone'
      exact hsettled.sameTree_of_alone (fun path => (run config fs 0 false (some root) path).1)
        (fun path => (run config fs 0 false (some root') path).1) hsettled' halone halone'
        fun names hmem => (hfile names hmem).1
    · rw [hresults, hresults', List.map_map, List.map_map, List.forall₂_map_left_iff,
        List.forall₂_map_right_iff, List.forall₂_same]
      exact fun names hmem => (hfile names hmem).2

end Runs

theorem sameReach_mixedTree :
    SameReach mixedTree [['d']] ⟨['d']⟩ ⟨['d', '/', 'l', '/', 'd']⟩ := by
  intro names hentry
  by_cases hfile : names = [['.', 'b']]
  · subst hfile
    exact iff_of_true ⟨by decide, by decide, by decide⟩ ⟨by decide, by decide, by decide⟩
  by_cases hlink : names = [['l']]
  · subst hlink
    exact iff_of_true ⟨by decide, by decide, by decide⟩ ⟨by decide, by decide, by decide⟩
  cases names with
  | nil => exact iff_of_true ⟨by decide, by decide, by decide⟩ ⟨by decide, by decide, by decide⟩
  | cons name above =>
    -- below `d` there is nothing else
    have hne : name :: above ++ [['d']] ≠ [['l'], ['d']] := fun h => hlink (by simpa using h)
    have hne' : name :: above ++ [['d']] ≠ [['.', 'b'], ['d']] := fun h => hfile (by simpa using h)
    have hdir : name :: above ++ [['d']] ≠ [['d']] := by simp
    have hfirst : name :: above ++ [['d']] ≠ [['a']] := by simp
    rw [mixedTree, entry?_put_of_ne (List.cons_ne_nil _ _) hne,
      entry?_put_of_ne (List.cons_ne_nil _ _) hne', entry?_put_of_ne (List.cons_ne_nil _ _) hdir,
      withFile, entry?_put_of_ne (List.cons_ne_nil _ _) hfirst] at hentry
    exact absurd Std.ExtTreeMap.getElem?_empty hentry

theorem runs_of_spellings_link :
    mixedTree.lookup ⟨['d', '/', 'l', '/', 'd']⟩ = .ok ([['d']], .directory) ∧
      SameTree
        (processDirectory (.ok ()) ⟨[], .inPlace, .auto, true⟩ mixedTree ⟨['d']⟩ ['*'] true).1
        (processDirectory (.ok ()) ⟨[], .inPlace, .auto, true⟩ mixedTree ⟨['d', '/', 'l', '/', 'd']⟩
          ['*'] true).1 ∧
      SameAnswer ⟨[], .inPlace, .auto, true⟩ ⟨['d']⟩ ⟨['d', '/', 'l', '/', 'd']⟩
        (processDirectory (.ok ()) ⟨[], .inPlace, .auto, true⟩ mixedTree ⟨['d']⟩ ['*'] true).2
        (processDirectory (.ok ()) ⟨[], .inPlace, .auto, true⟩ mixedTree ⟨['d', '/', 'l', '/', 'd']⟩
          ['*'] true).2 := by
  have hlookup : mixedTree.lookup ⟨['d', '/', 'l', '/', 'd']⟩ = .ok ([['d']], .directory) := by
    decide
  exact ⟨hlookup, runs_of_spellings wellFormed_mixedTree (fun _ => Std.ExtTreeMap.getElem?_empty)
    (Or.inl rfl) (by decide) (by decide) (by decide) hlookup (by decide) (by decide)
    sameReach_mixedTree (runs_processDirectory _ _ .auto _ _ _ _)
    (runs_processDirectory _ _ .auto _ _ _ _)⟩

/-- A directory called `-` that holds a file. -/
def dashTree : FileSystem :=
  (FileSystem.empty.put [['-']] .directory).put [['a'], ['-']]
    (.file (Utf8.encode ['x', '\n']) 0o644)

/-- By its plain name the directory is taken for standard input, and no file in it is processed; with
`.` in front it is not. -/
theorem processDirectory_differs_by_spelling :
    dashTree.lookup ⟨['-']⟩ = .ok ([['-']], .directory) ∧
      dashTree.lookup ⟨['.', '/', '-']⟩ = .ok ([['-']], .directory) ∧
      checkDirectory dashTree ⟨['-']⟩ = .ok () ∧
      checkDirectory dashTree ⟨['.', '/', '-']⟩ = .ok () ∧
      (processDirectory (.ok ()) ⟨[], .inPlace, .sequential, true⟩ dashTree ⟨['-']⟩ ['*'] true).2 =
        .ok [] ∧
      (processDirectory (.ok ()) ⟨[], .inPlace, .sequential, true⟩ dashTree ⟨['.', '/', '-']⟩ ['*']
        true).2 =
        .ok [⟨⟨['.', '/', '-', '/', 'a']⟩, some ⟨['.', '/', '-', '/', 'a']⟩, none, ⟨1, 0, 0⟩⟩] := by
  decide +kernel

end Dispatch
end LineSieve
