import LineSieve.Proofs.Frame
import LineSieve.Proofs.Fresh

/-!
# What paths hold during a run

A file is published at one path.  Before that the path holds what it held at the start; afterwards
it holds the complete result, with the bytes and the mode that it is to have in the end.  This is
shown for files that are replaced, for files that go to a new directory, and for files that cannot
be published because something is in the way.
-/

namespace LineSieve

/-- What is at the end of a path, where a link is not followed. -/
def FileSystem.held (fs : FileSystem) (path : Path) : Option Entry :=
  (fs.lookupLink path).toOption.map (·.2)

namespace Dispatch

open FileSystem Process Walk

/-- The path at which a file of the walk is published. -/
def target? (config : Config) (root path : Path) : Option Path :=
  match config.output with
  | .inPlace => some path
  | .directory directory layout => outputPath? directory layout (some root) path

/-- The complete result of processing a file: all its lines are processed, and the mode is that of
the file, or the one of a new file. -/
def IsFinal (config : Config) (fs : FileSystem) (path : Path) (entry : Entry) : Prop :=
  ∃ text mode, fs.contentOf path = .ok (Utf8.encode text) ∧ fs.modeOf path = .ok mode ∧
    entry = .file (Utf8.encode (Text.rewritten config.rules text))
      (if config.keepPermissions then mode else 0o600)

/-- Prospects put directories only on the way to a target and complete results only at a target. -/
structure Delivery (config : Config) (root : Path) (fs : FileSystem) (paths : List Path)
    (prospect : Path → Prospect) (Tree : FileSystem → Prop) : Prop where
  made : ∀ {path now location}, path ∈ paths → Tree now → location ∈ (prospect path).made →
    now.entry? location = some .directory →
    ∃ directory ∈ way config (some root) path, now.lookup directory = .ok (location, .directory)
  isFinal : ∀ {path location entry}, path ∈ paths →
    (prospect path).published = some (location, entry) → IsFinal config fs path entry
  target : ∀ {path now location entry}, path ∈ paths → Tree now →
    (prospect path).published = some (location, entry) → now.entry? location = some entry →
    ∃ target, target? config root path = some target ∧
      now.lookupLink target = .ok (location, entry)
  held_target : ∀ {path now target}, path ∈ paths → Tree now → Accounted fs paths prospect now →
    target? config root path = some target →
    now.held target = fs.held target ∨ ∃ entry, now.held target = some entry ∧
      IsFinal config fs path entry
  held_source : ∀ {path now}, path ∈ paths → Tree now → config.output ≠ .inPlace →
    now.held path = fs.held path

section Entries

variable {fs now : FileSystem} {config : Config} {path : Path} {name : List Char}
  {directory : Location} {content : List UInt8} {mode : Nat}

theorem held_eq_some_iff
    {entry : Entry} :
    fs.held path = some entry ↔ ∃ location, fs.lookupLink path = .ok (location, entry) := by
  unfold held
  cases fs.lookupLink path with
  | error e => simp [Except.toOption]
  | ok found => simp [Except.toOption, Prod.ext_iff]

/-- What a path holds that points at an entry. -/
theorem held_of_points
    {entry : Entry}
    (h : Points fs path name directory)
    (hentry : fs.entry? (name :: directory) = some entry) :
    fs.held path = (answer path entry).toOption := by
  rw [held, lookupLink, h.resolve_eq hentry (Or.inl rfl), answer, answer]
  cases refusal? path <;> rfl

theorem held_of_sameTree
    (hsame : SameTree fs now)
    (path : Path) :
    now.held path = fs.held path := by
  rw [held, held, lookupLink, lookupLink, hsame.resolve]

theorem isFinal_of_points
    (hfs : fs.WellFormed)
    (h : Points fs path name directory)
    (hentry : fs.entry? (name :: directory) = some (.file content mode))
    (hfits : Fits path)
    (hfault : (sift config.rules content).fault = none) :
    IsFinal config fs path
      (.file (sift config.rules content).bytes (publishedMode config mode)) := by
  obtain ⟨text, rfl⟩ := (sift_fault_eq_none_iff config.rules content).1 hfault
  refine ⟨text, mode, ?_, ?_, ?_⟩
  · rw [h.contentOf_eq hentry, answer_of_fits hfits]
  · rw [h.modeOf_eq hentry, answer_of_fits hfits]
  · rw [sift_encode_bytes, publishedMode_of_lt (hfs.mode_lt _ _ _ hentry)]

end Entries

variable {config : Config} {fs now : FileSystem} {root path : Path} {rootLocation : Location}
  {paths : List Path}

/-! ## Files that are replaced -/

section InPlace

open InPlace

theorem InPlace.delivery
    (hfs : fs.WellFormed)
    (hplace : config.output = .inPlace)
    (hroot : fs.lookup root = .ok (rootLocation, .directory))
    (hpaths : ∀ path ∈ paths, ∃ name above content mode,
      IsFound fs root rootLocation path name above content mode) :
    Delivery config root fs paths (prospect config fs) (Framed fs) where
  made := fun _ _ hmade => absurd hmade (Set.notMem_empty _)
  isFinal := by
    intro path location entry hmem hpublished
    obtain ⟨name, above, content, mode, hfound⟩ := hpaths path hmem
    have hpoints := hfound.points hfs hroot
    obtain ⟨hfits, -, hfault, rfl⟩ := eq_of_published hpoints hfound.entry? hpublished
    exact isFinal_of_points hfs hpoints hfound.entry? hfits hfault
  target := by
    intro path now location entry hmem hframed hpublished hentry
    obtain ⟨name, above, content, mode, hfound⟩ := hpaths path hmem
    have hpoints := hfound.points hfs hroot
    obtain ⟨hfits, rfl, -⟩ := eq_of_published hpoints hfound.entry? hpublished
    refine ⟨path, by simp only [target?, hplace], ?_⟩
    have hnow := hpoints.mono hframed.workingDirectory hframed.keeps
    rw [lookupLink_eq_ok_iff]
    exact (Locates.mk hnow hfits).resolve_found hentry (Or.inl rfl)
  held_target := by
    intro path now target hmem hframed haccounted htarget
    obtain rfl : path = target := by simpa only [target?, hplace, Option.some.injEq] using htarget
    obtain ⟨name, above, content, mode, hfound⟩ := hpaths path hmem
    have hpoints := hfound.points hfs hroot
    have hnow := hpoints.mono hframed.workingDirectory hframed.keeps
    rcases haccounted (name :: above ++ rootLocation) with hsame | ⟨_, _, hmade, _, _⟩ |
      ⟨other, hother, entry, hpublished, hentry⟩
    · refine Or.inl ?_
      rw [held_of_points hnow (hsame.trans hfound.entry?), held_of_points hpoints hfound.entry?]
    · exact absurd hmade (Set.notMem_empty _)
    · by_cases hsame : other = path
      · subst hsame
        obtain ⟨hfits, -, hfault, rfl⟩ := eq_of_published hpoints hfound.entry? hpublished
        refine Or.inr ⟨_, ?_, isFinal_of_points hfs hpoints hfound.entry? hfits hfault⟩
        rw [held_of_points hnow hentry, answer_of_fits hfits]
        rfl
      · exact absurd hpublished (published_ne hfs hroot hpaths hother hsame hfound entry)
  held_source := fun _ _ hother => absurd hplace hother

end InPlace

/-! ## Files that go to a new directory -/

section Mirrored

open Mirrored

variable {out : Path} {base : List Component} {location : Location} {names : List (List Char)}
  {name : List Char} {above : List (List Char)} {content : List UInt8} {mode : Nat}

theorem target?_isFound
    (hfs : fs.WellFormed)
    (hplace : config.output = .directory out .mirrored)
    (hfound : IsFound fs root rootLocation path name above content mode) :
    target? config root path = some (targetOf out root path) := by
  rw [targetOf_isFound hfs hfound]
  simp only [target?, hplace]
  rw [hfound.path_eq]
  exact outputPath?_pathBelow out root (hfound.proper hfs)

theorem way_isFound
    (hfs : fs.WellFormed)
    (hplace : config.output = .directory out .mirrored)
    (happroach : Approach fs out base location names)
    (hfound : IsFound fs root rootLocation path name above content mode) :
    way config (some root) path = (bottomOf out root path).ancestors := by
  have htarget := target?_isFound hfs hplace hfound
  obtain ⟨hdirectory, -⟩ := directoryOf?_pathBelow happroach.nonempty (hfound.proper hfs)
  simp only [target?, hplace] at htarget
  simp only [way, hplace, htarget, Option.bind_some]
  rw [targetOf_isFound hfs hfound, hdirectory, bottomOf_isFound hfs hfound]

/-- If there is anything at a target, its directories are there and it is at its names. -/
theorem eq_of_lookupLink_targetOf
    (hfs : fs.WellFormed)
    (hroot : fs.lookup root = .ok (rootLocation, .directory))
    (hground : Ground fs out base location names)
    (hpaths : ∀ path ∈ paths, ∃ name above content mode,
      IsFound fs root rootLocation path name above content mode)
    (hfound : IsFound fs root rootLocation path name above content mode)
    (hgrown : Grown fs paths (prospect config fs out root location names) now)
    {place : Location} {entry : Entry}
    (h : now.lookupLink (targetOf out root path) = .ok (place, entry)) :
    Fits (targetOf out root path) ∧ place = name :: above ++ (names.reverse ++ location) ∧
      now.entry? place = some entry := by
  have hresolve := lookupLink_eq_ok_iff.1 h
  have hfits := fits_of_resolve hresolve
  have hrung := rung_bottomOf hfs hground.toApproach hfound
  have hbase := hgrown.base hground.leads
  have hlast : (targetOf out root path).steps.getLast? = some (.name name) := by
    rw [targetOf_isFound hfs hfound]
    exact (Path.trail_join_name (pathBelow out above) (Proper.cons.1 (hfound.proper hfs)).1).2
  have hbottom : Fits (bottomOf out root path) := (scratchDirectory_spec hlast).2 hfits
  obtain ⟨directory, hlocates, hthere⟩ := exists_locates_of_resolve hlast hresolve
  have hlookup : now.lookup (bottomOf out root path) = .ok (directory, .directory) :=
    lookup_scratchDirectory_of_locates hlocates
  rw [namesOf_isFound hfs hfound, List.tail_cons] at hrung
  -- the directories are there, and lead where the names lead
  have hmade : now.isDirectoryAt ((chainOf names above).reverse ++ location) = true := by
    by_cases hempty : chainOf names above = []
    · rw [hempty]
      exact hbase.1
    have hclear := clear_of_grown hfs hroot hground hpaths hfound hgrown hbottom
    rw [namesOf_isFound hfs hfound, List.tail_cons] at hclear
    rw [← hrung.isDirectory_iff hempty hbottom hgrown.wellFormed hbase hclear, isDirectory, leadsTo,
      hlookup]
    rfl
  have heq := hrung.lookup_of_made hbottom hgrown.wellFormed hbase hmade
  rw [hlookup, reverse_chainOf] at heq
  obtain rfl : directory = above ++ (names.reverse ++ location) := by
    cases heq
    rfl
  rcases hthere with ⟨-, hvacant⟩ | ⟨found, hentry, hresolved⟩
  · cases hvacant
  · cases hresolved
    exact ⟨hfits, rfl, hentry⟩

/-- Nothing is at a target at the start. -/
theorem held_targetOf_start
    (config : Config)
    (hfs : fs.WellFormed)
    (hroot : fs.lookup root = .ok (rootLocation, .directory))
    (hground : Ground fs out base location names)
    (hpaths : ∀ path ∈ paths, ∃ name above content mode,
      IsFound fs root rootLocation path name above content mode)
    (hfound : IsFound fs root rootLocation path name above content mode) :
    fs.held (targetOf out root path) = none := by
  rw [Option.eq_none_iff_forall_ne_some]
  intro entry hheld
  obtain ⟨place, hlookup⟩ := held_eq_some_iff.1 hheld
  have hgrown : Grown fs paths (prospect config fs out root location names) fs := grown_start hfs
  obtain ⟨hfits, rfl, hentry⟩ :=
    eq_of_lookupLink_targetOf hfs hroot hground hpaths hfound hgrown hlookup
  rw [targetOf_isFound hfs hfound] at hfits
  rw [entry?_target_eq_none hfs hground (hfound.proper hfs) hfits] at hentry
  cases hentry

/-- What is at a target is the complete result of its file. -/
theorem isFinal_of_held
    (hfs : fs.WellFormed)
    (hroot : fs.lookup root = .ok (rootLocation, .directory))
    (hground : Ground fs out base location names)
    (hpaths : ∀ path ∈ paths, ∃ name above content mode,
      IsFound fs root rootLocation path name above content mode)
    (hfound : IsFound fs root rootLocation path name above content mode)
    (hgrown : Grown fs paths (prospect config fs out root location names) now)
    (haccounted : Accounted fs paths (prospect config fs out root location names) now)
    {entry : Entry}
    (hheld : now.held (targetOf out root path) = some entry) :
    IsFinal config fs path entry := by
  obtain ⟨place, hlookup⟩ := held_eq_some_iff.1 hheld
  obtain ⟨hfits, rfl, hentry⟩ :=
    eq_of_lookupLink_targetOf hfs hroot hground hpaths hfound hgrown hlookup
  rcases haccounted (name :: above ++ (names.reverse ++ location)) with hsame |
    ⟨other, hother, hmade, -, -⟩ | ⟨other, hother, entry', hpublished, hentry'⟩
  · rw [targetOf_isFound hfs hfound] at hfits
    rw [hsame, entry?_target_eq_none hfs hground (hfound.proper hfs) hfits] at hentry
    cases hentry
  · -- directories are made elsewhere
    obtain ⟨name', above', content', mode', hfound'⟩ := hpaths other hother
    obtain ⟨-, front, hpre, -, -, heq⟩ := hmade
    rw [namesOf_isFound hfs hfound', List.tail_cons] at hpre
    exact absurd heq (target_ne_chain hfs hfound' hfound hpre)
  · rw [hentry] at hentry'
    cases hentry'
    obtain ⟨name', above', content', mode', hfound'⟩ := hpaths other hother
    obtain ⟨hsource, -, heq, -, hfault, rfl⟩ :=
      eq_of_published hfs hroot hground hfound' hpublished
    have hnames := List.append_cancel_right heq
    obtain rfl : path = other := by rw [hfound.path_eq, hfound'.path_eq, hnames]
    exact isFinal_of_points hfs (hfound'.points hfs hroot) hfound'.entry? hsource hfault

theorem Mirrored.delivery
    (hfs : fs.WellFormed)
    (hplace : config.output = .directory out .mirrored)
    (hroot : fs.lookup root = .ok (rootLocation, .directory))
    (hground : Ground fs out base location names)
    (hpaths : ∀ path ∈ paths, ∃ name above content mode,
      IsFound fs root rootLocation path name above content mode) :
    Delivery config root fs paths (prospect config fs out root location names)
      (Grown fs paths (prospect config fs out root location names)) where
  made := by
    intro path now place hmem hgrown hmade hdir
    obtain ⟨name, above, content, mode, hfound⟩ := hpaths path hmem
    have hrung := rung_bottomOf hfs hground.toApproach hfound
    obtain ⟨hfits, front, ⟨back, hback⟩, hne, -, rfl⟩ := hmade
    rw [← hback] at hrung
    obtain ⟨directory, hdirectory, hcovers⟩ :=
      hrung.exists_mem_ancestorsFrom hne (Nat.le_refl _)
    rw [way_isFound hfs hplace hground.toApproach hfound]
    exact ⟨directory, hdirectory, hcovers.lookup_of_made hfits hgrown.wellFormed
      (hgrown.base hground.leads) ((isDirectoryAt_iff _).2 hdir)⟩
  isFinal := by
    intro path place entry hmem hpublished
    obtain ⟨name, above, content, mode, hfound⟩ := hpaths path hmem
    obtain ⟨hfits, -, -, -, hfault, rfl⟩ := eq_of_published hfs hroot hground hfound hpublished
    exact isFinal_of_points hfs (hfound.points hfs hroot) hfound.entry? hfits hfault
  target := by
    intro path now place entry hmem hgrown hpublished hentry
    obtain ⟨name, above, content, mode, hfound⟩ := hpaths path hmem
    obtain ⟨-, hfits, rfl, -⟩ := eq_of_published hfs hroot hground hfound hpublished
    have hdir := hgrown.wellFormed.parent name (above ++ (names.reverse ++ location))
      (by rw [← List.cons_append, hentry]; simp)
    have hpoints := points_targetOf hfs hground hfound hgrown hdir
    refine ⟨_, target?_isFound hfs hplace hfound, ?_⟩
    rw [lookupLink_eq_ok_iff]
    exact (Locates.mk hpoints hfits).resolve_found hentry (Or.inl rfl)
  held_target := by
    intro path now target hmem hgrown haccounted htarget
    obtain ⟨name, above, content, mode, hfound⟩ := hpaths path hmem
    rw [target?_isFound hfs hplace hfound] at htarget
    cases htarget
    rw [held_targetOf_start config hfs hroot hground hpaths hfound]
    cases hheld : now.held (targetOf out root path) with
    | none => exact Or.inl rfl
    | some entry =>
      exact Or.inr ⟨entry, rfl,
        isFinal_of_held hfs hroot hground hpaths hfound hgrown haccounted hheld⟩
  held_source := by
    intro path now hmem hgrown _
    obtain ⟨name, above, content, mode, hfound⟩ := hpaths path hmem
    have hpoints := hfound.points hfs hroot
    have hnow := hpoints.mono hgrown.workingDirectory fun l e _ => hgrown.keeps l e
    rw [held_of_points hnow (hgrown.keeps _ _ hfound.entry?), held_of_points hpoints hfound.entry?]

end Mirrored

/-! ## Files that cannot be published -/

theorem Barred.delivery
    (out : Path) (cause : Path → IoError) :
    Delivery config root fs paths (Barred.prospect out root cause) (SameTree fs) where
  made := fun _ _ hmade => absurd hmade (Set.notMem_empty _)
  isFinal := fun _ hpublished => nomatch hpublished
  target := fun _ _ hpublished => nomatch hpublished
  held_target := fun _ hsame _ _ => Or.inl (held_of_sameTree hsame _)
  held_source := fun _ hsame _ => held_of_sameTree hsame _

/-! ## All files of a walk -/

/-- A root that is accepted has something in its path and leads to a directory. -/
theorem lookup_of_checkDirectory
    (hcheck : checkDirectory fs root = .ok ()) :
    root.isBlank = false ∧ ∃ location, fs.lookup root = .ok (location, .directory) := by
  unfold checkDirectory at hcheck
  split_ifs at hcheck with hblank hdirectory
  refine ⟨by simpa using hblank, ?_⟩
  unfold isDirectory leadsTo at hdirectory
  split at hdirectory
  next location entry hlookup =>
    cases entry with
    | directory => exact ⟨location, hlookup⟩
    | _ => cases hdirectory
  next => cases hdirectory

/-- Workers that replace the files of a walk, or put them into a new directory, keep out of each
other's way, and deliver what they are to deliver. -/
theorem exists_discipline
    (hfs : fs.WellFormed)
    (hscratch : ∀ worker : Nat, fs.scratch[worker]? = none)
    (hplace : config.output = .inPlace ∨
      ∃ out, config.output = .directory out .mirrored ∧ IsFresh fs out)
    (hcheck : checkDirectory fs root = .ok ())
    {glob : Glob} {recursive : Bool}
    (hpaths : ∀ path ∈ paths, path ∈ matching fs root glob recursive) :
    ∃ prospect Tree Good, Discipline config root fs paths prospect Tree Good ∧
      Delivery config root fs paths prospect Tree := by
  obtain ⟨hblank, rootLocation, hroot⟩ := lookup_of_checkDirectory hcheck
  have hfound : ∀ path ∈ paths, ∃ name above content mode,
      IsFound fs root rootLocation path name above content mode :=
    fun path hmem => exists_isFound hroot (hpaths path hmem)
  rcases hplace with hplace | ⟨out, hplace, hfresh⟩
  · exact ⟨_, _, _, InPlace.discipline hfs hplace hroot hblank hfound hscratch,
      InPlace.delivery hfs hplace hroot hfound⟩
  rcases hfresh.ground_or_bar hfs with ⟨base, location, names, hground⟩ |
    ⟨base, location, first, more, hbar⟩
  · exact ⟨_, _, _, Mirrored.discipline hfs hplace hroot hblank hground hfound hscratch,
      Mirrored.delivery hfs hplace hroot hground hfound⟩
  · have hstuck : ∀ path, ∃ cause, path ∈ paths →
        Barred.Stuck fs (Mirrored.bottomOf out root path).ancestors cause := by
      intro path
      by_cases hmem : path ∈ paths
      · obtain ⟨name, above, content, mode, hfound⟩ := hfound path hmem
        obtain ⟨cause, hcause⟩ := Barred.exists_stuck hfs hbar hfound
        exact ⟨cause, fun _ => hcause⟩
      · exact ⟨.notFound, fun h => absurd h hmem⟩
    choose cause hcause using hstuck
    exact ⟨_, _, _, Barred.discipline hfs hplace hblank hbar.toApproach hfound hcause hscratch,
      Barred.delivery out cause⟩

end Dispatch
end LineSieve
