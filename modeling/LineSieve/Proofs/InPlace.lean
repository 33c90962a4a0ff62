import LineSieve.Proofs.Rewriting
import LineSieve.Proofs.Sights
import LineSieve.Proofs.Walked

/-!
# Directories processed in place

Every file that a walk has found is its own destination, so no directory is made and no two workers
publish to the same place.  A path of the walk may be longer than the system accepts, although the
file is there; such a file is left alone.
-/

namespace LineSieve
namespace Dispatch
namespace InPlace

open FileSystem Process Walk

/-- What a worker sees that replaces a file. -/
def seen (fs : FileSystem) (path : Path) : Sights where
  target := path
  place := (fs.lookup (scratchDirectory path)).map (·.1)
  source := sourceOf fs path
  spot := (fs.lookup path).map (·.1)

def prospect (config : Config) (fs : FileSystem) (path : Path) : Prospect :=
  ⟨(seen fs path).result config path, ∅, (seen fs path).published config⟩

section Sights

variable {fs : FileSystem} {path : Path} {name : List Char} {directory : Location}
  {content : List UInt8} {mode : Nat}

theorem seen_eq
    (h : Points fs path name directory)
    (hentry : fs.entry? (name :: directory) = some (.file content mode)) :
    seen fs path =
      ⟨path, answer (scratchDirectory path) directory, answer path (content, mode),
        answer path (name :: directory)⟩ := by
  rw [seen, lookup_scratchDirectory h, h.lookup_eq hentry rfl, sourceOf_eq h hentry, map_answer,
    map_answer]

/-- The sights of a file that stands where it stood before are what they were. -/
theorem shows
    {now : FileSystem}
    (h : Points fs path name directory)
    (hentry : fs.entry? (name :: directory) = some (.file content mode))
    (hnow : Points now path name directory)
    (hentry' : now.entry? (name :: directory) = some (.file content mode)) :
    Shows now path (seen fs path) := by
  rw [seen_eq h hentry]
  refine ⟨?_, ?_, ?_, ?_, ?_, ?_, ?_⟩
  · intro location hlocation
    obtain ⟨hfits, rfl⟩ := answer_eq_ok hlocation
    rw [lookup_scratchDirectory hnow, answer_of_fits hfits]
  · intro e he
    rw [lookup_scratchDirectory hnow, answer_of_refusal? (answer_eq_error he)]
  · rw [hnow.contentOf_eq hentry', map_answer]
  · rw [hnow.modeOf_eq hentry', map_answer]
  · intro location hlocation
    obtain ⟨hfits, rfl⟩ := answer_eq_ok hlocation
    exact canTake_of_locates ⟨hnow, hfits⟩ hentry'
  · intro location hlocation old hold
    obtain ⟨-, rfl⟩ := answer_eq_ok hlocation
    rw [hentry'] at hold
    cases hold
    rfl
  · intro e he
    rw [hnow.resolve_eq hentry' (Or.inl rfl), answer_of_refusal? (answer_eq_error he)]

/-- A file is published where it was found. -/
theorem eq_of_published
    {config : Config} {location : Location} {entry : Entry}
    (h : Points fs path name directory)
    (hentry : fs.entry? (name :: directory) = some (.file content mode))
    (hpublished : (seen fs path).published config = some (location, entry)) :
    Fits path ∧ location = name :: directory ∧ (sift config.rules content).fault = none ∧
      entry = .file (sift config.rules content).bytes (publishedMode config mode) := by
  rw [seen_eq h hentry, Sights.published] at hpublished
  split at hpublished
  next hplace hsource hspot =>
    obtain ⟨hfits, heq⟩ := answer_eq_ok hsource
    obtain ⟨-, rfl⟩ := answer_eq_ok hspot
    cases heq
    split at hpublished <;> cases hpublished
    exact ⟨hfits, rfl, by assumption, rfl⟩
  next => cases hpublished

end Sights

/-- Directories and links are where they were. -/
structure Framed (fs now : FileSystem) : Prop where
  workingDirectory : now.workingDirectory = fs.workingDirectory
  keeps : ∀ location entry, entry.isFile = false → fs.entry? location = some entry →
    now.entry? location = some entry

/-- A file of the walk is where it was. -/
def Untouched (fs : FileSystem) (root : Path) (rootLocation : Location) (path : Path)
    (now : FileSystem) : Prop :=
  ∀ name above content mode, IsFound fs root rootLocation path name above content mode →
    now.entry? (name :: above ++ rootLocation) = some (.file content mode)

/-- What a worker relies on: before it publishes, its file is where it was. -/
def Good (config : Config) (fs : FileSystem) (root : Path) (rootLocation : Location) (worker : Nat)
    (path : Path) (now : FileSystem) (phase : Phase) : Prop :=
  phase = .waiting ∧ now.scratch[worker]? = none ∧ Untouched fs root rootLocation path now ∨
    Engaged config path (seen fs path) (Untouched fs root rootLocation path) worker now phase

variable {config : Config} {fs now later : FileSystem} {root path other : Path}
  {rootLocation : Location} {paths : List Path} {worker : Nat} {phase : Phase}

theorem isBlank_eq_false
    (hblank : root.isBlank = false)
    {names : List (List Char)}
    (hnames : Proper names) :
    (pathBelow root names).isBlank = false := by
  obtain ⟨rest, hrest⟩ : root.text <+: (pathBelow root names).text := prefix_pathBelow hnames
  rw [Path.isBlank, Text.isBlank] at hblank ⊢
  rw [← hrest, List.all_append, hblank, Bool.false_and]

section Discipline

variable (hfs : fs.WellFormed) (hplace : config.output = .inPlace)
  (hroot : fs.lookup root = .ok (rootLocation, .directory)) (hblank : root.isBlank = false)
  (hpaths : ∀ path ∈ paths, ∃ name above content mode,
    IsFound fs root rootLocation path name above content mode)

include hfs hroot in
theorem shows_of_untouched
    {name : List Char} {above : List (List Char)} {content : List UInt8} {mode : Nat}
    (hfound : IsFound fs root rootLocation path name above content mode)
    (hframed : Framed fs now)
    (h : Untouched fs root rootLocation path now) :
    Shows now path (seen fs path) := by
  have hpoints := hfound.points hfs hroot
  exact shows hpoints hfound.entry? (hpoints.mono hframed.workingDirectory hframed.keeps)
    (h name above content mode hfound)

include hfs hplace hroot hblank in
theorem depart_eq
    {name : List Char} {above : List (List Char)} {content : List UInt8} {mode : Nat}
    (hfound : IsFound fs root rootLocation path name above content mode)
    (hframed : Framed fs now)
    (h : Untouched fs root rootLocation path now) :
    depart config now root path = .creating path := by
  have hcheck : checkPath now false path = .ok () := by
    rw [checkPath, hfound.path_eq, isBlank_eq_false hblank (hfound.proper hfs)]
    rfl
  have htarget : inPlaceTarget now path = .ok path :=
    inPlaceTarget_of_points ((hfound.points hfs hroot).mono hframed.workingDirectory hframed.keeps)
      (h name above content mode hfound) rfl
  simp only [depart, hcheck, hplace, htarget]

theorem untouched_of_sameTree
    (hsame : SameTree now later)
    (h : Untouched fs root rootLocation path now) :
    Untouched fs root rootLocation path later := by
  intro name above content mode hfound
  rw [hsame.entry?]
  exact h name above content mode hfound

include hfs hroot hpaths in
/-- Nobody else publishes where a file of the walk is. -/
theorem published_ne
    (hother : other ∈ paths)
    (hne : other ≠ path)
    {name : List Char} {above : List (List Char)} {content : List UInt8} {mode : Nat}
    (hfound : IsFound fs root rootLocation path name above content mode)
    (entry : Entry) :
    (seen fs other).published config ≠ some (name :: above ++ rootLocation, entry) := by
  intro hpublished
  obtain ⟨name', above', content', mode', hfound'⟩ := hpaths other hother
  obtain ⟨-, hlocation, -⟩ :=
    eq_of_published (hfound'.points hfs hroot) hfound'.entry? hpublished
  have hnames : name :: above = name' :: above' := List.append_cancel_right hlocation
  exact hne (by rw [hfound.path_eq, hfound'.path_eq, hnames])

include hfs hplace hroot hblank hpaths in
/-- Workers that replace the files of a walk keep out of each other's way. -/
theorem discipline
    (hscratch : ∀ worker : Nat, fs.scratch[worker]? = none) :
    Discipline config root fs paths (prospect config fs) (Framed fs)
      (Good config fs root rootLocation) where
  tree_start := ⟨rfl, fun _ _ _ h => h⟩
  good_start := fun worker path hmem =>
    Or.inl ⟨rfl, hscratch worker, fun name above content mode hfound => hfound.entry?⟩
  change := by
    intro worker path now phase hmem hframed hgood hopen
    obtain ⟨name, above, content, mode, hfound⟩ := hpaths path hmem
    rcases hgood with ⟨rfl, -, -⟩ | hengaged
    · exact .of_sameTree (.refl now)
    · exact hengaged.change hopen (shows_of_untouched hfs hroot hfound hframed) rfl
  good_step := by
    intro worker path now phase hmem hframed hgood hopen
    obtain ⟨name, above, content, mode, hfound⟩ := hpaths path hmem
    rcases hgood with ⟨rfl, hnone, huntouched⟩ | hengaged
    · rw [advance, depart_eq hfs hplace hroot hblank hfound hframed huntouched]
      refine Or.inr ⟨?_, fun _ => huntouched, ?_⟩
      · rw [hnone]
        exact .creating
      · rintro ⟨⟩
    · exact Or.inr (hengaged.advance hopen (shows_of_untouched hfs hroot hfound hframed)
        fun later => untouched_of_sameTree)
  tree_step := by
    intro path now later _ hframed hchange
    refine ⟨hchange.workingDirectory.trans hframed.workingDirectory, ?_⟩
    intro location entry hfile hentry
    exact hchange.keeps hfile (hframed.keeps location entry hfile hentry)
  good_stable := by
    intro worker path other now later phase hmem hother hne _ _ hchange hkept hgood
    have huntouched : Untouched fs root rootLocation path now →
        Untouched fs root rootLocation path later := by
      intro huntouched name above content mode hfound
      exact hchange.keeps_file (published_ne hfs hroot hpaths hother hne hfound)
        (huntouched name above content mode hfound)
    rcases hgood with ⟨rfl, hnone, hstill⟩ | hengaged
    · exact Or.inl ⟨rfl, hkept.trans hnone, huntouched hstill⟩
    · refine Or.inr (hengaged.stable hkept huntouched ?_)
      intro location entry hpublished hentry
      obtain ⟨name, above, content, mode, hfound⟩ := hpaths path hmem
      obtain ⟨-, rfl, -⟩ := eq_of_published (hfound.points hfs hroot) hfound.entry? hpublished
      exact hchange.keeps_file (published_ne hfs hroot hpaths hother hne hfound) hentry
  scratch := by
    rintro worker path now phase (⟨-, hnone, -⟩ | hengaged) hidle
    · exact hnone
    · exact hengaged.scratch_eq_none hidle
  result := by
    rintro worker path now result - (⟨hphase, -, -⟩ | hengaged)
    · cases hphase
    · exact hengaged.result_eq
  made := fun _ _ _ _ hmade => absurd hmade (Set.notMem_empty _)
  published := by
    rintro worker path now result - (⟨hphase, -, -⟩ | hengaged)
    · cases hphase
    · exact hengaged.published rfl

end Discipline

end InPlace
end Dispatch
end LineSieve
