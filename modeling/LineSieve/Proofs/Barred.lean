import LineSieve.Proofs.Mirrored

/-!
# Output directories that cannot be made

Something is in the way: one of the names on the way to the output directory is taken by an entry
that does not lead to a directory.  Every worker then fails when it makes the directories of its
destination, each for the reason that it would have alone, and nothing is changed.
-/

namespace LineSieve
namespace Dispatch
namespace Barred

open FileSystem Process Walk Mirrored

/-! ## Directories that cannot be made -/

/-- None of the directories of a list can be made: those that fail because the one above is missing
are followed by one that fails for another reason and is not there. -/
inductive Stuck (fs : FileSystem) : List Path → IoError → Prop
  | here
      {directory : Path} {above : List Path} {cause : IoError}
      (hne : directory.text ≠ [])
      (hmake : fs.makeDirectory directory = .error cause)
      (hcause : cause ≠ .notFound)
      (hno : fs.isDirectory directory = false) :
      Stuck fs (directory :: above) cause
  | above
      {directory : Path} {above : List Path} {cause : IoError}
      (hne : directory.text ≠ [])
      (hmake : fs.makeDirectory directory = .error .notFound)
      (h : Stuck fs above cause) :
      Stuck fs (directory :: above) cause

theorem makeDirectory_of_sameTree
    {fs later : FileSystem} {path : Path} {cause : IoError}
    (hsame : SameTree fs later)
    (h : fs.makeDirectory path = .error cause) :
    later.makeDirectory path = .error cause := by
  unfold makeDirectory at h ⊢
  rw [hsame.resolve]
  split at h <;> cases h <;> rfl

/-- The output directory: some of its steps lead to a location, but the next name does not lead on
from there, although there is an entry with that name. -/
structure Bar (fs : FileSystem) (out : Path) (base : List Component) (location : Location)
    (first : List Char) (more : List (List Char)) : Prop
    extends Approach fs out base location (first :: more) where
  taken : fs.entry? (first :: location) ≠ none
  stops : ∀ target, ¬Base fs (base ++ [.name first]) target

section Bar

variable {fs : FileSystem} {out root path bottom : Path} {base : List Component}
  {location rootLocation : Location} {first name : List Char} {more names : List (List Char)}
  {above : List (List Char)} {content : List UInt8} {mode : Nat}

/-- No path leads through the bar to a directory. -/
theorem isDirectory_eq_false
    (hbar : Bar fs out base location first more)
    (htrail : path.trail = base ++ (first :: names).map .name) :
    fs.isDirectory path = false := by
  rw [Bool.eq_false_iff]
  intro hdirectory
  unfold isDirectory leadsTo at hdirectory
  split at hdirectory
  next target entry hlookup =>
    cases entry with
    | directory =>
      obtain ⟨-, hdir, links, hle, hwalks⟩ := (lookup_eq_directory_iff path target).1 hlookup
      rw [htrail, List.map_cons, ← List.singleton_append, ← List.append_assoc] at hwalks
      obtain ⟨middle, m, n, hm, hn, rfl⟩ := hwalks.split
      exact hbar.stops middle ⟨hn.isDirectoryAt_start hdir, m, by omega, hm⟩
    | _ => cases hdirectory
  next => cases hdirectory

/-- No directory can be made behind the bar, and at the bar itself not for want of the one above. -/
theorem exists_makeDirectory_error
    (hfs : fs.WellFormed)
    (hbar : Bar fs out base location first more)
    (hrung : Rung base bottom path (first :: names))
    (hfits : Fits bottom) :
    ∃ cause, fs.makeDirectory path = .error cause ∧ (names = [] → cause ≠ .notFound) := by
  obtain ⟨init, last, hsplit⟩ : ∃ init last, first :: names = init ++ [last] := by
    rcases List.eq_nil_or_concat (first :: names) with hnil | ⟨init, last, hconcat⟩
    · cases hnil
    · exact ⟨init, last, by rw [hconcat, List.concat_eq_append]⟩
  have hlast : path.steps.getLast? = some (.name last) := by
    rw [hsplit] at hrung
    exact hrung.last
  have hresolve : fs.resolve false path = _ :=
    resolve_eq_follow_trail (hrung.fits hfits) hlast false
  rw [hrung.trail, List.map_cons] at hresolve
  cases names with
  | nil =>
    -- the entry is there
    obtain ⟨hdir, links, hle, hwalks⟩ := hbar.leads
    have hlen := hfs.length_le first location hbar.taken
    obtain ⟨entry, hentry⟩ := Option.ne_none_iff_exists'.1 hbar.taken
    rw [List.map_nil, hwalks.follow_append hle (Or.inl (by simp)),
      follow_single_found _ hdir hlen hentry (Or.inl rfl)] at hresolve
    exact ⟨.alreadyExists, by rw [makeDirectory, hresolve], fun _ => by simp⟩
  | cons next rest =>
    cases hfollow : fs.resolve false path with
    | error cause => exact ⟨cause, by rw [makeDirectory, hfollow], fun h => by cases h⟩
    | ok resolved =>
      rw [hfollow, ← List.singleton_append, ← List.append_assoc] at hresolve
      obtain ⟨target, links, hle, hwalks, hdir, -⟩ :=
        exists_walks_of_follow (Or.inl (by simp)) hresolve.symm
      exact absurd ⟨hdir, links, hle, hwalks⟩ (hbar.stops target)

/-- From behind the bar the way up ends at the bar at the latest. -/
theorem exists_stuck_of_rung
    (hfs : fs.WellFormed)
    (hbar : Bar fs out base location first more)
    (hfits : Fits bottom)
    (hrung : Rung base bottom path (first :: names))
    {fuel : Nat}
    (hfuel : path.text.length ≤ fuel) :
    ∃ cause, Stuck fs (path.ancestorsFrom fuel) cause := by
  -- on the names behind the bar, the last one first
  induction names using List.reverseRecOn generalizing path fuel with
  | nil =>
    obtain ⟨cause, hmake, hcause⟩ := exists_makeDirectory_error hfs hbar hrung hfits
    have hstuck : ∀ above, Stuck fs (path :: above) cause := fun above =>
      .here hrung.nonempty hmake (hcause rfl) (isDirectory_eq_false hbar hrung.trail)
    cases fuel with
    | zero => exact ⟨cause, hstuck []⟩
    | succ fuel => exact ⟨cause, hstuck _⟩
  | append_singleton names last ih =>
    obtain ⟨fuel, rfl⟩ : ∃ less, fuel = less + 1 := by
      have hlength : path.text.length ≠ 0 := by simpa using hrung.nonempty
      exact ⟨fuel - 1, by omega⟩
    obtain ⟨cause, hmake, -⟩ := exists_makeDirectory_error hfs hbar hrung hfits
    by_cases hcause : cause = .notFound
    · subst hcause
      rw [← List.cons_append] at hrung
      obtain ⟨parent, hparent, hrung', hshort⟩ := hrung.exists_parent (List.cons_ne_nil _ _)
      obtain ⟨cause, hstuck⟩ := ih hrung' (show parent.text.length ≤ fuel by omega)
      rw [Path.ancestorsFrom, hparent]
      exact ⟨cause, .above hrung.nonempty hmake hstuck⟩
    · exact ⟨cause, .here hrung.nonempty hmake hcause (isDirectory_eq_false hbar hrung.trail)⟩

/-- The directories of no destination can be made. -/
theorem exists_stuck
    (hfs : fs.WellFormed)
    (hbar : Bar fs out base location first more)
    (hfound : IsFound fs root rootLocation path name above content mode) :
    ∃ cause, Stuck fs (bottomOf out root path).ancestors cause := by
  have hrung := rung_bottomOf hfs hbar.toApproach hfound
  cases hrefusal : refusal? (bottomOf out root path) with
  | none =>
    exact exists_stuck_of_rung hfs hbar (fits_of_refusal?_eq_none hrefusal) hrung (Nat.le_refl _)
  | some cause =>
    have hcause : cause ≠ .notFound := by
      rintro rfl
      exact refusal?_ne_notFound hrung.nonempty hrefusal
    obtain ⟨above, habove⟩ := exists_ancestors_eq (bottomOf out root path)
    rw [habove]
    exact ⟨cause, .here hrung.nonempty (makeDirectory_of_refusal? hrefusal) hcause
      (isDirectory_of_refusal? hrefusal)⟩

end Bar

/-! ## What the workers do -/

def failure (out root : Path) (cause : Path → IoError) (path : Path) : FileResult :=
  ⟨path, none, some (.io (bottomOf out root path) (cause path)), .zero⟩

def prospect (out root : Path) (cause : Path → IoError) (path : Path) : Prospect :=
  ⟨failure out root cause path, ∅, none⟩

/-- A worker that cannot make its directories. -/
inductive Failing (fs : FileSystem) (out root : Path) (cause : Path → IoError) (path : Path) :
    Phase → Prop
  | waiting :
      Failing fs out root cause path .waiting
  | probing
      {target : Path} {directories missing : List Path}
      (h : Stuck fs directories (cause path)) :
      Failing fs out root cause path (.probing target (bottomOf out root path) directories missing)
  | checking
      {target directory : Path} {missing : List Path}
      (hno : fs.isDirectory directory = false) :
      Failing fs out root cause path
        (.checking target (bottomOf out root path) directory (cause path) missing)
  | finished :
      Failing fs out root cause path (.finished (failure out root cause path))

section Discipline

variable {config : Config} {fs now : FileSystem} {out root path : Path} {cause : Path → IoError}
  {base : List Component} {location rootLocation : Location} {names : List (List Char)}
  {paths : List Path} {phase : Phase} {name : List Char} {above : List (List Char)}
  {content : List UInt8} {mode : Nat}

theorem advance_probing_of_error
    {worker : Nat} {target parent directory : Path} {above missing : List Path} {e : IoError}
    (hne : directory.text ≠ [])
    (hmake : now.makeDirectory directory = .error e)
    (he : e ≠ .notFound) :
    advance config root worker path now (.probing target parent (directory :: above) missing) =
      (now, .checking target parent directory e missing) := by
  have hkeep : directory.text.isEmpty = false := by simpa using hne
  simp only [Process.advance, hkeep, Bool.false_eq_true, if_false, hmake]

/-- A failing worker changes nothing and goes on failing. -/
theorem Failing.advance
    (worker : Nat)
    (hfs : fs.WellFormed)
    (hplace : config.output = .directory out .mirrored)
    (hblank : root.isBlank = false)
    (happroach : Approach fs out base location names)
    (hfound : IsFound fs root rootLocation path name above content mode)
    (hstuck : Stuck fs (bottomOf out root path).ancestors (cause path))
    (hsame : SameTree fs now)
    (h : Failing fs out root cause path phase) :
    (advance config root worker path now phase).1 = now ∧
      Failing fs out root cause path (advance config root worker path now phase).2 := by
  cases h with
  | waiting =>
    simp only [Process.advance, depart_eq hfs hplace hblank happroach hfound]
    exact ⟨trivial, .probing hstuck⟩
  | probing hdirectories =>
    cases hdirectories with
    | here hne hmake hcause hno =>
      rw [advance_probing_of_error hne (makeDirectory_of_sameTree hsame hmake) hcause]
      exact ⟨rfl, .checking hno⟩
    | @above directory _ _ hne hmake hmore =>
      have hkeep : directory.text.isEmpty = false := by simpa using hne
      simp only [Process.advance, hkeep, Bool.false_eq_true, if_false,
        makeDirectory_of_sameTree hsame hmake]
      exact ⟨trivial, .probing hmore⟩
  | @checking _ directory _ hno =>
    have hno' : now.isDirectory directory = false := by
      rw [isDirectory, leadsTo, hsame.lookup]
      exact hno
    simp only [Process.advance, hno', Bool.false_eq_true, if_false]
    exact ⟨trivial, .finished⟩
  | finished => exact ⟨rfl, .finished⟩

/-- Workers that cannot make their directories keep out of each other's way. -/
theorem discipline
    (hfs : fs.WellFormed)
    (hplace : config.output = .directory out .mirrored)
    (hblank : root.isBlank = false)
    (happroach : Approach fs out base location names)
    (hpaths : ∀ path ∈ paths, ∃ name above content mode,
      IsFound fs root rootLocation path name above content mode)
    (hstuck : ∀ path ∈ paths, Stuck fs (bottomOf out root path).ancestors (cause path))
    (hscratch : ∀ worker : Nat, fs.scratch[worker]? = none) :
    Discipline config root fs paths (prospect out root cause) (SameTree fs)
      (fun worker path now phase =>
        now.scratch[worker]? = none ∧ Failing fs out root cause path phase) where
  tree_start := .refl fs
  good_start := fun worker path _ => ⟨hscratch worker, .waiting⟩
  change := by
    rintro worker path now phase hmem hsame ⟨-, hfailing⟩ -
    obtain ⟨name, above, content, mode, hfound⟩ := hpaths path hmem
    have hadvance := hfailing.advance worker hfs hplace hblank happroach hfound
      (hstuck path hmem) hsame
    rw [hadvance.1]
    exact .of_sameTree (.refl now)
  good_step := by
    rintro worker path now phase hmem hsame ⟨hnone, hfailing⟩ -
    obtain ⟨name, above, content, mode, hfound⟩ := hpaths path hmem
    have hadvance := hfailing.advance worker hfs hplace hblank happroach hfound
      (hstuck path hmem) hsame
    refine ⟨?_, hadvance.2⟩
    rw [hadvance.1]
    exact hnone
  tree_step := by
    intro path now later _ hsame hchange
    refine hsame.trans ⟨hchange.workingDirectory, fun place => ?_⟩
    rcases hchange.entry? place with heq | ⟨hmade, -⟩ | ⟨entry, hpublished, -⟩
    · exact heq
    · exact absurd hmade (Set.notMem_empty _)
    · cases hpublished
  good_stable := by
    rintro worker path other now later phase _ _ _ _ _ _ hkept ⟨hnone, hfailing⟩
    exact ⟨hkept.trans hnone, hfailing⟩
  scratch := fun hgood _ => hgood.1
  result := by
    rintro worker path now result - ⟨-, hfailing⟩
    cases hfailing
    rfl
  made := fun _ _ _ _ hmade => absurd hmade (Set.notMem_empty _)
  published := by
    rintro worker path now result - - place entry hpublished
    cases hpublished

end Discipline

end Barred
end Dispatch
end LineSieve
