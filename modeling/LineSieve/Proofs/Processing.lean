import LineSieve.Process
import LineSieve.Proofs.FileTree

/-!
# What processing one file does

The scratch file is filled, given its mode and published.  `fill_of_sights` says what is left behind
when the source can be read, is text, and has a place to go to; `fill_cases` says that nothing else
can happen but that the file is given up and the tree is the same as before.  Either way the worker
has no scratch file afterwards.
-/

namespace LineSieve
namespace Process

open FileSystem

variable {fs : FileSystem}

/-! ## The directory of the scratch file -/

/-- The scratch file for a path that ends in a name goes to the directory of that name. -/
theorem scratchDirectory_spec
    {path : Path} {name : List Char}
    (hlast : path.steps.getLast? = some (.name name)) :
    path.trail = (scratchDirectory path).trail ++ [.name name] ∧
      (Fits path → Fits (scratchDirectory path)) := by
  obtain ⟨parent, hparent, htrail, hpre, -⟩ := Path.exists_parent hlast
  rw [scratchDirectory, directoryOf?, hparent]
  by_cases hempty : parent.text = []
  · have hnil : parent = ⟨[]⟩ := Path.eq_of_text_eq hempty
    subst hnil
    exact ⟨htrail, fun _ => ⟨by decide, by decide, by decide⟩⟩
  · have hkeep : parent.text.isEmpty = false := by simpa using hempty
    rw [Option.filter_some, hkeep]
    exact ⟨htrail, fun hfits => hfits.of_prefix hpre hempty⟩

theorem lookup_scratchDirectory
    {path : Path} {name : List Char} {directory : Location}
    (h : Points fs path name directory) :
    fs.lookup (scratchDirectory path) =
      answer (scratchDirectory path) (directory, .directory) := by
  cases hrefusal : refusal? (scratchDirectory path) with
  | some e => rw [answer_of_refusal? hrefusal, lookup_of_refusal? hrefusal]
  | none =>
    have hfits := fits_of_refusal?_eq_none hrefusal
    obtain ⟨front, links, hfront, hle, hwalks⟩ := h.walks
    rw [(scratchDirectory_spec h.last).1] at hfront
    rw [answer_of_fits hfits, lookup_eq_directory_iff, List.append_cancel_right hfront]
    exact ⟨hfits, h.isDirectoryAt, links, hle, hwalks⟩

theorem lookup_scratchDirectory_of_locates
    {path : Path} {name : List Char} {directory : Location}
    (h : Locates fs path name directory) :
    fs.lookup (scratchDirectory path) = .ok (directory, .directory) := by
  rw [lookup_scratchDirectory h.toPoints,
    answer_of_fits ((scratchDirectory_spec h.last).2 h.fits)]

/-! ## Filling and publishing -/

/-- The mode of the published file, given the mode of its source. -/
def publishedMode (config : Config) (mode : Nat) : Nat :=
  if config.keepPermissions then permissionBits mode else scratchMode

/-- A place to which a file can be published: nothing is there, or something but a directory. -/
def CanTake (fs : FileSystem) (destination : Path) (location : Location) : Prop :=
  fs.resolve false destination = .ok (.vacant location) ∨
    ∃ entry, entry ≠ .directory ∧ fs.resolve false destination = .ok (.found location entry)

theorem publishScratch_of_canTake
    {worker : Nat} {s : Scratch} {destination : Path} {location : Location}
    (hs : fs.scratch[worker]? = some s)
    (h : CanTake fs destination location) :
    fs.publishScratch worker destination =
      .ok ((fs.put location (.file s.content s.mode)).discardScratch worker) := by
  unfold publishScratch
  rw [hs]
  rcases h with h | ⟨entry, hne, h⟩
  · rw [h]
  · rw [h]
    cases entry <;> first | rfl | exact absurd rfl hne

theorem canTake_of_publishScratch
    {worker : Nat} {s : Scratch} {destination : Path} {later : FileSystem}
    (hs : fs.scratch[worker]? = some s)
    (h : fs.publishScratch worker destination = .ok later) :
    ∃ location, CanTake fs destination location := by
  unfold publishScratch at h
  rw [hs] at h
  simp only at h
  split at h
  · cases h
  · exact ⟨_, Or.inr ⟨_, by assumption, by assumption⟩⟩
  · exact ⟨_, Or.inl (by assumption)⟩
  · cases h

theorem CanTake.congr
    {later : FileSystem} {destination : Path} {location : Location}
    (hsame : SameTree fs later)
    (h : CanTake fs destination location) :
    CanTake later destination location := by
  rwa [CanTake, hsame.resolve]

theorem CanTake.ne_directory
    {destination : Path} {location : Location}
    (h : CanTake fs destination location) :
    fs.entry? location ≠ some .directory := by
  rcases h with h | ⟨entry, hne, h⟩
  · have hentry : fs.entry? location = none := holds_of_resolve h
    rw [hentry]
    simp
  · have hentry : fs.entry? location = some entry := holds_of_resolve h
    rw [hentry]
    simpa using hne

/-- The path of a destination locates the place that is taken. -/
theorem CanTake.exists_locates
    {destination : Path} {location : Location}
    (hfs : fs.WellFormed)
    (h : CanTake fs destination location) :
    ∃ name directory, location = name :: directory ∧ Locates fs destination name directory := by
  obtain ⟨resolved, hresolve, hne, hplace⟩ : ∃ resolved,
      fs.resolve false destination = .ok resolved ∧ (∀ l, resolved ≠ .found l .directory) ∧
      (resolved = .vacant location ∨ ∃ entry, resolved = .found location entry) := by
    rcases h with hvacant | ⟨entry, hentry, hfound⟩
    · exact ⟨_, hvacant, by simp, Or.inl rfl⟩
    · exact ⟨_, hfound, by simp [hentry], Or.inr ⟨entry, rfl⟩⟩
  obtain ⟨name, hlast⟩ := hfs.exists_name_of_resolve hresolve hne
  obtain ⟨directory, hlocates, hresolved⟩ := exists_locates_of_resolve hlast hresolve
  refine ⟨name, directory, ?_, hlocates⟩
  rcases hresolved with ⟨-, rfl⟩ | ⟨entry, -, rfl⟩ <;> rcases hplace with h | ⟨entry, h⟩ <;> cases h
    <;> rfl

/-- The state after a file has been published: the tree has the file in its place, and the worker
has no scratch file. -/
structure Published (fs after : FileSystem) (worker : Nat) (location : Location) (entry : Entry) :
    Prop where
  workingDirectory : after.workingDirectory = fs.workingDirectory
  entry?_self : after.entry? location = some entry
  entry?_of_ne : ∀ l, l ≠ location → after.entry? l = fs.entry? l
  scratch : after.scratch = fs.scratch.erase worker

/-- The state after a file has been given up: the tree is the same, and the worker has no scratch
file. -/
structure GivenUp (fs after : FileSystem) (worker : Nat) : Prop where
  sameTree : SameTree fs after
  scratch : after.scratch = fs.scratch.erase worker

theorem Published.of_sameBut
    {middle after : FileSystem} {worker : Nat} {location : Location} {entry : Entry}
    (hsame : SameBut worker fs middle)
    (h : Published middle after worker location entry) :
    Published fs after worker location entry where
  workingDirectory := h.workingDirectory.trans hsame.sameTree.workingDirectory
  entry?_self := h.entry?_self
  entry?_of_ne := fun l hl => (h.entry?_of_ne l hl).trans (hsame.sameTree.entry? l)
  scratch := h.scratch.trans hsame.scratch

/-- Dropping the scratch file gives the file up. -/
theorem givenUp_discardScratch
    {middle : FileSystem} {worker : Nat}
    (hsame : SameBut worker fs middle) :
    GivenUp fs (middle.discardScratch worker) worker :=
  ⟨⟨hsame.sameTree.workingDirectory, hsame.sameTree.entry?⟩, hsame.scratch⟩

variable {config : Config} {worker : Nat} {path destination : Path}

theorem published_put
    {location : Location}
    (entry : Entry)
    (hne : location ≠ []) :
    Published fs ((fs.put location entry).discardScratch worker) worker location entry where
  workingDirectory := rfl
  entry?_self := entry?_put_self hne fs entry
  entry?_of_ne := fun _ hl => entry?_put_of_ne hne hl fs entry
  scratch := rfl

theorem publish_of_sights
    (path : Path)
    {s : Scratch} {mode : Nat} {location : Location}
    (hs : fs.scratch[worker]? = some s)
    (hnew : s.mode = scratchMode)
    (hmode : config.keepPermissions = true → fs.modeOf path = .ok mode)
    (htarget : CanTake fs destination location) :
    ∃ after, publish config fs worker path destination = .ok after ∧
      Published fs after worker location (.file s.content (publishedMode config mode)) := by
  have hne := ne_nil_of_entry?_ne htarget.ne_directory
  unfold publish publishedMode
  by_cases hkeep : config.keepPermissions = true
  · have hsame := sameBut_setScratchMode fs worker mode
    have hset := getElem?_setScratchMode hs mode
    simp only [hkeep, if_true, hmode hkeep,
      publishScratch_of_canTake hset (htarget.congr hsame.sameTree)]
    exact ⟨_, rfl, (published_put _ hne).of_sameBut hsame⟩
  · simp only [hkeep, Bool.false_eq_true, if_false, publishScratch_of_canTake hs htarget, hnew]
    exact ⟨_, rfl, published_put _ hne⟩

/-- The source can be read and is text, its mode is known if it is asked for, and there is a place
for the result: then the result is published there. -/
theorem fill_of_sights
    {s : Scratch} {content : List UInt8} {mode : Nat} {location : Location}
    (hs : fs.scratch[worker]? = some s)
    (hempty : s.content = [])
    (hnew : s.mode = scratchMode)
    (hcontent : fs.contentOf path = .ok content)
    (hfault : (sift config.rules content).fault = none)
    (hmode : config.keepPermissions = true → fs.modeOf path = .ok mode)
    (htarget : CanTake fs destination location) :
    ∃ after, fill config fs worker path destination =
        (after, none, (sift config.rules content).counts) ∧
      Published fs after worker location
        (.file (sift config.rules content).bytes (publishedMode config mode)) := by
  have hsame := sameBut_appendScratch fs worker (sift config.rules content).bytes
  have hwritten := getElem?_appendScratch hs (sift config.rules content).bytes
  rw [hempty, List.nil_append] at hwritten
  obtain ⟨after, hpublish, hafter⟩ := publish_of_sights path hwritten hnew
    (fun hkeep => (hsame.sameTree.modeOf path).trans (hmode hkeep)) (htarget.congr hsame.sameTree)
  refine ⟨after, ?_, hafter.of_sameBut hsame⟩
  simp only [fill, hcontent, hfault, hpublish]

/-- A file whose source is no text is given up. -/
theorem fill_of_fault
    {content : List UInt8} {fault : Utf8.Fault}
    (hcontent : fs.contentOf path = .ok content)
    (hfault : (sift config.rules content).fault = some fault) :
    (fill config fs worker path destination).2.1 = some (.io path (.invalidText fault)) := by
  simp only [fill, hcontent, hfault]

/-- A file is published only where it can be. -/
theorem canTake_of_publish
    {s : Scratch} {after : FileSystem}
    (hs : fs.scratch[worker]? = some s)
    (h : publish config fs worker path destination = .ok after) :
    ∃ location, CanTake fs destination location := by
  unfold publish at h
  by_cases hkeep : config.keepPermissions = true
  · cases hmode : fs.modeOf path with
    | error e =>
      simp only [hkeep, if_true, hmode] at h
      cases h
    | ok mode =>
      simp only [hkeep, if_true, hmode] at h
      split at h
      next hpublish =>
        obtain ⟨location, hlocation⟩ :=
          canTake_of_publishScratch (getElem?_setScratchMode hs mode) hpublish
        exact ⟨location, hlocation.congr (sameBut_setScratchMode fs worker mode).sameTree.symm⟩
      next => cases h
  · simp only [hkeep, Bool.false_eq_true, if_false] at h
    split at h
    next hpublish => exact canTake_of_publishScratch hs hpublish
    next => cases h

/-- What a worker leaves behind with the outcome that it reports: nothing after a failure, else the
processed content of its source in the place to which the destination led. -/
inductive Outcome (config : Config) (fs : FileSystem) (worker : Nat) (path destination : Path) :
    FileSystem → Option FileError → ActionCounts → Prop
  | failed
      {after : FileSystem}
      (h : GivenUp fs after worker) (cause : FileError) (counts : ActionCounts) :
      Outcome config fs worker path destination after (some cause) counts
  | succeeded
      {after : FileSystem} {content : List UInt8} {mode : Nat} {location : Location}
      (hcontent : fs.contentOf path = .ok content)
      (hmode : fs.modeOf path = .ok mode)
      (hfault : (sift config.rules content).fault = none)
      (htarget : CanTake fs destination location)
      (h : Published fs after worker location
        (.file (sift config.rules content).bytes (publishedMode config mode))) :
      Outcome config fs worker path destination after none (sift config.rules content).counts

/-- What can be read has a mode. -/
theorem exists_modeOf_of_contentOf
    {content : List UInt8}
    (h : fs.contentOf path = .ok content) :
    ∃ location mode, fs.lookup path = .ok (location, .file content mode) ∧
      fs.modeOf path = .ok mode := by
  unfold contentOf at h
  split at h <;> cases h
  next location mode hlookup => exact ⟨location, mode, hlookup, by rw [modeOf, hlookup]⟩

theorem fill_cases
    {s : Scratch}
    (hs : fs.scratch[worker]? = some s)
    (hempty : s.content = [])
    (hnew : s.mode = scratchMode) :
    ∃ after error counts, fill config fs worker path destination = (after, error, counts) ∧
      Outcome config fs worker path destination after error counts := by
  cases hcontent : fs.contentOf path with
  | error e =>
    simp only [fill, hcontent]
    exact ⟨_, _, _, rfl, .failed (givenUp_discardScratch ⟨SameTree.refl fs, rfl⟩) _ _⟩
  | ok content =>
    have hsame := sameBut_appendScratch fs worker (sift config.rules content).bytes
    cases hfault : (sift config.rules content).fault with
    | some fault =>
      simp only [fill, hcontent, hfault]
      exact ⟨_, _, _, rfl, .failed (givenUp_discardScratch hsame) _ _⟩
    | none =>
      obtain ⟨-, mode, -, hmode⟩ := exists_modeOf_of_contentOf hcontent
      cases hpublish : publish config
          (fs.appendScratch worker (sift config.rules content).bytes) worker path destination with
      | error e =>
        simp only [fill, hcontent, hfault, hpublish]
        exact ⟨_, _, _, rfl, .failed (givenUp_discardScratch hsame) _ _⟩
      | ok after =>
        have hwritten := getElem?_appendScratch hs (sift config.rules content).bytes
        obtain ⟨location, hlocation⟩ := canTake_of_publish hwritten hpublish
        have htarget := hlocation.congr hsame.sameTree.symm
        obtain ⟨after, hfill, hafter⟩ := fill_of_sights hs hempty hnew hcontent
          hfault (fun _ => hmode) htarget
        exact ⟨after, none, _, hfill, .succeeded hcontent hmode hfault htarget hafter⟩

/-- Working on a new scratch file is working on the tree. -/
theorem Outcome.of_sameBut
    {middle after : FileSystem} {error : Option FileError} {counts : ActionCounts}
    (hsame : SameBut worker fs middle)
    (h : Outcome config middle worker path destination after error counts) :
    Outcome config fs worker path destination after error counts := by
  cases h with
  | failed hgiven =>
    exact .failed ⟨hsame.sameTree.trans hgiven.sameTree, hgiven.scratch.trans hsame.scratch⟩ _ _
  | succeeded hcontent hmode hfault htarget hpublished =>
    rw [hsame.sameTree.contentOf] at hcontent
    rw [hsame.sameTree.modeOf] at hmode
    exact .succeeded hcontent hmode hfault (htarget.congr hsame.sameTree.symm)
      (hpublished.of_sameBut hsame)

theorem replace_cases
    (config : Config) (path destination : Path)
    (hfree : fs.scratch[worker]? = none) :
    ∃ after error counts, replace config fs worker path destination = (after, error, counts) ∧
      Outcome config fs worker path destination after error counts := by
  cases hcreate : fs.createScratch worker (scratchDirectory destination) with
  | error e =>
    simp only [replace, hcreate]
    refine ⟨_, _, _, rfl, .failed ⟨SameTree.refl fs, ?_⟩ _ _⟩
    rw [erase_of_getElem?_eq_none hfree]
  | ok middle =>
    obtain ⟨directory, -, rfl⟩ := exists_lookup_of_createScratch hcreate
    have hs : (fs.scratch.insert worker ⟨directory, [], scratchMode⟩)[worker]? =
        some ⟨directory, [], scratchMode⟩ := Std.ExtTreeMap.getElem?_insert_self
    obtain ⟨after, error, counts, hfill, hafter⟩ :=
      @fill_cases { fs with scratch := fs.scratch.insert worker ⟨directory, [], scratchMode⟩ }
        config worker path destination _ hs rfl rfl
    refine ⟨after, error, counts, ?_, hafter.of_sameBut (sameBut_newScratch fs worker _)⟩
    simp only [replace, hcreate, hfill]

end Process
end LineSieve
