import LineSieve.Proofs.Discipline
import LineSieve.Proofs.Processing

/-!
# What a worker sees of the tree

Once the directories are there, a worker looks at the tree four times: for the directory of its
scratch file, for the content and the mode of its source, and for the place to publish to.  As long
as the tree shows the same sights each time, the sights decide what the worker does.
-/

namespace LineSieve
namespace Process

open FileSystem Dispatch

/-- What a worker with a known target is going to see. -/
structure Sights where
  target : Path
  /-- The directory of the scratch file. -/
  place : Except IoError Location
  /-- The content and the mode of the source. -/
  source : Except IoError (List UInt8 × Nat)
  /-- The place of the file that is published. -/
  spot : Except IoError Location

/-- The content and the mode of a source. -/
def sourceOf (fs : FileSystem) (path : Path) : Except IoError (List UInt8 × Nat) :=
  match fs.contentOf path, fs.modeOf path with
  | .ok content, .ok mode => .ok (content, mode)
  | .error e, _ => .error e
  | _, .error e => .error e

theorem sourceOf_eq
    {fs : FileSystem} {path : Path} {name : List Char} {directory : Location}
    {content : List UInt8} {mode : Nat}
    (h : Points fs path name directory)
    (hentry : fs.entry? (name :: directory) = some (.file content mode)) :
    sourceOf fs path = answer path (content, mode) := by
  rw [sourceOf, h.contentOf_eq hentry, h.modeOf_eq hentry]
  unfold answer
  cases refusal? path <;> rfl

/-- A tree shows the sights to the worker with a source. -/
structure Shows (fs : FileSystem) (path : Path) (s : Sights) : Prop where
  place_ok : ∀ location, s.place = .ok location →
    fs.lookup (scratchDirectory s.target) = .ok (location, .directory)
  place_error : ∀ e, s.place = .error e → fs.lookup (scratchDirectory s.target) = .error e
  contentOf : fs.contentOf path = s.source.map Prod.fst
  modeOf : fs.modeOf path = s.source.map Prod.snd
  spot_ok : ∀ location, s.spot = .ok location → CanTake fs s.target location
  spot_file : ∀ location, s.spot = .ok location → ∀ old, fs.entry? location = some old →
    old.isFile = true
  spot_error : ∀ e, s.spot = .error e → fs.resolve false s.target = .error e

namespace Sights

variable (config : Config) (path : Path) (s : Sights)

/-- The error and the counts that are reported. -/
def outcome : Option FileError × ActionCounts :=
  match s.place, s.source with
  | .error e, _ => (some (.io (scratchDirectory s.target) e), .zero)
  | .ok _, .error e => (some (.io path e), .zero)
  | .ok _, .ok (content, _) =>
    match (sift config.rules content).fault, s.spot with
    | some fault, _ => (some (.io path (.invalidText fault)), (sift config.rules content).counts)
    | none, .error e => (some (.io s.target e), (sift config.rules content).counts)
    | none, .ok _ => (none, (sift config.rules content).counts)

/-- The file that is published, and its place. -/
def published : Option (Location × Entry) :=
  match s.place, s.source, s.spot with
  | .ok _, .ok (content, mode), .ok location =>
    match (sift config.rules content).fault with
    | some _ => none
    | none =>
      some (location, .file (sift config.rules content).bytes (publishedMode config mode))
  | _, _, _ => none

def result : FileResult :=
  ⟨path, some s.target, (s.outcome config path).1, (s.outcome config path).2⟩

end Sights

/-- How far a worker has got whose tree shows the sights, by its scratch file and its phase. -/
inductive Working (config : Config) (path : Path) (s : Sights) : Option Scratch → Phase → Prop
  | creating :
      Working config path s none (.creating s.target)
  | opening
      {directory : Location}
      (hplace : s.place = .ok directory) :
      Working config path s (some ⟨directory, [], scratchMode⟩) (.opening s.target)
  | writing
      {directory : Location} {content : List UInt8} {mode : Nat} {done pieces : List (List Char)}
      (hplace : s.place = .ok directory)
      (hsource : s.source = .ok (content, mode))
      (hsplit : (sift config.rules content).written = done ++ pieces) :
      Working config path s (some ⟨directory, Utf8.encode done.flatten, scratchMode⟩)
        (.writing s.target (sift config.rules content) pieces)
  | granting
      {directory : Location} {content : List UInt8} {mode : Nat}
      (hplace : s.place = .ok directory)
      (hsource : s.source = .ok (content, mode))
      (hfault : (sift config.rules content).fault = none)
      (hkeep : config.keepPermissions = true) :
      Working config path s (some ⟨directory, (sift config.rules content).bytes, scratchMode⟩)
        (.granting s.target (sift config.rules content).counts)
  | publishing
      {directory : Location} {content : List UInt8} {mode : Nat}
      (hplace : s.place = .ok directory)
      (hsource : s.source = .ok (content, mode))
      (hfault : (sift config.rules content).fault = none) :
      Working config path s
        (some ⟨directory, (sift config.rules content).bytes, publishedMode config mode⟩)
        (.publishing s.target (sift config.rules content).counts)
  | dropping
      {scratch : Option Scratch} {cause : FileError} {counts : ActionCounts}
      (houtcome : s.outcome config path = (some cause, counts))
      (hpublished : s.published config = none) :
      Working config path s scratch (.dropping s.target cause counts)
  | finished :
      Working config path s none (.finished (s.result config path))

/-- What a step does to the tree of a worker: nothing, or the file is published, and then the worker
has finished. -/
inductive Effect (config : Config) (s : Sights) (worker : Nat) (fs : FileSystem) :
    FileSystem → Phase → Prop
  | none
      {later : FileSystem} {phase : Phase}
      (hsame : SameTree fs later)
      (hfinished : phase.isFinished = true → s.published config = none) :
      Effect config s worker fs later phase
  | published
      {later : FileSystem} {phase : Phase} {location : Location} {entry : Entry}
      (hpublished : s.published config = some (location, entry))
      (hspot : s.spot = .ok location)
      (hfinished : phase.isFinished = true)
      (hlater : Published fs later worker location entry) :
      Effect config s worker fs later phase

variable {config : Config} {root : Path} {worker : Nat} {path : Path} {fs : FileSystem} {s : Sights}

/-- A step that neither changes the tree nor finishes the file. -/
theorem Effect.goesOn
    {later : FileSystem} {phase : Phase}
    (hsame : SameTree fs later)
    (hopen : phase.isFinished = false) :
    Effect config s worker fs later phase := by
  refine .none hsame fun hfinished => ?_
  rw [hopen] at hfinished
  cases hfinished

theorem getElem?_discardScratch
    (fs : FileSystem) (worker : Nat) :
    (fs.discardScratch worker).scratch[worker]? = none := by
  simp [discardScratch]

theorem sameTree_discardScratch
    (fs : FileSystem) (worker : Nat) :
    SameTree fs (fs.discardScratch worker) := ⟨rfl, fun _ => rfl⟩

theorem finished_of_outcome
    {error : Option FileError} {counts : ActionCounts}
    (h : s.outcome config path = (error, counts)) :
    Working config path s none (.finished ⟨path, some s.target, error, counts⟩) := by
  have hresult : s.result config path = ⟨path, some s.target, error, counts⟩ := by
    rw [Sights.result, h]
  rw [← hresult]
  exact .finished

/-- A worker that works as its sights say goes on like that. -/
theorem Working.advance
    (root : Path)
    {phase : Phase}
    (hshows : Shows fs path s)
    (h : Working config path s fs.scratch[worker]? phase)
    (hopen : phase.isFinished = false) :
    Working config path s (advance config root worker path fs phase).1.scratch[worker]?
        (advance config root worker path fs phase).2 ∧
      Effect config s worker fs (advance config root worker path fs phase).1
        (advance config root worker path fs phase).2 := by
  generalize hs : fs.scratch[worker]? = scratch at h
  cases h with
  | creating =>
    cases hplace : s.place with
    | error e =>
      have hcreate : fs.createScratch worker (scratchDirectory s.target) = .error e := by
        rw [createScratch, hshows.place_error e hplace]
      simp only [Process.advance, hcreate, hs]
      refine ⟨finished_of_outcome ?_, .none (.refl fs) fun _ => ?_⟩
      · rw [Sights.outcome, hplace]
      · rw [Sights.published, hplace]
    | ok directory =>
      simp only [Process.advance, createScratch_of_lookup (hshows.place_ok directory hplace)]
      rw [Std.ExtTreeMap.getElem?_insert_self]
      exact ⟨.opening hplace,
        .goesOn (sameBut_newScratch fs worker _).sameTree rfl⟩
  | @opening directory hplace =>
    cases hsource : s.source with
    | error e =>
      have hcontent : fs.contentOf path = .error e := by rw [hshows.contentOf, hsource]; rfl
      simp only [Process.advance, hcontent]
      refine ⟨.dropping ?_ ?_, .goesOn (.refl fs) rfl⟩
      · rw [Sights.outcome, hplace, hsource]
      · rw [Sights.published, hplace, hsource]
    | ok seen =>
      rcases seen with ⟨content, mode⟩
      have hcontent : fs.contentOf path = .ok content := by rw [hshows.contentOf, hsource]; rfl
      simp only [Process.advance, hcontent, hs]
      exact ⟨@Working.writing config path s directory content mode [] _ hplace hsource rfl,
        .goesOn (.refl fs) rfl⟩
  | @writing directory content mode done pieces hplace hsource hsplit =>
    cases pieces with
    | cons piece pieces =>
      simp only [Process.advance]
      rw [getElem?_appendScratch hs]
      refine ⟨?_, .goesOn (sameBut_appendScratch fs worker _).sameTree rfl⟩
      have hnext : (sift config.rules content).written = (done ++ [piece]) ++ pieces := by
        rw [hsplit, List.append_assoc, List.singleton_append]
      have hbytes : Utf8.encode (done ++ [piece]).flatten =
          Utf8.encode done.flatten ++ Utf8.encode piece := by
        rw [← Utf8.encode_append, List.flatten_append, List.flatten_singleton]
      rw [← hbytes]
      exact .writing hplace hsource hnext
    | nil =>
      have hbytes : Utf8.encode done.flatten = (sift config.rules content).bytes := by
        rw [Sifting.bytes, hsplit, List.append_nil]
      cases hfault : (sift config.rules content).fault with
      | some fault =>
        simp only [Process.advance, hfault]
        refine ⟨.dropping ?_ ?_, .goesOn (.refl fs) rfl⟩
        · rw [Sights.outcome, hplace, hsource]
          simp only [hfault]
        · rw [Sights.published, hplace, hsource]
          cases s.spot <;> simp only [hfault]
      | none =>
        by_cases hkeep : config.keepPermissions = true
        · simp only [Process.advance, hfault, hkeep, if_true, hs, hbytes]
          exact ⟨.granting hplace hsource hfault hkeep, .goesOn (.refl fs) rfl⟩
        · simp only [Process.advance, hfault, hkeep, Bool.false_eq_true, if_false, hs, hbytes]
          have hmode : scratchMode = publishedMode config mode := by simp [publishedMode, hkeep]
          rw [hmode]
          exact ⟨.publishing hplace hsource hfault, .goesOn (.refl fs) rfl⟩
  | @granting directory content mode hplace hsource hfault hkeep =>
    have hmode : fs.modeOf path = .ok mode := by rw [hshows.modeOf, hsource]; rfl
    simp only [Process.advance, hmode]
    rw [getElem?_setScratchMode hs]
    have hbits : permissionBits mode = publishedMode config mode := by simp [publishedMode, hkeep]
    rw [hbits]
    exact ⟨.publishing hplace hsource hfault,
      .goesOn (sameBut_setScratchMode fs worker mode).sameTree rfl⟩
  | @publishing directory content mode hplace hsource hfault =>
    cases hspot : s.spot with
    | error e =>
      have hresolve := hshows.spot_error e hspot
      have hpublish : fs.publishScratch worker s.target = .error e := by
        rw [publishScratch, hs]
        simp only [hresolve]
      simp only [Process.advance, hpublish]
      refine ⟨.dropping ?_ ?_, .goesOn (.refl fs) rfl⟩
      · rw [Sights.outcome, hplace, hsource]
        simp only [hfault, hspot]
      · rw [Sights.published, hplace, hsource, hspot]
    | ok location =>
      have htake := hshows.spot_ok location hspot
      simp only [Process.advance, publishScratch_of_canTake hs htake]
      rw [getElem?_discardScratch]
      refine ⟨finished_of_outcome ?_, .published ?_ hspot rfl
        (published_put _ (ne_nil_of_entry?_ne htake.ne_directory))⟩
      · rw [Sights.outcome, hplace, hsource]
        simp only [hfault, hspot]
      · rw [Sights.published, hplace, hsource, hspot]
        simp only [hfault]
  | dropping houtcome hpublished =>
    simp only [Process.advance]
    rw [getElem?_discardScratch]
    exact ⟨finished_of_outcome houtcome,
      .none (sameTree_discardScratch fs worker) fun _ => hpublished⟩
  | finished => cases hopen

/-! ## Workers among others -/

theorem publishedMode_lt
    (config : Config) (mode : Nat) :
    publishedMode config mode < 0o10000 := by
  unfold publishedMode permissionBits
  split_ifs
  · exact Nat.mod_lt _ (by decide)
  · decide

/-- Publishing a file keeps the tree well formed. -/
theorem wellFormed_of_published
    {later : FileSystem} {target : Path} {location : Location} {content : List UInt8} {mode : Nat}
    (hfs : fs.WellFormed)
    (htake : CanTake fs target location)
    (hmode : mode < 0o10000)
    (h : Published fs later worker location (.file content mode)) :
    later.WellFormed := by
  obtain ⟨name, directory, rfl, hlocates⟩ := htake.exists_locates hfs
  obtain ⟨hname, hsubset⟩ := Path.isName_of_mem_steps (List.mem_of_getLast? hlocates.last)
  have hput : (fs.put (name :: directory) (.file content mode)).WellFormed := by
    refine hfs.put hlocates.isDirectoryAt htake.ne_directory hname
      (fun hmem => hlocates.fits.no_nul (hsubset hmem)) hlocates.length_le ?_
    intro content' mode' heq
    cases heq
    exact hmode
  refine hput.congr ⟨h.workingDirectory, fun l => ?_⟩
  rw [entry?_put (List.cons_ne_nil name directory)]
  split_ifs with heq
  · rw [heq, h.entry?_self]
  · exact h.entry?_of_ne l heq

/-- A worker past the making of directories: it works as its sights say while the tree is as `View`
wants it, and in the end its file is in place. -/
structure Engaged (config : Config) (path : Path) (s : Sights) (View : FileSystem → Prop)
    (worker : Nat) (fs : FileSystem) (phase : Phase) : Prop where
  working : Working config path s fs.scratch[worker]? phase
  view : phase.isFinished = false → View fs
  published : phase.isFinished = true → ∀ location entry,
    s.published config = some (location, entry) → fs.entry? location = some entry

namespace Engaged

variable {View : FileSystem → Prop} {phase : Phase} {prospect : Prospect}

theorem advance
    (h : Engaged config path s View worker fs phase)
    (hopen : phase.isFinished = false)
    (hshows : View fs → Shows fs path s)
    (hview : ∀ later, SameTree fs later → View fs → View later) :
    Engaged config path s View worker (advance config root worker path fs phase).1
      (advance config root worker path fs phase).2 := by
  obtain ⟨hworking, heffect⟩ := h.working.advance root (hshows (h.view hopen)) hopen
  refine ⟨hworking, fun hstill => ?_, fun hdone => ?_⟩
  · cases heffect with
    | none hsame => exact hview _ hsame (h.view hopen)
    | published _ _ hfinished => rw [hfinished] at hstill; cases hstill
  · cases heffect with
    | none hsame hnone =>
      intro location entry hpublished
      rw [hnone hdone] at hpublished
      cases hpublished
    | published hpublished _ _ hlater =>
      intro location entry hpublished'
      rw [hpublished] at hpublished'
      cases hpublished'
      exact hlater.entry?_self

theorem change
    (h : Engaged config path s View worker fs phase)
    (hopen : phase.isFinished = false)
    (hshows : View fs → Shows fs path s)
    (hprospect : prospect.published = s.published config) :
    Change prospect fs (Process.advance config root worker path fs phase).1 := by
  have hsights := hshows (h.view hopen)
  obtain ⟨-, heffect⟩ := h.working.advance root hsights hopen
  cases heffect with
  | none hsame => exact .of_sameTree hsame
  | @published location entry hpublished hspot hfinished hlater =>
    obtain ⟨content, mode, rfl⟩ : ∃ content mode,
        entry = .file content (publishedMode config mode) := by
      unfold Sights.published at hpublished
      split at hpublished
      · split at hpublished <;> cases hpublished
        exact ⟨_, _, rfl⟩
      · cases hpublished
    refine ⟨hlater.workingDirectory, fun hfs => wellFormed_of_published hfs
      (hsights.spot_ok location hspot) (publishedMode_lt config mode) hlater, fun l => ?_⟩
    by_cases hl : l = location
    · subst hl
      exact Or.inr (Or.inr ⟨_, hprospect.trans hpublished, hlater.entry?_self,
        hsights.spot_file l hspot⟩)
    · exact Or.inl (hlater.entry?_of_ne l hl)

/-- Changes made by others do not matter as long as they do not touch the view or the file. -/
theorem stable
    {later : FileSystem}
    (h : Engaged config path s View worker fs phase)
    (hscratch : later.scratch[worker]? = fs.scratch[worker]?)
    (hview : View fs → View later)
    (hkeep : ∀ location entry, s.published config = some (location, entry) →
      fs.entry? location = some entry → later.entry? location = some entry) :
    Engaged config path s View worker later phase where
  working := by
    rw [hscratch]
    exact h.working
  view := fun hopen => hview (h.view hopen)
  published := fun hdone location entry hpublished =>
    hkeep location entry hpublished (h.published hdone location entry hpublished)

theorem scratch_eq_none
    (h : Engaged config path s View worker fs phase)
    (hidle : phase.isRunning = false) :
    fs.scratch[worker]? = none := by
  have hworking := h.working
  generalize fs.scratch[worker]? = scratch at hworking ⊢
  cases hworking with
  | finished => rfl
  | _ => cases hidle

theorem result_eq
    {result : FileResult}
    (h : Engaged config path s View worker fs (.finished result)) :
    result = s.result config path := by
  have hworking := h.working
  generalize fs.scratch[worker]? = scratch at hworking
  cases hworking
  rfl

end Engaged
end Process
end LineSieve
