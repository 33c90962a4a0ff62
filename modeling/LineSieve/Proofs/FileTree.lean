import LineSieve.FileSystem.Change
import LineSieve.Proofs.Resolution

/-!
# File trees and their changes

A tree is well formed when every entry lies in a directory under a proper name.  Each change that
processing makes is described by what it does to the entries and to the scratch files: work on
scratch files leaves the tree as it is, making a directory fills one vacant place, and publishing
puts a file in one place.
-/

namespace LineSieve
namespace FileSystem

/-- A tree as a system keeps it. -/
structure WellFormed (fs : FileSystem) : Prop where
  workingDirectory : fs.isDirectoryAt fs.workingDirectory = true
  parent : ∀ name location,
    fs.entry? (name :: location) ≠ none → fs.isDirectoryAt location = true
  isName : ∀ name location, fs.entry? (name :: location) ≠ none → Path.IsName name
  no_nul : ∀ name location, fs.entry? (name :: location) ≠ none → '\x00' ∉ name
  length_le : ∀ name location,
    fs.entry? (name :: location) ≠ none → (Utf8.encode name).length ≤ nameLimit
  mode_lt : ∀ location content mode,
    fs.entry? location = some (.file content mode) → mode < 0o10000

variable {fs later : FileSystem}

/-! ## Trees that are the same -/

/-- Two states hold the same tree; their scratch files may differ. -/
structure SameTree (fs later : FileSystem) : Prop where
  workingDirectory : later.workingDirectory = fs.workingDirectory
  entry? : ∀ location, later.entry? location = fs.entry? location

namespace SameTree

theorem refl
    (fs : FileSystem) :
    SameTree fs fs := ⟨rfl, fun _ => rfl⟩

theorem symm
    (h : SameTree fs later) :
    SameTree later fs :=
  ⟨h.workingDirectory.symm, fun location => (h.entry? location).symm⟩

theorem trans
    {last : FileSystem}
    (h : SameTree fs later)
    (h' : SameTree later last) :
    SameTree fs last :=
  ⟨h'.workingDirectory.trans h.workingDirectory,
    fun location => (h'.entry? location).trans (h.entry? location)⟩

theorem isDirectoryAt
    (h : SameTree fs later)
    (location : Location) :
    later.isDirectoryAt location = fs.isDirectoryAt location := by
  rw [FileSystem.isDirectoryAt, FileSystem.isDirectoryAt, h.entry?]

theorem takeSteps
    (h : SameTree fs later)
    (followLast : Bool)
    (onLink : Location → List Component → Except IoError Resolved)
    (location : Location) (steps : List Component) :
    later.takeSteps followLast onLink location steps =
      fs.takeSteps followLast onLink location steps := by
  induction steps generalizing location with
  | nil => simp only [FileSystem.takeSteps, h.entry?]
  | cons step rest ih => simp only [FileSystem.takeSteps, h.entry?, h.isDirectoryAt, ih]

theorem follow
    (h : SameTree fs later)
    (followLast : Bool) (links : Nat) (location : Location) (steps : List Component) :
    later.follow followLast links location steps = fs.follow followLast links location steps := by
  induction links generalizing location steps with
  | zero => exact h.takeSteps followLast _ location steps
  | succ links ih =>
    have hlink : later.follow followLast links = fs.follow followLast links := by
      funext location steps
      exact ih location steps
    rw [FileSystem.follow, FileSystem.follow, hlink, h.takeSteps]

theorem resolve
    (h : SameTree fs later)
    (followLast : Bool) (path : Path) :
    later.resolve followLast path = fs.resolve followLast path := by
  simp only [FileSystem.resolve, h.follow, h.workingDirectory]

theorem lookup
    (h : SameTree fs later)
    (path : Path) :
    later.lookup path = fs.lookup path := by
  simp only [FileSystem.lookup, h.resolve]

theorem contentOf
    (h : SameTree fs later)
    (path : Path) :
    later.contentOf path = fs.contentOf path := by
  simp only [FileSystem.contentOf, h.lookup]

theorem modeOf
    (h : SameTree fs later)
    (path : Path) :
    later.modeOf path = fs.modeOf path := by
  simp only [FileSystem.modeOf, h.lookup]

end SameTree

theorem WellFormed.congr
    (hfs : fs.WellFormed)
    (h : SameTree fs later) :
    later.WellFormed where
  workingDirectory := by
    rw [h.workingDirectory, h.isDirectoryAt]
    exact hfs.workingDirectory
  parent := by
    intro name location hentry
    rw [h.entry?] at hentry
    rw [h.isDirectoryAt]
    exact hfs.parent name location hentry
  isName := by
    intro name location hentry
    rw [h.entry?] at hentry
    exact hfs.isName name location hentry
  no_nul := by
    intro name location hentry
    rw [h.entry?] at hentry
    exact hfs.no_nul name location hentry
  length_le := by
    intro name location hentry
    rw [h.entry?] at hentry
    exact hfs.length_le name location hentry
  mode_lt := by
    intro location content mode hentry
    rw [h.entry?] at hentry
    exact hfs.mode_lt location content mode hentry

/-! ## Scratch files -/

/-- Two states hold the same tree and the same scratch files but for that of one worker. -/
structure SameBut (worker : Nat) (fs later : FileSystem) : Prop where
  sameTree : SameTree fs later
  scratch : later.scratch.erase worker = fs.scratch.erase worker

theorem SameBut.scratch_of_ne
    {worker other : Nat}
    (h : SameBut worker fs later)
    (hne : other ≠ worker) :
    later.scratch[other]? = fs.scratch[other]? := by
  have herase := congrArg (fun scratch => scratch[other]?) h.scratch
  simpa [Std.ExtTreeMap.getElem?_erase, Std.LawfulEqCmp.compare_eq_iff_eq, Ne.symm hne] using herase

theorem scratch_discardScratch_of_ne
    {worker other : Nat}
    (fs : FileSystem)
    (hne : other ≠ worker) :
    (fs.discardScratch worker).scratch[other]? = fs.scratch[other]? := by
  simp [discardScratch, Std.ExtTreeMap.getElem?_erase, Std.LawfulEqCmp.compare_eq_iff_eq,
    Ne.symm hne]

theorem scratch_of_makeDirectory
    {directory : Path}
    (h : fs.makeDirectory directory = .ok later) :
    later.scratch = fs.scratch := by
  unfold makeDirectory at h
  split at h <;> cases h
  rfl

/-- Writing a scratch file and erasing it is erasing it. -/
theorem erase_insert
    (scratch : Std.ExtTreeMap Nat Scratch compare) (worker : Nat) (s : Scratch) :
    (scratch.insert worker s).erase worker = scratch.erase worker := by
  apply Std.ExtTreeMap.ext_getElem?
  intro other
  simp only [Std.ExtTreeMap.getElem?_erase, Std.ExtTreeMap.getElem?_insert]
  split <;> rfl

theorem erase_of_getElem?_eq_none
    {scratch : Std.ExtTreeMap Nat Scratch compare} {worker : Nat}
    (h : scratch[worker]? = none) :
    scratch.erase worker = scratch := by
  apply Std.ExtTreeMap.ext_getElem?
  intro other
  rw [Std.ExtTreeMap.getElem?_erase]
  split
  next heq => rw [← Std.LawfulEqCmp.eq_of_compare heq, h]
  next => rfl

theorem sameBut_appendScratch
    (fs : FileSystem) (worker : Nat) (bytes : List UInt8) :
    SameBut worker fs (fs.appendScratch worker bytes) := by
  unfold appendScratch
  split
  · exact ⟨⟨rfl, fun _ => rfl⟩, erase_insert _ _ _⟩
  · exact ⟨SameTree.refl fs, rfl⟩

theorem sameBut_setScratchMode
    (fs : FileSystem) (worker mode : Nat) :
    SameBut worker fs (fs.setScratchMode worker mode) := by
  unfold setScratchMode
  split
  · exact ⟨⟨rfl, fun _ => rfl⟩, erase_insert _ _ _⟩
  · exact ⟨SameTree.refl fs, rfl⟩

theorem getElem?_appendScratch
    {worker : Nat} {s : Scratch}
    (h : fs.scratch[worker]? = some s)
    (bytes : List UInt8) :
    (fs.appendScratch worker bytes).scratch[worker]? =
      some { s with content := s.content ++ bytes } := by
  rw [appendScratch, h]
  exact Std.ExtTreeMap.getElem?_insert_self

theorem getElem?_setScratchMode
    {worker : Nat} {s : Scratch}
    (h : fs.scratch[worker]? = some s)
    (mode : Nat) :
    (fs.setScratchMode worker mode).scratch[worker]? =
      some { s with mode := permissionBits mode } := by
  rw [setScratchMode, h]
  exact Std.ExtTreeMap.getElem?_insert_self

/-- A scratch file can be created where a directory is. -/
theorem createScratch_of_lookup
    {worker : Nat} {directory : Path} {location : Location}
    (h : fs.lookup directory = .ok (location, .directory)) :
    fs.createScratch worker directory =
      .ok { fs with scratch := fs.scratch.insert worker ⟨location, [], scratchMode⟩ } := by
  rw [createScratch, h]

theorem exists_lookup_of_createScratch
    {worker : Nat} {directory : Path}
    (h : fs.createScratch worker directory = .ok later) :
    ∃ location, fs.lookup directory = .ok (location, .directory) ∧
      later = { fs with scratch := fs.scratch.insert worker ⟨location, [], scratchMode⟩ } := by
  unfold createScratch at h
  split at h <;> cases h
  exact ⟨_, by assumption, rfl⟩

theorem sameBut_newScratch
    (fs : FileSystem) (worker : Nat) (s : Scratch) :
    SameBut worker fs { fs with scratch := fs.scratch.insert worker s } :=
  ⟨⟨rfl, fun _ => rfl⟩, erase_insert _ _ _⟩

@[simp] theorem entries_appendScratch
    (fs : FileSystem) (worker : Nat) (bytes : List UInt8) :
    (fs.appendScratch worker bytes).entries = fs.entries := by
  unfold appendScratch
  split <;> rfl

@[simp] theorem entries_setScratchMode
    (fs : FileSystem) (worker mode : Nat) :
    (fs.setScratchMode worker mode).entries = fs.entries := by
  unfold setScratchMode
  split <;> rfl

@[simp] theorem entries_discardScratch
    (fs : FileSystem) (worker : Nat) :
    (fs.discardScratch worker).entries = fs.entries := rfl

theorem entries_createScratch
    {worker : Nat} {directory : Path}
    (h : fs.createScratch worker directory = .ok later) :
    later.entries = fs.entries := by
  obtain ⟨location, -, rfl⟩ := exists_lookup_of_createScratch h
  rfl

/-! ## Entries put in place -/

theorem entry?_put
    {location : Location}
    (hne : location ≠ [])
    (fs : FileSystem) (entry : Entry) (other : Location) :
    FileSystem.entry? (fs.put location entry) other =
      if other = location then some entry else fs.entry? other := by
  cases other with
  | nil => rw [if_neg (Ne.symm hne)]; rfl
  | cons name other =>
    show (fs.entries.insert location entry)[name :: other]? = _
    rw [Std.ExtTreeMap.getElem?_insert]
    simp only [Std.LawfulEqCmp.compare_eq_iff_eq, eq_comm (a := location)]
    rfl

theorem entry?_put_self
    {location : Location}
    (hne : location ≠ [])
    (fs : FileSystem) (entry : Entry) :
    FileSystem.entry? (fs.put location entry) location = some entry := by
  rw [entry?_put hne, if_pos rfl]

theorem entry?_put_of_ne
    {location other : Location}
    (hne : location ≠ [])
    (h : other ≠ location)
    (fs : FileSystem) (entry : Entry) :
    FileSystem.entry? (fs.put location entry) other = fs.entry? other := by
  rw [entry?_put hne, if_neg h]

/-- A place that is vacant or holds something but a directory is not the root. -/
theorem ne_nil_of_entry?_ne
    {location : Location}
    (h : fs.entry? location ≠ some .directory) :
    location ≠ [] := by
  rintro rfl
  exact h rfl

theorem entry?_empty
    (location : Location) :
    FileSystem.empty.entry? location = if location = [] then some .directory else none := by
  cases location with
  | nil => rfl
  | cons name above =>
    rw [if_neg (List.cons_ne_nil name above)]
    exact Std.ExtTreeMap.getElem?_empty

namespace WellFormed

theorem empty :
    FileSystem.empty.WellFormed := by
  have hnone : ∀ name location, FileSystem.empty.entry? (name :: location) = none := by
    simp [entry?_empty]
  refine ⟨rfl, ?_, ?_, ?_, ?_, ?_⟩
  · intro name location h
    exact absurd (hnone name location) h
  · intro name location h
    exact absurd (hnone name location) h
  · intro name location h
    exact absurd (hnone name location) h
  · intro name location h
    exact absurd (hnone name location) h
  · intro location content mode h
    cases location with
    | nil => cases h
    | cons name location => rw [hnone] at h; cases h

/-- An entry can be put under a proper name into a directory, where there is no directory. -/
theorem put
    (hfs : fs.WellFormed)
    {name : List Char} {location : Location} {entry : Entry}
    (hdir : fs.isDirectoryAt location = true)
    (hfree : fs.entry? (name :: location) ≠ some .directory)
    (hname : Path.IsName name)
    (hnul : '\x00' ∉ name)
    (hlen : (Utf8.encode name).length ≤ nameLimit)
    (hmode : ∀ content mode, entry = .file content mode → mode < 0o10000) :
    (fs.put (name :: location) entry).WellFormed := by
  have hentry := entry?_put (List.cons_ne_nil name location) fs entry
  have hkeep : ∀ l, fs.isDirectoryAt l = true →
      (fs.put (name :: location) entry).isDirectoryAt l = true := by
    intro l hl
    rw [isDirectoryAt_iff] at hl ⊢
    rw [hentry, if_neg, hl]
    rintro rfl
    exact hfree hl
  refine ⟨hkeep _ hfs.workingDirectory, ?_, ?_, ?_, ?_, ?_⟩
  · intro n l h
    rw [hentry] at h
    split_ifs at h with heq
    · cases heq
      exact hkeep _ hdir
    · exact hkeep _ (hfs.parent n l h)
  · intro n l h
    rw [hentry] at h
    split_ifs at h with heq
    · cases heq
      exact hname
    · exact hfs.isName n l h
  · intro n l h
    rw [hentry] at h
    split_ifs at h with heq
    · cases heq
      exact hnul
    · exact hfs.no_nul n l h
  · intro n l h
    rw [hentry] at h
    split_ifs at h with heq
    · cases heq
      exact hlen
    · exact hfs.length_le n l h
  · intro l content mode h
    rw [hentry] at h
    split_ifs at h with heq
    · exact hmode content mode (Option.some.inj h)
    · exact hfs.mode_lt l content mode h

/-- Where nothing is, there is nothing below. -/
theorem entry?_append_of_none
    (hfs : fs.WellFormed)
    {location : Location}
    (h : fs.entry? location = none)
    (names : List (List Char)) :
    fs.entry? (names ++ location) = none := by
  induction names with
  | nil => exact h
  | cons name names ih =>
    by_contra hsome
    have hdir := hfs.parent name (names ++ location) hsome
    rw [isDirectoryAt_iff, ih] at hdir
    cases hdir

end WellFormed

/-- The tree with one file in its root. -/
def withFile (name : List Char) (content : List UInt8) (mode : Nat) : FileSystem :=
  FileSystem.empty.put [name] (.file content mode)

theorem entry?_withFile
    (name : List Char) (content : List UInt8) (mode : Nat) (location : Location) :
    FileSystem.entry? (withFile name content mode) location =
      if location = [name] then some (.file content mode)
      else if location = [] then some .directory else none := by
  rw [withFile, entry?_put (List.cons_ne_nil name []), entry?_empty]

theorem wellFormed_withFile
    {name : List Char} {mode : Nat}
    (content : List UInt8)
    (hname : Path.IsName name)
    (hnul : '\x00' ∉ name)
    (hlen : (Utf8.encode name).length ≤ nameLimit)
    (hmode : mode < 0o10000) :
    (withFile name content mode).WellFormed := by
  refine WellFormed.empty.put rfl ?_ hname hnul hlen ?_
  · simp [entry?_empty]
  · intro content mode h
    cases h
    exact hmode

theorem scratch_withFile
    (name : List Char) (content : List UInt8) (mode worker : Nat) :
    (withFile name content mode).scratch[worker]? = none := Std.ExtTreeMap.getElem?_empty

/-- In a well-formed tree a path that leads to anything but a directory ends in a name. -/
theorem WellFormed.exists_name_of_resolve
    (hfs : fs.WellFormed)
    {path : Path} {followLast : Bool} {resolved : Resolved}
    (h : fs.resolve followLast path = .ok resolved)
    (hne : ∀ location, resolved ≠ .found location .directory) :
    ∃ name, path.steps.getLast? = some (.name name) := by
  have found_directory : ∀ {links target}, fs.isDirectoryAt target = true →
      fs.follow followLast links target [] ≠ .ok resolved := by
    intro links target hdir h
    rw [follow_nil, (isDirectoryAt_iff _).1 hdir] at h
    cases h
    exact hne target rfl
  rw [resolve_of_fits _ (fits_of_resolve h), Path.steps_eq] at h
  rcases List.eq_nil_or_concat (path.firstStep :: (Path.segmentsOf path.text).2.map Path.stepOf)
    with hnil | ⟨init, last, hconcat⟩
  · cases hnil
  rw [Path.steps_eq, hconcat, List.concat_eq_append, List.getLast?_concat]
  rw [hconcat, List.concat_eq_append] at h
  obtain ⟨target, links, -, -, hdir, hlast⟩ := exists_walks_of_follow (Or.inl (by simp)) h
  cases last with
  | name name => exact ⟨name, rfl⟩
  | root =>
    rw [follow_root _ _ _ hdir] at hlast
    exact absurd hlast (found_directory rfl)
  | here =>
    rw [follow_here _ _ _ hdir] at hlast
    exact absurd hlast (found_directory hdir)
  | up =>
    have htail : fs.isDirectoryAt target.tail = true := by
      cases target with
      | nil => rfl
      | cons name target =>
        rw [isDirectoryAt_iff] at hdir
        exact hfs.parent name target (by rw [hdir]; simp)
    rw [follow_up _ _ _ hdir] at hlast
    exact absurd hlast (found_directory htail)

end FileSystem
end LineSieve
