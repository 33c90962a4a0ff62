import LineSieve.Proofs.Links
import LineSieve.Proofs.Refiltering

/-!
# The course of a run

Trees of the same shape differ in what their files hold and in nothing else.  Whatever is asked about
paths has the same answer in both, and whatever is done to one tree succeeds in the other one as well or
fails for the same reason.  The only place where the content of a file matters is the sifting.

So when two files hold text, the runs that process them take the same course: `sameCourse_run` says that
they have the same destination and succeed or fail alike, and that the counts are those of the texts.
`publishes_of_success` says which text has been published in the end, and `success_of_inPlaceTarget`
that processing text in place does succeed.
-/

namespace LineSieve

/-! ## Trees of the same shape -/

namespace FileSystem

/-- Two trees answer alike where a path leads, or name the same file, which may hold something else. -/
inductive SameEnd : Except IoError Resolved → Except IoError Resolved → Prop
  | same (answer : Except IoError Resolved) :
      SameEnd answer answer
  | files
      (location : Location) (content content' : List UInt8) (mode mode' : Nat) :
      SameEnd (.ok (.found location (.file content mode)))
        (.ok (.found location (.file content' mode')))

/-- The same change has led to trees of the same shape, or has failed for the same reason. -/
inductive SameAttempt {ε : Type} : Except ε FileSystem → Except ε FileSystem → Prop
  | done
      {made made' : FileSystem}
      (h : SameShape made made') :
      SameAttempt (.ok made) (.ok made')
  | failed (e : ε) :
      SameAttempt (.error e) (.error e)

namespace SameShape

variable {fs later : FileSystem} {path : Path}

theorem refl
    (fs : FileSystem) :
    SameShape fs fs :=
  ⟨rfl, fun _ => .same _⟩

theorem of_entries
    {before after : FileSystem}
    (h : SameShape fs later)
    (hfs : before.entries = fs.entries ∧ before.workingDirectory = fs.workingDirectory)
    (hlater : after.entries = later.entries ∧ after.workingDirectory = later.workingDirectory) :
    SameShape before after := by
  refine ⟨by rw [hlater.2, hfs.2, h.workingDirectory], fun location => ?_⟩
  have hkind := h.entry? location
  cases location with
  | nil => exact .same _
  | cons name directory =>
    simp only [FileSystem.entry?] at hkind ⊢
    rwa [hfs.1, hlater.1]

theorem isDirectoryAt_eq
    (h : SameShape fs later)
    (location : Location) :
    later.isDirectoryAt location = fs.isDirectoryAt location := by
  have hkind := h.entry? location
  unfold isDirectoryAt
  generalize fs.entry? location = entry at hkind ⊢
  generalize later.entry? location = entry' at hkind ⊢
  cases hkind <;> rfl

theorem takeSteps
    (h : SameShape fs later)
    {onLink onLink' : Location → List Component → Except IoError Resolved}
    (hlink : ∀ location steps, SameEnd (onLink location steps) (onLink' location steps))
    (followLast : Bool) (location : Location) (steps : List Component) :
    SameEnd (fs.takeSteps followLast onLink location steps)
      (later.takeSteps followLast onLink' location steps) := by
  induction steps generalizing location with
  | nil =>
    have hkind := h.entry? location
    simp only [FileSystem.takeSteps]
    generalize fs.entry? location = entry at hkind ⊢
    generalize later.entry? location = entry' at hkind ⊢
    cases hkind with
    | same => exact .same _
    | files => exact .files _ _ _ _ _
  | cons step rest ih =>
    simp only [FileSystem.takeSteps, h.isDirectoryAt_eq]
    by_cases hdir : (!fs.isDirectoryAt location) = true
    · rw [if_pos hdir, if_pos hdir]
      exact .same _
    rw [if_neg hdir, if_neg hdir]
    cases step with
    | root => exact ih []
    | here => exact ih location
    | up => exact ih location.tail
    | name text =>
      have hkind := h.entry? (text :: location)
      have hgo := ih (text :: location)
      by_cases hlen : nameLimit < (Utf8.encode text).length
      · simp only [if_pos hlen]
        exact .same _
      simp only [if_neg hlen]
      generalize fs.entry? (text :: location) = entry at hkind ⊢
      generalize later.entry? (text :: location) = entry' at hkind ⊢
      cases hkind with
      | files => exact hgo
      | same =>
        rcases entry with - | ⟨content, mode⟩ | - | target
        · exact .same _
        · exact hgo
        · exact hgo
        · simp only
          split_ifs
          · exact .same _
          · exact hlink _ _

theorem follow
    (h : SameShape fs later)
    (followLast : Bool) (links : Nat) (location : Location) (steps : List Component) :
    SameEnd (fs.follow followLast links location steps)
      (later.follow followLast links location steps) := by
  induction links generalizing location steps with
  | zero => exact h.takeSteps (fun _ _ => .same _) followLast location steps
  | succ links ih => exact h.takeSteps ih followLast location steps

/-- A path leads to the same end in trees of the same shape. -/
theorem resolve
    (h : SameShape fs later)
    (followLast : Bool) (path : Path) :
    SameEnd (fs.resolve followLast path) (later.resolve followLast path) := by
  unfold FileSystem.resolve
  split_ifs
  · exact .same _
  · exact .same _
  · exact .same _
  · rw [h.workingDirectory]
    exact h.follow followLast linkLimit _ _

theorem lookup_cases
    (h : SameShape fs later)
    (path : Path) :
    later.lookup path = fs.lookup path ∨
      ∃ location content content' mode mode', fs.lookup path = .ok (location, .file content mode) ∧
        later.lookup path = .ok (location, .file content' mode') := by
  have hend := h.resolve true path
  unfold FileSystem.lookup
  generalize fs.resolve true path = answer at hend ⊢
  generalize later.resolve true path = answer' at hend ⊢
  cases hend with
  | same => exact Or.inl rfl
  | files => exact Or.inr ⟨_, _, _, _, _, rfl, rfl⟩

theorem isFile_eq
    (h : SameShape fs later)
    (path : Path) :
    later.isFile path = fs.isFile path := by
  rcases h.lookup_cases path with heq | ⟨_, _, _, _, _, heq, heq'⟩
  · rw [isFile, isFile, leadsTo, leadsTo, heq]
  · rw [isFile, isFile, leadsTo, leadsTo, heq, heq']
    rfl

theorem isDirectory_eq
    (h : SameShape fs later)
    (path : Path) :
    later.isDirectory path = fs.isDirectory path := by
  rcases h.lookup_cases path with heq | ⟨_, _, _, _, _, heq, heq'⟩
  · rw [isDirectory, isDirectory, leadsTo, leadsTo, heq]
  · rw [isDirectory, isDirectory, leadsTo, leadsTo, heq, heq']
    rfl

theorem canonicalize_eq
    (h : SameShape fs later)
    (path : Path) :
    later.canonicalize path = fs.canonicalize path := by
  rcases h.lookup_cases path with heq | ⟨_, _, _, _, _, heq, heq'⟩
  · rw [canonicalize, canonicalize, heq]
  · rw [canonicalize, canonicalize, heq, heq']

/-! ### Changes -/

/-- Files of their own, or the same entry, are put into both trees. -/
theorem put
    (h : SameShape fs later)
    {entry entry' : Entry}
    (hkind : SameKind (some entry) (some entry'))
    (location : Location) :
    SameShape (fs.put location entry) (later.put location entry') := by
  refine ⟨h.workingDirectory, fun other => ?_⟩
  by_cases hne : location = []
  · cases other with
    | nil => exact .same _
    | cons name directory =>
      have hother := h.entry? (name :: directory)
      have hroot : compare location (name :: directory) ≠ .eq := by
        rw [hne, Ne, Std.LawfulEqCmp.compare_eq_iff_eq]
        simp
      simp only [FileSystem.entry?, FileSystem.put, Std.ExtTreeMap.getElem?_insert, hroot, if_false]
        at hother ⊢
      exact hother
  · rw [entry?_put hne, entry?_put hne]
    split_ifs
    · exact hkind
    · exact h.entry? other

theorem makeDirectory
    (h : SameShape fs later)
    (path : Path) :
    SameAttempt (fs.makeDirectory path) (later.makeDirectory path) := by
  have hend := h.resolve false path
  unfold FileSystem.makeDirectory
  generalize fs.resolve false path = answer at hend ⊢
  generalize later.resolve false path = answer' at hend ⊢
  cases hend with
  | files => exact .failed _
  | same =>
    rcases answer with e | ⟨location, entry⟩ | location
    · exact .failed e
    · exact .failed _
    · exact .done (h.put (.same _) location)

theorem makeDirectoriesAt
    (h : SameShape fs later)
    (paths : List Path) :
    SameShape (fs.makeDirectoriesAt paths).1 (later.makeDirectoriesAt paths).1 ∧
      (later.makeDirectoriesAt paths).2 = (fs.makeDirectoriesAt paths).2 := by
  induction paths with
  | nil => exact ⟨h, rfl⟩
  | cons path above ih =>
    unfold FileSystem.makeDirectoriesAt
    by_cases hempty : path.text.isEmpty = true
    · rw [if_pos hempty, if_pos hempty]
      exact ⟨h, rfl⟩
    rw [if_neg hempty, if_neg hempty]
    have hfirst := h.makeDirectory path
    have hdirectory := h.isDirectory_eq path
    generalize fs.makeDirectory path = first at hfirst ⊢
    generalize later.makeDirectory path = first' at hfirst ⊢
    cases hfirst with
    | done hmade => exact ⟨hmade, rfl⟩
    | failed e =>
      cases e with
      | notFound =>
        -- the directories above are made, and then this one is tried again
        generalize fs.makeDirectoriesAt above = made at ih ⊢
        generalize later.makeDirectoriesAt above = made' at ih ⊢
        obtain ⟨middle, outcome⟩ := made
        obtain ⟨middle', outcome'⟩ := made'
        obtain ⟨hshape, houtcome⟩ : SameShape middle middle' ∧ outcome' = outcome := ih
        subst outcome'
        rcases outcome with e | -
        · exact ⟨hshape, rfl⟩
        have hagain := hshape.makeDirectory path
        have hdirectory' := hshape.isDirectory_eq path
        simp only at hagain hdirectory' ⊢
        generalize middle.makeDirectory path = last at hagain ⊢
        generalize middle'.makeDirectory path = last' at hagain ⊢
        cases hagain with
        | done hmade => exact ⟨hmade, rfl⟩
        | failed e => exact ⟨hshape, by simp only [hdirectory']⟩
      | _ => exact ⟨h, by simp only [hdirectory]⟩

theorem publishScratch
    (h : SameShape fs later)
    {worker : Nat} {s s' : Scratch}
    (hs : fs.scratch[worker]? = some s)
    (hs' : later.scratch[worker]? = some s')
    (path : Path) :
    SameAttempt (fs.publishScratch worker path) (later.publishScratch worker path) := by
  have hend := h.resolve false path
  have hput := h.put (.files s.content s'.content s.mode s'.mode)
  unfold FileSystem.publishScratch
  rw [hs, hs']
  generalize fs.resolve false path = answer at hend ⊢
  generalize later.resolve false path = answer' at hend ⊢
  cases hend with
  | files location => exact .done ((hput location).of_entries ⟨rfl, rfl⟩ ⟨rfl, rfl⟩)
  | same =>
    rcases answer with e | ⟨location, ⟨content, mode⟩ | - | target⟩ | location
    · exact .failed e
    · exact .done ((hput location).of_entries ⟨rfl, rfl⟩ ⟨rfl, rfl⟩)
    · exact .failed _
    · exact .done ((hput location).of_entries ⟨rfl, rfl⟩ ⟨rfl, rfl⟩)
    · exact .done ((hput location).of_entries ⟨rfl, rfl⟩ ⟨rfl, rfl⟩)

theorem createScratch
    (h : SameShape fs later)
    (worker : Nat) (directory : Path) :
    SameAttempt (fs.createScratch worker directory) (later.createScratch worker directory) := by
  unfold FileSystem.createScratch
  rcases h.lookup_cases directory with heq | ⟨_, _, _, _, _, heq, heq'⟩
  · rw [heq]
    rcases fs.lookup directory with e | ⟨location, ⟨content, mode⟩ | - | target⟩
    · exact .failed e
    · exact .failed _
    · exact .done (h.of_entries ⟨rfl, rfl⟩ ⟨rfl, rfl⟩)
    · exact .failed _
  · rw [heq, heq']
    exact .failed _

end SameShape
end FileSystem

/-! ## Runs -/

namespace Process

open FileSystem

/-- Two runs have the same destination and succeed, or fail for the same reason.  Unless they fail before
anything is read, their counts are the given ones. -/
structure SameCourse (counts counts' : ActionCounts) (result result' : FileResult) : Prop where
  sourcePath : result'.sourcePath = result.sourcePath
  outputPath : result'.outputPath = result.outputPath
  error : result'.error = result.error
  counts : result.counts = .zero ∧ result'.counts = .zero ∨
    result.counts = counts ∧ result'.counts = counts'

theorem SameCourse.success
    {counts counts' : ActionCounts} {result result' : FileResult}
    (h : SameCourse counts counts' result result') :
    result'.success = result.success := by
  rw [FileResult.success, FileResult.success, h.error]

theorem SameCourse.eq
    {counts : ActionCounts} {result result' : FileResult}
    (h : SameCourse counts counts result result') :
    result' = result := by
  obtain ⟨hsource, houtput, herror, hcounts⟩ := h
  cases result
  cases result'
  rcases hcounts with ⟨hzero, hzero'⟩ | ⟨hcounts, hcounts'⟩ <;> simp_all

variable {config config' : Config} {fs later : FileSystem} {path : Path} {text text' : List Char}

section Course

variable (h : SameShape fs later)

include h in
theorem checkPath_of_sameShape
    (mustExist : Bool) (path : Path) :
    checkPath later mustExist path = checkPath fs mustExist path := by
  rw [checkPath, checkPath, h.isFile_eq]

include h in
theorem inPlaceTarget_of_sameShape
    (path : Path) :
    inPlaceTarget later path = inPlaceTarget fs path := by
  rw [inPlaceTarget, inPlaceTarget, h.isLink_eq, h.canonicalize_eq]

include h in
theorem destination_of_sameShape
    (houtput : config'.output = config.output)
    (root : Option Path) (path : Path) :
    SameShape (destination config fs root path).1 (destination config' later root path).1 ∧
      (destination config' later root path).2 = (destination config fs root path).2 := by
  unfold destination
  rw [houtput]
  cases config.output with
  | inPlace => exact ⟨h, inPlaceTarget_of_sameShape h path⟩
  | directory directory layout =>
    dsimp only
    cases outputPath? directory layout root path with
    | none => exact ⟨h, rfl⟩
    | some target =>
      dsimp only
      cases directoryOf? target with
      | none => exact ⟨h, rfl⟩
      | some parent =>
        have hmade := h.makeDirectoriesAt parent.ancestors
        dsimp only [makeDirectories]
        generalize fs.makeDirectoriesAt parent.ancestors = made at hmade ⊢
        generalize later.makeDirectoriesAt parent.ancestors = made' at hmade ⊢
        obtain ⟨middle, outcome⟩ := made
        obtain ⟨middle', outcome'⟩ := made'
        obtain ⟨hshape, houtcome⟩ : SameShape middle middle' ∧ outcome' = outcome := hmade
        subst outcome'
        rcases outcome with e | -
        · exact ⟨hshape, rfl⟩
        · exact ⟨hshape, rfl⟩

include h in
/-- Publishing fails alike, also when it is told which path it was about. -/
theorem sameAttempt_publishScratch
    {worker : Nat} {s s' : Scratch}
    (hs : fs.scratch[worker]? = some s)
    (hs' : later.scratch[worker]? = some s')
    (target : Path) :
    SameAttempt
      (match fs.publishScratch worker target with
        | .ok fs => .ok fs
        | .error e => .error (FileError.io target e))
      (match later.publishScratch worker target with
        | .ok fs => .ok fs
        | .error e => .error (FileError.io target e)) := by
  have hattempt := h.publishScratch hs hs' target
  generalize fs.publishScratch worker target = outcome at hattempt ⊢
  generalize later.publishScratch worker target = outcome' at hattempt ⊢
  cases hattempt with
  | done hmade => exact .done hmade
  | failed e => exact .failed _

include h in
theorem publish_of_sameShape
    (hkeep : config'.keepPermissions = config.keepPermissions)
    {worker mode mode' : Nat} {s s' : Scratch}
    (hs : fs.scratch[worker]? = some s)
    (hs' : later.scratch[worker]? = some s')
    (hmode : fs.modeOf path = .ok mode)
    (hmode' : later.modeOf path = .ok mode')
    (target : Path) :
    SameAttempt (publish config fs worker path target) (publish config' later worker path target) := by
  unfold publish
  rw [hkeep, hmode, hmode']
  cases config.keepPermissions with
  | false => exact sameAttempt_publishScratch h hs hs' target
  | true =>
    refine sameAttempt_publishScratch
      (h.of_entries ⟨entries_setScratchMode .., ?_⟩ ⟨entries_setScratchMode .., ?_⟩)
      (getElem?_setScratchMode hs mode) (getElem?_setScratchMode hs' mode') target
    · exact (sameBut_setScratchMode fs worker mode).sameTree.workingDirectory
    · exact (sameBut_setScratchMode later worker mode').sameTree.workingDirectory

section Text

variable (hkeep : config'.keepPermissions = config.keepPermissions)
  (hcontent : fs.contentOf path = .ok (Utf8.encode text))
  (hcontent' : later.contentOf path = .ok (Utf8.encode text'))

include h hkeep hcontent hcontent' in
theorem fill_of_sameShape
    {worker : Nat} {s s' : Scratch}
    (hs : fs.scratch[worker]? = some s)
    (hs' : later.scratch[worker]? = some s')
    (target : Path) :
    (fill config' later worker path target).2.1 = (fill config fs worker path target).2.1 ∧
      (fill config fs worker path target).2.2 = (sift config.rules (Utf8.encode text)).counts ∧
      (fill config' later worker path target).2.2 =
        (sift config'.rules (Utf8.encode text')).counts := by
  have hfault := (sift_fault_eq_none_iff config.rules _).2 ⟨text, rfl⟩
  have hfault' := (sift_fault_eq_none_iff config'.rules _).2 ⟨text', rfl⟩
  obtain ⟨-, mode, -, hmode⟩ := exists_modeOf_of_contentOf hcontent
  obtain ⟨-, mode', -, hmode'⟩ := exists_modeOf_of_contentOf hcontent'
  have hsame := (sameBut_appendScratch fs worker (sift config.rules (Utf8.encode text)).bytes).sameTree
  have hsame' :=
    (sameBut_appendScratch later worker (sift config'.rules (Utf8.encode text')).bytes).sameTree
  have hpublish := publish_of_sameShape
    (h.of_entries ⟨entries_appendScratch .., hsame.workingDirectory⟩
      ⟨entries_appendScratch .., hsame'.workingDirectory⟩) hkeep
    (getElem?_appendScratch hs (sift config.rules (Utf8.encode text)).bytes)
    (getElem?_appendScratch hs' (sift config'.rules (Utf8.encode text')).bytes)
    ((hsame.modeOf path).trans hmode) ((hsame'.modeOf path).trans hmode') target
  simp only [fill, hcontent, hcontent', hfault, hfault']
  generalize publish config _ worker path target = outcome at hpublish ⊢
  generalize publish config' _ worker path target = outcome' at hpublish ⊢
  cases hpublish with
  | done => exact ⟨rfl, rfl, rfl⟩
  | failed e => exact ⟨rfl, rfl, rfl⟩

include h hkeep hcontent hcontent' in
theorem replace_of_sameShape
    (worker : Nat) (target : Path) :
    (replace config' later worker path target).2.1 = (replace config fs worker path target).2.1 ∧
      ((replace config fs worker path target).2.2 = .zero ∧
          (replace config' later worker path target).2.2 = .zero ∨
        (replace config fs worker path target).2.2 =
            (sift config.rules (Utf8.encode text)).counts ∧
          (replace config' later worker path target).2.2 =
            (sift config'.rules (Utf8.encode text')).counts) := by
  have hcreate := h.createScratch worker (scratchDirectory target)
  unfold replace
  cases hfirst : fs.createScratch worker (scratchDirectory target) with
  | error e =>
    rw [hfirst] at hcreate
    generalize later.createScratch worker (scratchDirectory target) = second at hcreate ⊢
    cases hcreate
    exact ⟨rfl, Or.inl ⟨rfl, rfl⟩⟩
  | ok made =>
    cases hsecond : later.createScratch worker (scratchDirectory target) with
    | error e =>
      rw [hfirst, hsecond] at hcreate
      cases hcreate
    | ok made' =>
      rw [hfirst, hsecond] at hcreate
      cases hcreate with
      | done hshape =>
        obtain ⟨location, -, rfl⟩ := exists_lookup_of_createScratch hfirst
        obtain ⟨location', -, rfl⟩ := exists_lookup_of_createScratch hsecond
        have hsame := (sameBut_newScratch fs worker ⟨location, [], scratchMode⟩).sameTree
        have hsame' := (sameBut_newScratch later worker ⟨location', [], scratchMode⟩).sameTree
        obtain ⟨herror, hcounts⟩ := fill_of_sameShape hshape hkeep
          ((hsame.contentOf path).trans hcontent) ((hsame'.contentOf path).trans hcontent')
          Std.ExtTreeMap.getElem?_insert_self Std.ExtTreeMap.getElem?_insert_self target
        exact ⟨herror, Or.inr hcounts⟩

/-- What can be read can be read when directories have been made. -/
theorem contentOf_destination
    (root : Option Path)
    (hfs : fs.WellFormed)
    {content : List UInt8}
    (hcontent : fs.contentOf path = .ok content) :
    (destination config fs root path).1.contentOf path = .ok content := by
  obtain ⟨location, mode, hlookup, -⟩ := exists_modeOf_of_contentOf hcontent
  rw [contentOf, (makesDirectories_destination hfs).1.lookup hlookup]

include h hkeep hcontent hcontent' in
/-- Runs that find text in the same place take the same course. -/
theorem sameCourse_run
    (hfs : fs.WellFormed)
    (hlater : later.WellFormed)
    (houtput : config'.output = config.output)
    (worker : Nat) (mustExist : Bool) (root : Option Path) :
    SameCourse (sift config.rules (Utf8.encode text)).counts
      (sift config'.rules (Utf8.encode text')).counts
      (run config fs worker mustExist root path).2 (run config' later worker mustExist root path).2 := by
  unfold run
  rw [checkPath_of_sameShape h]
  cases checkPath fs mustExist path with
  | error e => exact ⟨rfl, rfl, rfl, Or.inl ⟨rfl, rfl⟩⟩
  | ok _ =>
    have hmade := destination_of_sameShape h houtput root path
    have hread := @contentOf_destination config fs path root hfs _ hcontent
    have hread' := @contentOf_destination config' later path root hlater _ hcontent'
    generalize destination config fs root path = made at hmade hread ⊢
    generalize destination config' later root path = made' at hmade hread' ⊢
    obtain ⟨middle, outcome⟩ := made
    obtain ⟨middle', outcome'⟩ := made'
    obtain ⟨hshape, houtcome⟩ : SameShape middle middle' ∧ outcome' = outcome := hmade
    subst outcome'
    rcases outcome with e | target
    · exact ⟨rfl, rfl, rfl, Or.inl ⟨rfl, rfl⟩⟩
    · obtain ⟨herror, hcounts⟩ := replace_of_sameShape hshape hkeep hread hread' worker target
      exact ⟨rfl, rfl, herror, hcounts⟩

end Text
end Course

/-! ## What is published -/

/-- A file is processed successfully, and in the end a text stands in the place to which the destination
leads once its directories have been made. -/
inductive Publishes (config : Config) (fs : FileSystem) (path : Path) (text : List Char) : Prop
  | mk
      {made : FileSystem} {target : Path} {location : Location} {mode : Nat}
      (hsuccess : (processFile config fs path).2.success = true)
      (hpath : (processFile config fs path).2.outputPath = some target)
      (hplace : destination config fs none path = (made, .ok target))
      (htarget : CanTake made target location)
      (hentry : FileSystem.entry? (processFile config fs path).1 location =
        some (.file (Utf8.encode text) mode)) :
      Publishes config fs path text

theorem CanTake.unique
    {target : Path} {location location' : Location}
    (h : CanTake fs target location)
    (h' : CanTake fs target location') :
    location = location' := by
  rcases h with h | ⟨_, -, h⟩ <;> rcases h' with h' | ⟨_, -, h'⟩ <;> rw [h] at h' <;> cases h' <;> rfl

/-- Only one text is published. -/
theorem Publishes.unique
    (h : Publishes config fs path text)
    (h' : Publishes config fs path text') :
    text = text' := by
  obtain ⟨-, -, hplace, htarget, hentry⟩ := h
  obtain ⟨-, -, hplace', htarget', hentry'⟩ := h'
  cases hplace.symm.trans hplace'
  cases htarget.unique htarget'
  rw [hentry] at hentry'
  exact Utf8.encode_injective (Entry.file.inj (Option.some.inj hentry')).1

theorem publishes_of_success
    (hfs : fs.WellFormed)
    (hfree : fs.scratch[0]? = none)
    (hcontent : fs.contentOf path = .ok (Utf8.encode text))
    (hsuccess : (processFile config fs path).2.success = true) :
    Publishes config fs path (Text.rewritten config.rules text) ∧
      (processFile config fs path).2.counts = (sift config.rules (Utf8.encode text)).counts := by
  have hread := @contentOf_destination config fs path none hfs _ hcontent
  obtain ⟨-, made, -, -, hran⟩ := @run_cases config fs 0 true none path hfs hfree
  have hpublishes := @Publishes.mk config fs path (Text.rewritten config.rules text)
  simp only [processFile] at hsuccess hpublishes ⊢
  generalize run config fs 0 true none path = ran at hsuccess hran hpublishes ⊢
  obtain ⟨after, result⟩ := ran
  cases hran with
  | failed hsame herror =>
    rw [herror] at hsuccess
    cases hsuccess
  | published hplace hcontent' hmode hfault htarget hpublished =>
    rw [hplace] at hread
    cases hcontent'.symm.trans hread
    have hentry := hpublished.entry?_self
    rw [sift_encode_bytes] at hentry
    exact ⟨hpublishes rfl rfl hplace htarget hentry, rfl⟩

/-- Processing text in place succeeds, unless the path is blank or leads through a link to a file whose
absolute path the system refuses. -/
theorem success_of_inPlaceTarget
    {target : Path} {location : Location} {mode : Nat}
    (hfs : fs.WellFormed)
    (hinPlace : config.output = .inPlace)
    (hblank : path.isBlank = false)
    (hlookup : fs.lookup path = .ok (location, .file (Utf8.encode text) mode))
    (htarget : inPlaceTarget fs path = .ok target) :
    (processFile config fs path).2.success = true := by
  have hentry : fs.entry? location = some (.file (Utf8.encode text) mode) :=
    holds_of_resolve (lookup_eq_ok_iff.1 hlookup)
  have hcheck : checkPath fs true path = .ok () := by
    rw [checkPath, hblank, isFile, leadsTo, hlookup]
    rfl
  have hplace : CanTake fs target location := by
    have hchoice := inPlaceTarget_eq_ok_iff.1 htarget
    obtain ⟨name, directory, entry, hlocates, hthere, hcase⟩ := exists_locates_of_lookup hfs hlookup
    split_ifs at hchoice with hlink
    · cases location with
      | nil => cases hentry
      | cons name directory =>
        exact canTake_of_locates (locates_of_canonicalize hfs hlookup hchoice).1 hentry
    · subst hchoice
      rcases hcase with hislink | ⟨rfl, -⟩
      · rw [isLink, lookupLink, hlocates.resolve_found hthere (Or.inl rfl)] at hlink
        exact absurd hislink hlink
      · exact canTake_of_locates hlocates hentry
  obtain ⟨after, hrun, -⟩ := run_inPlace_of_canTake 0 none hfs hinPlace hcheck htarget hplace hlookup
    ((sift_fault_eq_none_iff config.rules _).2 ⟨text, rfl⟩)
  rw [processFile, hrun]
  rfl

end Process

end LineSieve
