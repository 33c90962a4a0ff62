import LineSieve.Proofs.Aborting

/-!
# Runs in place

A file that is processed in place keeps its place and its kind, and nothing else is touched: `RanInPlace`
says what comes of processing one file, and `Reworked` what becomes of a tree when any number of files is
processed, by the names of the results.  So the shape of the tree stays: the same entries, directories and
links, and files where there were files.  As every link stays, each path leads where it led before, and a
file that is named twice, or once through a link, is the same file each time.

`runTargets_inPlace` draws the conclusion for a call: once the roots and the pattern have passed, the run
goes through to its end, as far as the pools for its directories start.
-/

namespace LineSieve

open FileSystem

namespace FileSystem

/-! ## The shape of a tree -/

/-- Two entries are the same, or both are files. -/
inductive SameKind : Option Entry → Option Entry → Prop
  | same (entry : Option Entry) :
      SameKind entry entry
  | files
      (content content' : List UInt8) (mode mode' : Nat) :
      SameKind (some (.file content mode)) (some (.file content' mode'))

/-- The same entries stand in two trees, but there may be something else in a file. -/
structure SameShape (fs later : FileSystem) : Prop where
  workingDirectory : later.workingDirectory = fs.workingDirectory
  entry? : ∀ location, SameKind (fs.entry? location) (later.entry? location)

variable {fs later : FileSystem} {path : Path}

theorem SameKind.symm
    {a b : Option Entry}
    (h : SameKind a b) :
    SameKind b a := by
  cases h with
  | same => exact .same _
  | files => exact .files _ _ _ _

theorem SameKind.becomes
    {a b : Option Entry}
    (h : SameKind a b) :
    Becomes a b := by
  cases h with
  | same => exact .stays _
  | files => exact .published _ _ (by simp)

namespace SameShape

theorem symm
    (h : SameShape fs later) :
    SameShape later fs :=
  ⟨h.workingDirectory.symm, fun location => (h.entry? location).symm⟩

theorem evolves
    (h : SameShape fs later) :
    Evolves fs later :=
  ⟨h.workingDirectory, fun location => (h.entry? location).becomes⟩

theorem keepsLinks
    (h : SameShape fs later) :
    KeepsLinks fs later := by
  intro location link hentry
  have hkind := h.entry? location
  rw [hentry] at hkind
  generalize later.entry? location = entry at hkind ⊢
  cases hkind
  rfl

/-- A path leads to the same place in trees of the same shape. -/
theorem lookup
    (h : SameShape fs later)
    {location : Location} {entry : Entry}
    (hlookup : fs.lookup path = .ok (location, entry)) :
    ∃ entry', later.lookup path = .ok (location, entry') := by
  obtain ⟨entry', hlater, -⟩ := h.evolves.lookup h.keepsLinks hlookup
  exact ⟨entry', hlater⟩

end SameShape

end FileSystem

/-! ## One file -/

namespace Process

variable {config : Config} {fs after : FileSystem} {worker : Nat} {mustExist : Bool}
  {root : Option Path} {path target : Path} {result : FileResult} {location source : Location}

/-- The place that is taken in place is the one to which the path leads. -/
theorem eq_of_inPlaceTarget
    {content : List UInt8} {mode : Nat}
    (hfs : fs.WellFormed)
    (hplace : inPlaceTarget fs path = .ok target)
    (htarget : CanTake fs target location)
    (hlookup : fs.lookup path = .ok (source, .file content mode)) :
    location = source := by
  have hentry : fs.entry? source = some (.file content mode) :=
    holds_of_resolve (lookup_eq_ok_iff.1 hlookup)
  rw [inPlaceTarget_eq_ok_iff] at hplace
  split_ifs at hplace with hislink
  · -- the target is the absolute path of the source, and no link stands there
    obtain ⟨_, _, hlookup', rfl, -⟩ := canonicalize_eq_ok_iff.1 hplace
    cases hlookup.symm.trans hlookup'
    cases source with
    | nil => cases hentry
    | cons name directory =>
      have hpoints := points_absolutePath hfs (show fs.entry? (name :: directory) ≠ none by
        rw [hentry]
        simp)
      rw [CanTake, hpoints.resolve_eq hentry (Or.inl rfl)] at htarget
      rcases htarget with hvacant | ⟨entry, -, hfound⟩
      · cases (answer_eq_ok hvacant).2
      · cases (answer_eq_ok hfound).2
        rfl
  · cases hplace
    obtain ⟨name, directory, rfl, hlocates⟩ := htarget.exists_locates hfs
    rcases htarget with hvacant | ⟨entry, -, hfound⟩
    · have hnone : fs.entry? (name :: directory) = none := holds_of_resolve hvacant
      rw [lookup, hlocates.resolve_vacant true hnone] at hlookup
      cases hlookup
    · have hthere : fs.entry? (name :: directory) = some entry := holds_of_resolve hfound
      have hnolink : entry.isLink = false := by
        rw [isLink, lookupLink, hfound] at hislink
        simpa using hislink
      rw [hlocates.lookup_eq hthere hnolink] at hlookup
      cases hlookup
      rfl

/-- What processing a file in place comes to: a failure that leaves the tree as it is, or the processed
content in the place of the file to which the path leads. -/
inductive RanInPlace (config : Config) (fs : FileSystem) (worker : Nat) (path : Path) :
    FileSystem → FileResult → Prop
  | failed
      {after : FileSystem} {result : FileResult}
      (hsame : SameTree fs after)
      (herror : result.success = false) :
      RanInPlace config fs worker path after result
  | published
      {after : FileSystem} {location : Location} {content : List UInt8} {mode : Nat}
      (target : Path)
      (hlookup : fs.lookup path = .ok (location, .file content mode))
      (hfault : (sift config.rules content).fault = none)
      (h : Published fs after worker location
        (.file (sift config.rules content).bytes (publishedMode config mode))) :
      RanInPlace config fs worker path after
        ⟨path, some target, none, (sift config.rules content).counts⟩

theorem ranInPlace_run
    (mustExist : Bool) (root : Option Path) (path : Path)
    (hfs : fs.WellFormed)
    (hfree : fs.scratch[worker]? = none)
    (hinPlace : config.output = .inPlace) :
    RanInPlace config fs worker path (run config fs worker mustExist root path).1
      (run config fs worker mustExist root path).2 := by
  obtain ⟨-, made, hmakes, -, hran⟩ := @run_cases config fs worker mustExist root path hfs hfree
  have hsame : SameTree fs made := by
    refine ⟨hmakes.workingDirectory, fun location => ?_⟩
    rcases hmakes.entry? location with heq | ⟨-, -, directory, hmem, -⟩
    · exact heq
    · rw [way, hinPlace] at hmem
      cases hmem
  generalize run config fs worker mustExist root path = ran at hran ⊢
  obtain ⟨after, result⟩ := ran
  cases hran with
  | failed hunchanged herror => exact .failed (hsame.trans hunchanged) herror
  | @published target location content mode hplace hcontent hmode hfault htarget hpublished =>
    simp only [destination, hinPlace, Prod.mk.injEq] at hplace
    obtain ⟨rfl, hplace⟩ := hplace
    obtain ⟨source, mode', hlookup, hmode'⟩ := exists_modeOf_of_contentOf hcontent
    cases hmode.symm.trans hmode'
    cases eq_of_inPlaceTarget hfs hplace htarget hlookup
    exact .published target hlookup hfault hpublished

end Process

/-! ## Any number of files -/

/-- A file has been processed successfully, and its path leads to a location. -/
def FileResult.Names (result : FileResult) (fs : FileSystem) (location : Location) : Prop :=
  result.success = true ∧ ∃ entry, fs.lookup result.sourcePath = .ok (location, entry)

/-- A result names the same place in trees of the same shape. -/
theorem FileResult.names_iff
    {fs later : FileSystem} {result : FileResult} {location : Location}
    (h : SameShape fs later) :
    result.Names later location ↔ result.Names fs location := by
  constructor
  · rintro ⟨hsuccess, entry, hlookup⟩
    exact ⟨hsuccess, h.symm.lookup hlookup⟩
  · rintro ⟨hsuccess, entry, hlookup⟩
    exact ⟨hsuccess, h.lookup hlookup⟩

namespace Dispatch

open Process

variable {config : Config} {fs middle later : FileSystem} {results more : List FileResult}
  {result : FileResult} {location : Location} {path : Path} {paths : List Path} {pattern : List Char}
  {recursive : Bool}

/-- What processing files in place makes of a tree: the files that the results name may have other
content, and have their own mode or that of new files; everything else is as it was. -/
structure Reworked (config : Config) (fs : FileSystem) (results : List FileResult)
    (later : FileSystem) : Prop where
  workingDirectory : later.workingDirectory = fs.workingDirectory
  kept : ∀ location, (¬∃ result ∈ results, result.Names fs location) →
    later.entry? location = fs.entry? location
  rewritten : ∀ location, (∃ result ∈ results, result.Names fs location) →
    ∃ content mode content', fs.entry? location = some (.file content mode) ∧
      later.entry? location = some (.file content' (if config.keepPermissions then mode else 0o600))
  named : ∀ result ∈ results, result.success = true → ∃ location, result.Names fs location

namespace Reworked

theorem sameShape
    (h : Reworked config fs results later) :
    SameShape fs later := by
  refine ⟨h.workingDirectory, fun location => ?_⟩
  by_cases hnamed : ∃ result ∈ results, result.Names fs location
  · obtain ⟨content, mode, content', hbefore, hafter⟩ := h.rewritten location hnamed
    rw [hbefore, hafter]
    exact .files _ _ _ _
  · rw [h.kept location hnamed]
    exact .same _

theorem refl
    (config : Config) (fs : FileSystem) :
    Reworked config fs [] fs :=
  ⟨rfl, fun _ _ => rfl, by simp, by simp⟩

end Reworked

/-- Where a file is processed twice, its mode is settled the first time. -/
theorem Reworked.append
    (h : Reworked config fs results middle)
    (h' : Reworked config middle more later) :
    Reworked config fs (results ++ more) later := by
  have hnames : ∀ location, (∃ result ∈ results ++ more, result.Names fs location) ↔
      (∃ result ∈ results, result.Names fs location) ∨
        ∃ result ∈ more, result.Names middle location := by
    intro location
    simp only [List.mem_append, or_and_right, exists_or, FileResult.names_iff h.sameShape]
  refine ⟨h'.workingDirectory.trans h.workingDirectory, fun location hno => ?_, fun location hnamed => ?_,
    fun result hmem hsuccess => ?_⟩
  · rw [hnames, not_or] at hno
    rw [h'.kept location hno.2, h.kept location hno.1]
  · by_cases hsecond : ∃ result ∈ more, result.Names middle location
    · obtain ⟨content', mode', content'', hmiddle, hlater⟩ := h'.rewritten location hsecond
      by_cases hfirst : ∃ result ∈ results, result.Names fs location
      · obtain ⟨content, mode, content₁, hfs, hmiddle₁⟩ := h.rewritten location hfirst
        cases hmiddle.symm.trans hmiddle₁
        refine ⟨content, mode, content'', hfs, ?_⟩
        rw [hlater]
        split_ifs <;> rfl
      · rw [h.kept location hfirst] at hmiddle
        exact ⟨content', mode', content'', hmiddle, hlater⟩
    · have hfirst := ((hnames location).1 hnamed).resolve_right hsecond
      rw [h'.kept location hsecond]
      exact h.rewritten location hfirst
  · rcases List.mem_append.1 hmem with hfirst | hsecond
    · exact h.named result hfirst hsuccess
    · obtain ⟨location, hlocation⟩ := h'.named result hsecond hsuccess
      exact ⟨location, (FileResult.names_iff h.sameShape).1 hlocation⟩

/-- Processing one file. -/
theorem reworked_of_ranInPlace
    {worker : Nat}
    (hfs : fs.WellFormed)
    (h : RanInPlace config fs worker path later result) :
    Reworked config fs [result] later := by
  cases h with
  | failed hsame herror =>
    have hno : ∀ location, ¬∃ named ∈ [result], named.Names fs location := by
      rintro location ⟨named, hmem, hsuccess, -⟩
      rw [List.mem_singleton.1 hmem, herror] at hsuccess
      cases hsuccess
    refine ⟨hsame.workingDirectory, fun location _ => hsame.entry? location,
      fun location hnamed => absurd hnamed (hno location), fun named hmem hsuccess => ?_⟩
    rw [List.mem_singleton.1 hmem, herror] at hsuccess
    cases hsuccess
  | @published place content mode target hlookup hfault hpublished =>
    have hentry : fs.entry? place = some (.file content mode) :=
      holds_of_resolve (lookup_eq_ok_iff.1 hlookup)
    have hnames : ∀ location, (∃ named ∈ [(⟨path, some target, none,
        (sift config.rules content).counts⟩ : FileResult)], named.Names fs location) ↔
          location = place := by
      intro location
      simp only [List.mem_singleton, exists_eq_left, FileResult.Names, FileResult.success, hlookup]
      constructor
      · rintro ⟨-, entry, ⟨⟩⟩
        rfl
      · rintro rfl
        exact ⟨rfl, _, rfl⟩
    refine ⟨hpublished.workingDirectory, fun location hno => ?_, fun location hnamed => ?_,
      fun named hmem hsuccess => ?_⟩
    · exact hpublished.entry?_of_ne location fun heq => hno ((hnames location).2 heq)
    · cases (hnames location).1 hnamed
      refine ⟨content, mode, (sift config.rules content).bytes, hentry, ?_⟩
      rw [hpublished.entry?_self, publishedMode_of_lt (hfs.mode_lt _ _ _ hentry)]
    · cases List.mem_singleton.1 hmem
      exact ⟨place, rfl, _, hlookup⟩

end Dispatch
end LineSieve
