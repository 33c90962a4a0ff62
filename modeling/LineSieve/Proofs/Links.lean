import LineSieve.Proofs.Shape
import LineSieve.Proofs.Spelling

/-!
# Processing through links

A file can be reached through any number of links, at the end of its path and on the way.  What is
replaced in place is found by following the links only if the last step of the path is one, and then by
the absolute path, while the content, the mode and the directory of the scratch file are looked up by
paths of their own.  All of them lead to the same file: `processFile_through_links` says that processing
a path is processing its absolute path, and that every link stays.

A path may also lead nowhere, because a link on it leads to a place where nothing is, or because its links
go round.  Such a path is not found.
-/

namespace LineSieve

open FileSystem

/-! ## Paths that lead nowhere -/

namespace FileSystem

variable {fs : FileSystem} {path : Path}

/-- Links followed along a path lead to a place where nothing is, or past one. -/
def Dangles (fs : FileSystem) (path : Path) : Prop :=
  ∃ allowed, fs.follow true allowed fs.workingDirectory path.steps = .error .notFound ∨
    ∃ place, fs.follow true allowed fs.workingDirectory path.steps = .ok (.vacant place)

/-- However many links are followed along a path, there is one more. -/
def Loops (fs : FileSystem) (path : Path) : Prop :=
  ∀ allowed, fs.follow true allowed fs.workingDirectory path.steps = .error .tooManyLinks

/-- Where steps lead with one allowance of links, they lead with any other one that is enough. -/
theorem Follows.follow_eq_or
    {followLast : Bool} {allowed : Nat} {location : Location} {steps : List Component}
    {resolved : Resolved}
    (h : Follows fs followLast allowed location steps resolved)
    (other : Nat) :
    fs.follow followLast other location steps = .ok resolved ∨
      fs.follow followLast other location steps = .error .tooManyLinks := by
  induction h generalizing other with
  | done hentry => rw [follow_nil, hentry]; exact Or.inl rfl
  | root hdir _ ih => rw [follow_root _ _ _ hdir]; exact ih other
  | here hdir _ ih => rw [follow_here _ _ _ hdir]; exact ih other
  | up hdir _ ih => rw [follow_up _ _ _ hdir]; exact ih other
  | vacant hdir hlen hentry => exact Or.inl (follow_single_vacant _ _ hdir hlen hentry)
  | stop hdir hlen hentry hlast =>
    exact Or.inl (follow_single_found _ hdir hlen hentry (Or.inl hlast))
  | jump hdir hlen hentry hgo _ ih =>
    rw [follow_name _ _ hdir hlen, hentry]
    simp only [hgo, Bool.false_eq_true, if_false]
    cases other with
    | zero => exact Or.inr rfl
    | succ other => exact ih other
  | @enter allowed location name rest entry resolved hdir hlen hentry hkind _ ih =>
    rw [follow_name _ _ hdir hlen, hentry]
    cases entry with
    | link path => cases hkind
    | _ => exact ih other

theorem lookup_ne_of_leads_nowhere
    (h : Dangles fs path ∨ Loops fs path)
    (found : Location × Entry) :
    fs.lookup path ≠ .ok found := by
  intro hlookup
  have hresolve := lookup_eq_ok_iff.1 hlookup
  rw [resolve_of_fits _ (fits_of_resolve hresolve)] at hresolve
  rcases h with ⟨allowed, hdangles⟩ | hloops
  · have hother := (follows_of_follow hresolve).follow_eq_or allowed
    rcases hdangles with hnone | ⟨place, hvacant⟩
    · rw [hnone] at hother
      simp at hother
    · rw [hvacant] at hother
      simp at hother
  · rw [hloops] at hresolve
    cases hresolve

/-- A path that leads to a file ends in a name, which is that of the file or of a link. -/
theorem exists_locates_of_lookup
    (hfs : fs.WellFormed)
    {location : Location} {content : List UInt8} {mode : Nat}
    (h : fs.lookup path = .ok (location, .file content mode)) :
    ∃ name directory entry, Locates fs path name directory ∧
      fs.entry? (name :: directory) = some entry ∧
      (entry.isLink = true ∨ location = name :: directory ∧ entry = .file content mode) := by
  have hresolve := lookup_eq_ok_iff.1 h
  obtain ⟨name, hlast⟩ := hfs.exists_name_of_resolve hresolve (by simp)
  obtain ⟨init, hinit⟩ := List.getLast?_eq_some_iff.1 hlast
  have hfits := fits_of_resolve hresolve
  rw [resolve_of_fits _ hfits, hinit] at hresolve
  obtain ⟨directory, links, hle, hwalks, hdir, hrest⟩ :=
    exists_walks_of_follow (Or.inl (by simp)) hresolve
  rcases Nat.lt_or_ge nameLimit (Utf8.encode name).length with hlen | hlen
  · rw [follow_long_name _ _ _ hdir hlen] at hrest
    cases hrest
  have hlocates : Locates fs path name directory := by
    refine ⟨⟨hlast, hlen, hdir, init.filter (· ≠ .here), links, ?_, hle, ?_⟩, hfits⟩
    · rw [Path.trail, hinit, List.filter_append]
      rfl
    · rwa [Walks.filter_iff hdir]
  cases hentry : fs.entry? (name :: directory) with
  | none =>
    rw [follow_single_vacant _ _ hdir hlen hentry] at hrest
    cases hrest
  | some entry =>
    refine ⟨name, directory, entry, hlocates, hentry, ?_⟩
    cases hlink : entry.isLink with
    | true => exact Or.inl rfl
    | false =>
      rw [follow_single_found _ hdir hlen hentry (Or.inr hlink)] at hrest
      cases hrest
      exact Or.inr ⟨rfl, rfl⟩

/-- The absolute path of a file locates it. -/
theorem locates_of_canonicalize
    (hfs : fs.WellFormed)
    {name : List Char} {directory : Location} {entry : Entry} {canonical : Path}
    (hlookup : fs.lookup path = .ok (name :: directory, entry))
    (hcanonical : fs.canonicalize path = .ok canonical) :
    Locates fs canonical name directory ∧ canonical.isBlank = false := by
  obtain ⟨_, _, hlookup', rfl, hlen⟩ := canonicalize_eq_ok_iff.1 hcanonical
  cases hlookup.symm.trans hlookup'
  have hentry : fs.entry? (name :: directory) = some entry :=
    holds_of_resolve (lookup_eq_ok_iff.1 hlookup)
  have hsome : fs.entry? (name :: directory) ≠ none := by simp [hentry]
  have hproper : Walk.Proper (name :: directory) :=
    hfs.proper (show fs.entry? (name :: directory ++ []) ≠ none by rwa [List.append_nil])
  have hslash := absolutePath_eq_pathBelow hproper
  have hblank : (absolutePath (name :: directory)).isBlank = false := by
    rw [hslash]
    exact Dispatch.InPlace.isBlank_eq_false (by decide) hproper
  refine ⟨⟨points_absolutePath hfs hsome, ?_, ?_, hlen⟩, hblank⟩
  · rw [hslash]
    exact @Walk.nul_not_mem_pathBelow fs ⟨['/']⟩ [] (name :: directory) hfs (by decide)
      (by rwa [List.append_nil])
  · intro hempty
    rw [Path.isBlank, hempty] at hblank
    cases hblank

end FileSystem

/-! ## Paths that lead to a file -/

namespace Process

variable {config : Config} {fs : FileSystem} {path canonical target : Path} {location : Location}
  {content : List UInt8} {mode : Nat}

/-- What is replaced in place of a file. -/
theorem run_of_inPlaceTarget
    (worker : Nat) (root : Option Path)
    (hinPlace : config.output = .inPlace)
    (hblank : path.isBlank = false)
    (hlookup : fs.lookup path = .ok (location, .file content mode))
    (htarget : inPlaceTarget fs path = .ok target) :
    run config fs worker true root path =
      ((replace config fs worker path target).1,
        ⟨path, some target, (replace config fs worker path target).2.1,
          (replace config fs worker path target).2.2⟩) := by
  have hcheck : checkPath fs true path = .ok () := by
    have hfile : fs.isFile path = true := by
      rw [isFile, leadsTo, hlookup]
      rfl
    rw [checkPath, hblank, hfile]
    rfl
  simp only [run, hcheck, destination, hinPlace, htarget]

/-- A path that leads to no entry is not found. -/
theorem run_of_no_lookup
    (config : Config) (worker : Nat) (root : Option Path)
    (hblank : path.isBlank = false)
    (hnone : ∀ found, fs.lookup path ≠ .ok found) :
    run config fs worker true root path = (fs, ⟨path, none, some (.notFound path), .zero⟩) := by
  have hfile : fs.isFile path = false := by
    rw [isFile, leadsTo]
    cases hlookup : fs.lookup path with
    | error e => rfl
    | ok found => exact absurd hlookup (hnone found)
  have hcheck : checkPath fs true path = .error (.notFound path) := by
    rw [checkPath, hblank, hfile]
    rfl
  simp only [run, hcheck]

/-- The file that a path leads to is replaced at its absolute path, or at a path that leads the same
way. -/
theorem exists_inPlaceTarget
    (hfs : fs.WellFormed)
    (hlookup : fs.lookup path = .ok (location, .file content mode))
    (hcanonical : fs.canonicalize path = .ok canonical) :
    ∃ target, inPlaceTarget fs path = .ok target ∧ SameWay fs target canonical ∧
      fs.lookup (scratchDirectory target) = fs.lookup (scratchDirectory canonical) := by
  obtain ⟨name, directory, entry, hlocates, hentry, hlink | ⟨rfl, rfl⟩⟩ :=
    exists_locates_of_lookup hfs hlookup
  · have hislink : fs.isLink path = true := by
      rw [isLink, lookupLink, hlocates.resolve_found hentry (Or.inl rfl)]
      exact hlink
    exact ⟨canonical, inPlaceTarget_eq_ok_iff.2 (by rwa [if_pos hislink]), .refl fs canonical, rfl⟩
  · obtain ⟨hcanon, -⟩ := locates_of_canonicalize hfs hlookup hcanonical
    refine ⟨path, inPlaceTarget_of_points hlocates.toPoints hentry rfl,
      .of_points hlocates.toPoints hcanon.toPoints hentry rfl ?_, ?_⟩
    · rw [refusal?_eq_none_of_fits hlocates.fits, refusal?_eq_none_of_fits hcanon.fits]
    · rw [lookup_scratchDirectory_of_locates hlocates, lookup_scratchDirectory_of_locates hcanon]

end Process

section Through

open Process

variable {config : Config} {fs : FileSystem} {path canonical : Path} {location : Location}
  {content : List UInt8} {mode : Nat}

theorem sameOutcome_of_canonicalize
    (hfs : fs.WellFormed)
    (hinPlace : config.output = .inPlace)
    (hblank : path.isBlank = false)
    (hlookup : fs.lookup path = .ok (location, .file content mode))
    (hcanonical : fs.canonicalize path = .ok canonical) :
    SameOutcome
      ((processFile config fs path).1, (processFile config fs path).2.error,
        (processFile config fs path).2.counts)
      ((processFile config fs canonical).1, (processFile config fs canonical).2.error,
        (processFile config fs canonical).2.counts) := by
  obtain ⟨target, htarget, hway, hdirectory⟩ := exists_inPlaceTarget hfs hlookup hcanonical
  have hentry : fs.entry? location = some (.file content mode) :=
    holds_of_resolve (lookup_eq_ok_iff.1 hlookup)
  cases location with
  | nil => cases hentry
  | cons name directory =>
    obtain ⟨hlocates, hblank'⟩ := locates_of_canonicalize hfs hlookup hcanonical
    have hlookup' := hlocates.lookup_eq hentry rfl
    have houtcome := replace_of_sameWay config 0 (hlookup.trans hlookup'.symm) hway hdirectory
    rw [processFile, processFile, run_of_inPlaceTarget 0 none hinPlace hblank hlookup htarget,
      run_of_inPlaceTarget 0 none hinPlace hblank' hlookup'
        (inPlaceTarget_of_points hlocates.toPoints hentry rfl)]
    exact houtcome

/-- A path that has been processed leads to what has been published. -/
theorem lookup_of_success
    (hfs : fs.WellFormed)
    (hfree : fs.scratch[0]? = none)
    (hinPlace : config.output = .inPlace)
    (hlookup : fs.lookup path = .ok (location, .file content mode))
    (hsuccess : (processFile config fs path).2.success = true) :
    (processFile config fs path).1.lookup path =
      .ok (location, .file (sift config.rules content).bytes
        (if config.keepPermissions then mode else scratchMode)) := by
  have hran := ranInPlace_run true none path hfs hfree hinPlace
  have hshape := (Dispatch.reworked_of_ranInPlace hfs hran).sameShape
  rw [processFile] at hsuccess ⊢
  generalize run config fs 0 true none path = ran at hsuccess hran hshape ⊢
  obtain ⟨after, result⟩ := ran
  cases hran with
  | failed hsame herror =>
    rw [herror] at hsuccess
    cases hsuccess
  | published target hlookup' hfault hpublished =>
    cases hlookup.symm.trans hlookup'
    obtain ⟨entry, hlater⟩ := hshape.lookup hlookup
    have hentry : after.entry? location = some entry := holds_of_resolve (lookup_eq_ok_iff.1 hlater)
    cases hentry.symm.trans hpublished.entry?_self
    have hmode := hfs.mode_lt _ _ _ (holds_of_resolve (lookup_eq_ok_iff.1 hlookup))
    rw [hlater, publishedMode_of_lt hmode]
    rfl

/-- Processing a path in place, whatever links it leads through, is processing the absolute path of the
file to which it leads: with the same success, counts and cause of a failure, and the same state of the
tree.  All links stay.  After a success the path leads to what has been published, which has the mode of
the file to which the path has led before.  A path whose links dangle or form a loop is not found, and
nothing is changed. -/
theorem processFile_through_links
    (hfs : fs.WellFormed)
    (hfree : fs.scratch[0]? = none)
    (hinPlace : config.output = .inPlace)
    (hblank : path.isBlank = false) :
    (∀ location content mode, fs.lookup path = .ok (location, .file content mode) →
      (∀ canonical, fs.canonicalize path = .ok canonical →
        (processFile config fs canonical).2.success = (processFile config fs path).2.success ∧
        (processFile config fs canonical).2.counts = (processFile config fs path).2.counts ∧
        SameFailure (processFile config fs path).2.error (processFile config fs canonical).2.error ∧
        (processFile config fs canonical).1 = (processFile config fs path).1) ∧
      KeepsLinks fs (processFile config fs path).1 ∧
      ((processFile config fs path).2.success = true →
        (processFile config fs path).1.lookup path =
          .ok (location, .file (sift config.rules content).bytes
            (if config.keepPermissions then mode else scratchMode)))) ∧
    (Dangles fs path ∨ Loops fs path →
      processFile config fs path = (fs, ⟨path, none, some (.notFound path), .zero⟩)) := by
  refine ⟨fun location content mode hlookup => ⟨fun canonical hcanonical => ?_, ?_, ?_⟩,
    fun hnowhere => ?_⟩
  · have hsame := sameOutcome_of_canonicalize hfs hinPlace hblank hlookup hcanonical
    have hfailure := hsame.failure
    refine ⟨?_, hsame.counts, hfailure, hsame.fs⟩
    rw [FileResult.success, FileResult.success]
    simp only at hfailure
    generalize (processFile config fs path).2.error = error at hfailure ⊢
    generalize (processFile config fs canonical).2.error = error' at hfailure ⊢
    cases hfailure <;> rfl
  · exact keepsLinks_run true none path hfs hfree hinPlace
  · exact lookup_of_success hfs hfree hinPlace hlookup
  · exact run_of_no_lookup config 0 none hblank (lookup_ne_of_leads_nowhere hnowhere)

/-- A file behind a relative link and an absolute one, and a link to itself. -/
def chainTree : FileSystem :=
  (((withFile ['a'] (Utf8.encode ['x', '\n']) 0o640).put [['l']] (.link ⟨['a']⟩)).put [['m']]
    (.link ⟨['/', 'l']⟩)).put [['o']] (.link ⟨['o']⟩)

theorem wellFormed_chainTree :
    chainTree.WellFormed := by
  have hfile : (withFile ['a'] (Utf8.encode ['x', '\n']) 0o640).WellFormed :=
    wellFormed_withFile _ ⟨by decide, by decide, by decide⟩ (by decide) (by decide) (by decide)
  refine ((hfile.put rfl (by decide) ⟨by decide, by decide, by decide⟩ (by decide) (by decide) ?_).put
    rfl (by decide) ⟨by decide, by decide, by decide⟩ (by decide) (by decide) ?_).put
    rfl (by decide) ⟨by decide, by decide, by decide⟩ (by decide) (by decide) ?_
  all_goals
    intro content mode h
    cases h

theorem loops_chainTree :
    Loops chainTree ⟨['o']⟩ := by
  intro allowed
  have hentry : chainTree.entry? [['o']] = some (.link ⟨['o']⟩) := by decide
  have hstart : chainTree.workingDirectory = [] := rfl
  have hsteps : (⟨['o']⟩ : Path).steps = [.name ['o']] := rfl
  rw [hstart, hsteps]
  induction allowed with
  | zero => rw [follow_name _ _ rfl (by decide), hentry]; rfl
  | succ allowed ih =>
    rw [follow_name _ _ rfl (by decide), hentry]
    exact ih

theorem processFile_through_links_chain :
    (processFile ⟨[], .inPlace, .sequential, true⟩ chainTree ⟨['m']⟩).1.lookup ⟨['m']⟩ =
        .ok ([['a']], .file (Utf8.encode ['x', '\n']) 0o640) ∧
      (processFile ⟨[], .inPlace, .sequential, true⟩ chainTree ⟨['/', 'a']⟩).1 =
        (processFile ⟨[], .inPlace, .sequential, true⟩ chainTree ⟨['m']⟩).1 ∧
      processFile ⟨[], .inPlace, .sequential, true⟩ chainTree ⟨['o']⟩ =
        (chainTree, ⟨⟨['o']⟩, none, some (.notFound ⟨['o']⟩), .zero⟩) := by
  have hfree : chainTree.scratch[0]? = none := Std.ExtTreeMap.getElem?_empty
  obtain ⟨hcanonical, -, hmode⟩ :=
    (@processFile_through_links ⟨[], .inPlace, .sequential, true⟩ _ ⟨['m']⟩ wellFormed_chainTree hfree
      rfl (by decide)).1 [['a']] (Utf8.encode ['x', '\n']) 0o640 (by decide)
  refine ⟨hmode (by decide +kernel), (hcanonical ⟨['/', 'a']⟩ (by decide)).2.2.2, ?_⟩
  exact (processFile_through_links wellFormed_chainTree hfree rfl (by decide)).2 (Or.inr loops_chainTree)

/-- A file with a blank name is refused, and by its absolute path it is not. -/
theorem processFile_refuses_blank_name :
    (withFile [' '] (Utf8.encode ['a', '\n']) 0o644).canonicalize ⟨[' ']⟩ = .ok ⟨['/', ' ']⟩ ∧
      (processFile ⟨[], .inPlace, .sequential, true⟩
        (withFile [' '] (Utf8.encode ['a', '\n']) 0o644) ⟨[' ']⟩).2.success = false ∧
      (processFile ⟨[], .inPlace, .sequential, true⟩
        (withFile [' '] (Utf8.encode ['a', '\n']) 0o644) ⟨['/', ' ']⟩).2.success = true := by
  decide +kernel

end Through
end LineSieve
