import LineSieve.Proofs.Canonical
import LineSieve.Proofs.Frame
import LineSieve.Proofs.Sights

/-!
# How a tree evolves

Whatever is processed, a directory stays a directory and a file stays a file; a symbolic link stays
or gives way to a file, and where nothing was there may be a directory or a file.  `Evolves` says so
of two states, and `evolves_run` that it holds of the states before and after one file is processed.

As long as all links stay, every path leads where it led before.  A link can only give way when
something is published in its place, and nothing that is processed in place is.

Nothing is ever put in the place of the root, so two states with the same entries are the same.
-/

namespace LineSieve
namespace FileSystem

/-- What can become of a place in a tree. -/
inductive Becomes : Option Entry → Option Entry → Prop
  | stays (entry : Option Entry) :
      Becomes entry entry
  | made :
      Becomes none (some .directory)
  | published
      {old : Option Entry}
      (content : List UInt8) (mode : Nat)
      (h : old ≠ some .directory) :
      Becomes old (some (.file content mode))

namespace Becomes

variable {old new last : Option Entry} {link : Path}

theorem trans
    (h : Becomes old new)
    (h' : Becomes new last) :
    Becomes old last := by
  cases h' with
  | stays => exact h
  | made =>
    cases h with
    | stays => exact .made
  | published content mode hne =>
    refine .published content mode ?_
    rintro rfl
    cases h with
    | stays => exact hne rfl
    | published _ _ hne' => exact hne' rfl

theorem eq_of_directory
    (h : Becomes (some .directory) new) :
    new = some .directory := by
  cases h with
  | stays => rfl
  | published _ _ hne => exact absurd rfl hne

theorem isFile
    {entry : Entry}
    (h : Becomes (some entry) new)
    (hfile : entry.isFile = true) :
    ∃ entry', new = some entry' ∧ entry'.isFile = true := by
  cases h with
  | stays => exact ⟨entry, rfl, hfile⟩
  | published content mode => exact ⟨_, rfl, rfl⟩

theorem eq_or_file_of_link
    (h : Becomes (some (.link link)) new) :
    new = some (.link link) ∨ ∃ content mode, new = some (.file content mode) := by
  cases h with
  | stays => exact Or.inl rfl
  | published content mode => exact Or.inr ⟨content, mode, rfl⟩

/-- No link is made. -/
theorem eq_of_becomes_link
    (h : Becomes old (some (.link link))) :
    old = some (.link link) := by
  cases h
  rfl

end Becomes

/-- What can become of a tree. -/
structure Evolves (fs later : FileSystem) : Prop where
  workingDirectory : later.workingDirectory = fs.workingDirectory
  entry? : ∀ location, Becomes (fs.entry? location) (later.entry? location)

/-- Every symbolic link of a tree is there later, with the same target. -/
def KeepsLinks (fs later : FileSystem) : Prop :=
  ∀ location link, fs.entry? location = some (.link link) → later.entry? location = some (.link link)

variable {fs later last : FileSystem} {path : Path}

theorem KeepsLinks.refl
    (fs : FileSystem) :
    KeepsLinks fs fs := fun _ _ h => h

theorem KeepsLinks.trans
    (h : KeepsLinks fs later)
    (h' : KeepsLinks later last) :
    KeepsLinks fs last := fun location link hentry => h' location link (h location link hentry)

namespace Evolves

theorem refl
    (fs : FileSystem) :
    Evolves fs fs :=
  ⟨rfl, fun _ => .stays _⟩

theorem trans
    (h : Evolves fs later)
    (h' : Evolves later last) :
    Evolves fs last :=
  ⟨h'.workingDirectory.trans h.workingDirectory,
    fun location => (h.entry? location).trans (h'.entry? location)⟩

theorem of_sameTree
    (h : SameTree fs later) :
    Evolves fs later :=
  ⟨h.workingDirectory, fun location => by rw [h.entry?]; exact .stays _⟩

theorem of_makesDirectories
    {way : List Path}
    (h : MakesDirectories fs way later) :
    Evolves fs later := by
  refine ⟨h.workingDirectory, fun location => ?_⟩
  rcases h.entry? location with hsame | ⟨hnone, hmade, -⟩
  · rw [hsame]
    exact .stays _
  · rw [hnone, hmade]
    exact .made

theorem of_published
    {worker : Nat} {location : Location} {content : List UInt8} {mode : Nat}
    (hplace : fs.entry? location ≠ some .directory)
    (h : Process.Published fs later worker location (.file content mode)) :
    Evolves fs later := by
  refine ⟨h.workingDirectory, fun other => ?_⟩
  by_cases hother : other = location
  · rw [hother, h.entry?_self]
    exact .published content mode hplace
  · rw [h.entry?_of_ne other hother]
    exact .stays _

/-- A link that is there in the end has been there all the time. -/
theorem keepsLinks_split
    (h : Evolves fs later)
    (h' : Evolves later last)
    (hlinks : KeepsLinks fs last) :
    KeepsLinks fs later ∧ KeepsLinks later last := by
  constructor
  · intro location link hentry
    have hlast := hlinks location link hentry
    have hstep := h'.entry? location
    rw [hlast] at hstep
    exact hstep.eq_of_becomes_link
  · intro location link hentry
    have hstep := h.entry? location
    rw [hentry] at hstep
    exact hlinks location link hstep.eq_of_becomes_link

/-- If a link is lost, a file stands in its place. -/
theorem exists_file_of_not_keepsLinks
    (h : Evolves fs later)
    (hlost : ¬KeepsLinks fs later) :
    ∃ location link content mode, fs.entry? location = some (.link link) ∧
      later.entry? location = some (.file content mode) := by
  simp only [KeepsLinks, not_forall] at hlost
  obtain ⟨location, link, hentry, hgone⟩ := hlost
  have hstep := h.entry? location
  rw [hentry] at hstep
  rcases hstep.eq_or_file_of_link with hstays | ⟨content, mode, hfile⟩
  · exact absurd hstays hgone
  · exact ⟨location, link, content, mode, hentry, hfile⟩

theorem keeps
    (h : Evolves fs later)
    (hlinks : KeepsLinks fs later)
    {location : Location} {entry : Entry}
    (hkind : entry.isFile = false)
    (hentry : fs.entry? location = some entry) :
    later.entry? location = some entry := by
  cases entry with
  | file content mode => cases hkind
  | directory =>
    have hstep := h.entry? location
    rw [hentry] at hstep
    exact hstep.eq_of_directory
  | link link => exact hlinks location link hentry

/-- As long as the links stay, a path leads where it led before, and only a file may have changed. -/
theorem resolve
    (h : Evolves fs later)
    (hlinks : KeepsLinks fs later)
    {followLast : Bool} {location : Location} {entry : Entry}
    (hresolve : fs.resolve followLast path = .ok (.found location entry)) :
    ∃ entry', later.resolve followLast path = .ok (.found location entry') ∧
      entry'.isFile = entry.isFile ∧ (entry.isFile = false → entry' = entry) := by
  have hfits := fits_of_resolve hresolve
  have hentry : fs.entry? location = some entry := holds_of_resolve hresolve
  rw [resolve_of_fits _ hfits] at hresolve ⊢
  obtain ⟨entry', hfollow, hkind⟩ :=
    follow_found_of_kept (fun _ _ => h.keeps hlinks) (fun l e hfile he => by
      have hstep := h.entry? l
      rw [he] at hstep
      exact hstep.isFile hfile) hresolve
  refine ⟨entry', by rw [h.workingDirectory, hfollow], hkind, fun hnotfile => ?_⟩
  have hentry' : later.entry? location = some entry' := holds_of_follow hfollow
  rw [h.keeps hlinks hnotfile hentry] at hentry'
  exact (Option.some.inj hentry').symm

theorem lookup
    (h : Evolves fs later)
    (hlinks : KeepsLinks fs later)
    {location : Location} {entry : Entry}
    (hlookup : fs.lookup path = .ok (location, entry)) :
    ∃ entry', later.lookup path = .ok (location, entry') ∧ entry'.isFile = entry.isFile ∧
      (entry.isFile = false → entry' = entry) := by
  simp only [lookup_eq_ok_iff] at hlookup ⊢
  exact h.resolve hlinks hlookup

theorem isFile
    (h : Evolves fs later)
    (hlinks : KeepsLinks fs later)
    (hfile : fs.isFile path = true) :
    later.isFile path = true := by
  simp only [FileSystem.isFile, leadsTo] at hfile ⊢
  cases hlookup : fs.lookup path with
  | error e => rw [hlookup] at hfile; cases hfile
  | ok found =>
    rw [hlookup] at hfile
    obtain ⟨entry', hlater, hkind, -⟩ := h.lookup hlinks hlookup
    rw [hlater]
    exact hkind.trans hfile

theorem isDirectory
    (h : Evolves fs later)
    (hlinks : KeepsLinks fs later)
    (hdir : fs.isDirectory path = true) :
    later.isDirectory path = true := by
  simp only [FileSystem.isDirectory, leadsTo] at hdir ⊢
  cases hlookup : fs.lookup path with
  | error e => rw [hlookup] at hdir; cases hdir
  | ok found =>
    obtain ⟨location, entry⟩ := found
    rw [hlookup] at hdir
    obtain ⟨entry', hlater, -, hsame⟩ := h.lookup hlinks hlookup
    rw [hlater]
    cases entry with
    | directory => rw [hsame rfl]; rfl
    | _ => cases hdir

end Evolves

end FileSystem

namespace Process

open FileSystem

variable {config : Config} {fs made after : FileSystem} {worker : Nat} {mustExist : Bool}
  {root : Option Path} {path : Path} {result : FileResult}

/-- What processing a file does once the directories for its destination have been made: it fails and
leaves the tree as it is, or it publishes the processed content of its source. -/
inductive Ran (config : Config) (fs made : FileSystem) (worker : Nat) (root : Option Path)
    (path : Path) : FileSystem → FileResult → Prop
  | failed
      {after : FileSystem} {result : FileResult}
      (hsame : SameTree made after)
      (herror : result.success = false) :
      Ran config fs made worker root path after result
  | published
      {after : FileSystem} {target : Path} {location : Location} {content : List UInt8} {mode : Nat}
      (hplace : destination config fs root path = (made, .ok target))
      (hcontent : made.contentOf path = .ok content)
      (hmode : made.modeOf path = .ok mode)
      (hfault : (sift config.rules content).fault = none)
      (htarget : CanTake made target location)
      (h : Published made after worker location
        (.file (sift config.rules content).bytes (publishedMode config mode))) :
      Ran config fs made worker root path after
        ⟨path, some target, none, (sift config.rules content).counts⟩

/-- All that processing one file can do. -/
theorem run_cases
    (hfs : fs.WellFormed)
    (hfree : fs.scratch[worker]? = none) :
    (run config fs worker mustExist root path).1.scratch = fs.scratch ∧
      ∃ made, MakesDirectories fs (way config root path) made ∧ made.WellFormed ∧
        Ran config fs made worker root path (run config fs worker mustExist root path).1
          (run config fs worker mustExist root path).2 := by
  cases hcheck : checkPath fs mustExist path with
  | error e =>
    simp only [run, hcheck]
    exact ⟨trivial, fs, .refl fs _, hfs, .failed (.refl fs) rfl⟩
  | ok _ =>
    obtain ⟨hmakes, hmade⟩ := @makesDirectories_destination config fs root path hfs
    cases hdestination : destination config fs root path with
    | mk made outcome =>
      rw [hdestination] at hmakes hmade
      cases outcome with
      | error e =>
        simp only [run, hcheck, hdestination]
        exact ⟨hmakes.scratch, made, hmakes, hmade, .failed (.refl made) rfl⟩
      | ok target =>
        have hstill : made.scratch[worker]? = none := by rw [hmakes.scratch, hfree]
        obtain ⟨after, error, counts, hreplace, houtcome⟩ := replace_cases config path target hstill
        have herase := (erase_of_getElem?_eq_none hstill).trans hmakes.scratch
        simp only [run, hcheck, hdestination, hreplace]
        cases houtcome with
        | failed hgiven cause counts =>
          exact ⟨hgiven.scratch.trans herase, made, hmakes, hmade, .failed hgiven.sameTree rfl⟩
        | succeeded hcontent hmode hfault htarget hpublished =>
          exact ⟨hpublished.scratch.trans herase, made, hmakes, hmade,
            .published hdestination hcontent hmode hfault htarget hpublished⟩

theorem Ran.wellFormed
    (h : Ran config fs made worker root path after result)
    (hmade : made.WellFormed) :
    after.WellFormed := by
  cases h with
  | failed hsame => exact hmade.congr hsame
  | published hplace hcontent hmode hfault htarget hpublished =>
    exact wellFormed_of_published hmade htarget (publishedMode_lt config _) hpublished

theorem Ran.evolves
    (h : Ran config fs made worker root path after result) :
    Evolves made after := by
  cases h with
  | failed hsame => exact .of_sameTree hsame
  | published hplace hcontent hmode hfault htarget hpublished =>
    exact .of_published htarget.ne_directory hpublished

/-- In place no link gives way. -/
theorem Ran.keepsLinks
    (h : Ran config fs made worker root path after result)
    (hfs : fs.WellFormed)
    (hinPlace : config.output = .inPlace) :
    KeepsLinks made after := by
  cases h with
  | failed hsame =>
    intro location link hentry
    rwa [hsame.entry?]
  | published hplace hcontent hmode hfault htarget hpublished =>
    intro location link hentry
    simp only [destination, hinPlace, Prod.mk.injEq] at hplace
    obtain ⟨rfl, hplace⟩ := hplace
    rw [hpublished.entry?_of_ne location, hentry]
    rintro rfl
    exact entry?_ne_link_of_inPlaceTarget hfs hplace htarget link hentry

/-- Processing one file makes of a well-formed tree what can become of it. -/
theorem evolves_run
    (config : Config) (mustExist : Bool) (root : Option Path) (path : Path)
    (hfs : fs.WellFormed)
    (hfree : fs.scratch[worker]? = none) :
    Evolves fs (run config fs worker mustExist root path).1 ∧
      (run config fs worker mustExist root path).1.WellFormed ∧
      (run config fs worker mustExist root path).1.scratch = fs.scratch := by
  obtain ⟨hscratch, made, hmakes, hmade, hran⟩ :=
    @run_cases config fs worker mustExist root path hfs hfree
  exact ⟨(Evolves.of_makesDirectories hmakes).trans hran.evolves, hran.wellFormed hmade, hscratch⟩

theorem keepsLinks_run
    (mustExist : Bool) (root : Option Path) (path : Path)
    (hfs : fs.WellFormed)
    (hfree : fs.scratch[worker]? = none)
    (hinPlace : config.output = .inPlace) :
    KeepsLinks fs (run config fs worker mustExist root path).1 := by
  obtain ⟨-, made, hmakes, -, hran⟩ := @run_cases config fs worker mustExist root path hfs hfree
  exact KeepsLinks.trans (fun _ _ => hmakes.keeps) (hran.keepsLinks hfs hinPlace)

end Process

/-! ## The root -/

namespace FileSystem

variable {fs later : FileSystem}

/-- Trees with the same entries are the same.  `entry?` does not show what is stored under the location of
the root, so that is asked for by itself. -/
theorem eq_of_sameTree
    (h : SameTree fs later)
    (hroot : later.entries[([] : Location)]? = fs.entries[([] : Location)]?)
    (hscratch : later.scratch = fs.scratch) :
    later = fs := by
  have hentries : later.entries = fs.entries := by
    apply Std.ExtTreeMap.ext_getElem?
    intro location
    cases location with
    | nil => exact hroot
    | cons name directory => exact h.entry? (name :: directory)
  obtain ⟨entries, workingDirectory, scratch⟩ := fs
  obtain ⟨entries', workingDirectory', scratch'⟩ := later
  cases hentries
  cases hscratch
  cases h.workingDirectory
  rfl

theorem root_put
    {location : Location}
    (hne : location ≠ [])
    (fs : FileSystem) (entry : Entry) :
    (fs.put location entry).entries[([] : Location)]? = fs.entries[([] : Location)]? := by
  rw [put, Std.ExtTreeMap.getElem?_insert, if_neg]
  rwa [Std.LawfulEqCmp.compare_eq_iff_eq]

theorem root_makeDirectory
    {path : Path}
    (h : fs.makeDirectory path = .ok later) :
    later.entries[([] : Location)]? = fs.entries[([] : Location)]? := by
  unfold makeDirectory at h
  split at h <;> cases h
  next location hresolve =>
    have hvacant : fs.entry? location = none := holds_of_resolve hresolve
    have hne : fs.entry? location ≠ some .directory := by simp [hvacant]
    exact root_put (ne_nil_of_entry?_ne hne) fs _

theorem root_makeDirectoriesAt
    (fs : FileSystem) (paths : List Path) :
    (fs.makeDirectoriesAt paths).1.entries[([] : Location)]? = fs.entries[([] : Location)]? := by
  induction paths with
  | nil => rfl
  | cons path above ih =>
    rw [makeDirectoriesAt]
    by_cases hempty : path.text.isEmpty = true
    · rw [if_pos hempty]
    rw [if_neg hempty]
    cases hmake : fs.makeDirectory path with
    | ok later => exact root_makeDirectory hmake
    | error cause =>
      cases cause with
      | notFound =>
        simp only
        generalize fs.makeDirectoriesAt above = made at ih ⊢
        rcases made with ⟨middle, e | ⟨⟩⟩
        · exact ih
        · simp only
          cases hagain : middle.makeDirectory path with
          | error cause => exact ih
          | ok later =>
            simp only
            rw [root_makeDirectory hagain, ih]
      | _ => rfl

/-- Nothing is published in the place of the root. -/
theorem root_publishScratch
    {worker : Nat} {path : Path}
    (h : fs.publishScratch worker path = .ok later) :
    later.entries[([] : Location)]? = fs.entries[([] : Location)]? := by
  cases hs : fs.scratch[worker]? with
  | none => simp [publishScratch, hs] at h
  | some s =>
    obtain ⟨location, htarget⟩ := Process.canTake_of_publishScratch hs h
    rw [Process.publishScratch_of_canTake hs htarget] at h
    cases h
    rw [entries_discardScratch]
    exact root_put (ne_nil_of_entry?_ne htarget.ne_directory) fs _

end FileSystem

namespace Process

open FileSystem

variable {config : Config} {fs later : FileSystem} {worker : Nat} {path target : Path}

theorem root_publish
    (h : publish config fs worker path target = .ok later) :
    later.entries[([] : Location)]? = fs.entries[([] : Location)]? := by
  unfold publish at h
  by_cases hkeep : config.keepPermissions = true
  · cases hmode : fs.modeOf path with
    | error e =>
      simp only [hkeep, if_true, hmode] at h
      cases h
    | ok mode =>
      simp only [hkeep, if_true, hmode] at h
      split at h
      next hpublish =>
        cases h
        rw [root_publishScratch hpublish, entries_setScratchMode]
      next => cases h
  · simp only [hkeep, Bool.false_eq_true, if_false] at h
    split at h
    next hpublish =>
      cases h
      exact root_publishScratch hpublish
    next => cases h

theorem root_fill
    (config : Config) (fs : FileSystem) (worker : Nat) (path target : Path) :
    (fill config fs worker path target).1.entries[([] : Location)]? =
      fs.entries[([] : Location)]? := by
  unfold fill
  split
  · rw [entries_discardScratch]
  next content hcontent =>
    simp only
    split
    · rw [entries_discardScratch, entries_appendScratch]
    · split
      next published hpublish => rw [root_publish hpublish, entries_appendScratch]
      next => rw [entries_discardScratch, entries_appendScratch]

theorem root_destination
    (root : Option Path) (path : Path) :
    (destination config fs root path).1.entries[([] : Location)]? =
      fs.entries[([] : Location)]? := by
  unfold destination
  split
  · rfl
  · split
    · rfl
    · split
      · rfl
      next parent _ =>
        have hmade := root_makeDirectoriesAt fs parent.ancestors
        simp only [makeDirectories]
        generalize fs.makeDirectoriesAt parent.ancestors = made at hmade ⊢
        rcases made with ⟨middle, e | ⟨⟩⟩ <;> exact hmade

theorem root_run
    (worker : Nat) (mustExist : Bool) (root : Option Path) (path : Path) :
    (run config fs worker mustExist root path).1.entries[([] : Location)]? =
      fs.entries[([] : Location)]? := by
  unfold run
  cases checkPath fs mustExist path with
  | error e => rfl
  | ok _ =>
    have hmade := @root_destination config fs root path
    simp only
    generalize destination config fs root path = made at hmade ⊢
    rcases made with ⟨middle, e | target⟩
    · exact hmade
    · simp only [replace]
      cases hcreate : middle.createScratch worker (scratchDirectory target) with
      | error e => exact hmade
      | ok created =>
        show (fill config created worker path target).1.entries[([] : Location)]? = _
        rw [root_fill, entries_createScratch hcreate, hmade]

end Process
end LineSieve
