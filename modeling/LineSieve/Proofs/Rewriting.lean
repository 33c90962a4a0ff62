import LineSieve.Proofs.Processing
import LineSieve.Proofs.Sifting

/-!
# Processing a file in place

A file that is no symbolic link is its own destination, and the directory in which it lies takes the
scratch file.  So nothing but its content decides what becomes of it: processing succeeds exactly if
the content is text as a whole, and then the file holds the text rewritten as a whole, however it
was cut into chunks.
-/

namespace LineSieve

open FileSystem

variable {config : Config} {fs : FileSystem} {path : Path}

namespace Process

/-- A path to something but a link is its own target. -/
theorem inPlaceTarget_of_points
    {name : List Char} {directory : Location} {entry : Entry}
    (h : Points fs path name directory)
    (hentry : fs.entry? (name :: directory) = some entry)
    (hlink : entry.isLink = false) :
    inPlaceTarget fs path = .ok path := by
  have hno : fs.isLink path = false := by
    rw [isLink, lookupLink, h.resolve_eq hentry (Or.inl rfl), answer]
    cases refusal? path <;> simp [hlink]
  rw [inPlaceTarget, hno]
  rfl

/-- Where a file stands, it can be replaced. -/
theorem canTake_of_locates
    {name : List Char} {directory : Location} {content : List UInt8} {mode : Nat}
    (h : Locates fs path name directory)
    (hentry : fs.entry? (name :: directory) = some (.file content mode)) :
    CanTake fs path (name :: directory) :=
  Or.inr ⟨_, by simp, h.resolve_found hentry (Or.inl rfl)⟩

/-- Processing a file in place is filling a new scratch file beside it. -/
theorem run_inPlace
    {name : List Char} {directory : Location} {content : List UInt8} {mode : Nat}
    (worker : Nat) (mustExist : Bool) (root : Option Path)
    (hplace : config.output = .inPlace)
    (hblank : path.isBlank = false)
    (h : Locates fs path name directory)
    (hentry : fs.entry? (name :: directory) = some (.file content mode)) :
    ∃ middle, SameBut worker fs middle ∧
      middle.scratch[worker]? = some ⟨directory, [], scratchMode⟩ ∧
      run config fs worker mustExist root path =
        ((fill config middle worker path path).1,
          ⟨path, some path, (fill config middle worker path path).2.1,
            (fill config middle worker path path).2.2⟩) := by
  have hcheck : checkPath fs mustExist path = .ok () := by
    have hfile : fs.isFile path = true := by
      rw [isFile, leadsTo, h.lookup_eq hentry rfl]
      rfl
    rw [checkPath, hblank, hfile]
    simp
  refine ⟨_, sameBut_newScratch fs worker ⟨directory, [], scratchMode⟩,
    Std.ExtTreeMap.getElem?_insert_self, ?_⟩
  simp only [run, hcheck, destination, hplace, inPlaceTarget_of_points h.toPoints hentry rfl, replace,
    createScratch_of_lookup (lookup_scratchDirectory_of_locates h)]

end Process

theorem exists_locates_of_lookupLink
    (hfs : fs.WellFormed)
    {location : Location} {content : List UInt8} {mode : Nat}
    (h : fs.lookupLink path = .ok (location, .file content mode)) :
    ∃ name directory, location = name :: directory ∧ Locates fs path name directory ∧
      fs.entry? (name :: directory) = some (.file content mode) := by
  have hresolve := lookupLink_eq_ok_iff.1 h
  obtain ⟨name, hlast⟩ := hfs.exists_name_of_resolve hresolve (by simp)
  obtain ⟨directory, hlocates, ⟨-, hvacant⟩ | ⟨entry, hentry, hfound⟩⟩ :=
    exists_locates_of_resolve hlast hresolve
  · cases hvacant
  · cases hfound
    exact ⟨name, directory, rfl, hlocates, hentry⟩

/-- Processing a file in place succeeds exactly if its whole content is text, and then the file
holds the whole text rewritten, and every line is counted under what happened to it. -/
theorem processFile_inPlace
    {location : Location} {content : List UInt8} {mode : Nat}
    (hfs : fs.WellFormed)
    (hplace : config.output = .inPlace)
    (hblank : path.isBlank = false)
    (hfile : fs.lookupLink path = .ok (location, .file content mode)) :
    ((processFile config fs path).2.success = true ↔ ∃ text, content = Utf8.encode text) ∧
      ∀ text, content = Utf8.encode text →
        (processFile config fs path).1.lookupLink path =
            .ok (location, .file (Utf8.encode (Text.rewritten config.rules text))
              (Process.publishedMode config mode)) ∧
          (∀ action, (processFile config fs path).2.counts.get action =
            (Text.actions config.rules text).count action) ∧
          (processFile config fs path).2.counts.total =
            (Text.lines (Text.withoutMark text)).length := by
  obtain ⟨name, directory, rfl, hlocates, hentry⟩ := exists_locates_of_lookupLink hfs hfile
  obtain ⟨middle, hsame, hscratch, hrun⟩ :=
    Process.run_inPlace 0 true none hplace hblank hlocates hentry
  rw [processFile, hrun]
  have hlookup := hlocates.lookup_eq hentry rfl
  have hcontent : middle.contentOf path = .ok content := by
    rw [hsame.sameTree.contentOf, contentOf, hlookup]
  have hmode : middle.modeOf path = .ok mode := by
    rw [hsame.sameTree.modeOf, modeOf, hlookup]
  cases hfault : (sift config.rules content).fault with
  | some fault =>
    have hno : ¬∃ text, content = Utf8.encode text := by
      rw [← sift_fault_eq_none_iff config.rules, hfault]
      simp
    refine ⟨iff_of_false ?_ hno, fun text htext => absurd ⟨text, htext⟩ hno⟩
    rw [FileResult.success, Process.fill_of_fault hcontent hfault]
    simp
  | none =>
    obtain ⟨after, hfill, hafter⟩ := Process.fill_of_sights hscratch rfl rfl hcontent hfault
      (fun _ => hmode) ((Process.canTake_of_locates hlocates hentry).congr hsame.sameTree)
    have hpublished := hafter.of_sameBut hsame
    rw [hfill]
    refine ⟨iff_of_true rfl ((sift_fault_eq_none_iff config.rules content).1 hfault), ?_⟩
    rintro text rfl
    refine ⟨?_, sift_encode_get config.rules text, sift_encode_total config.rules text⟩
    have hkeep : ∀ l e, e.isFile = false → fs.entry? l = some e → after.entry? l = some e := by
      intro l e hnotfile hl
      rw [hpublished.entry?_of_ne l, hl]
      rintro rfl
      rw [hentry] at hl
      cases hl
      cases hnotfile
    have hfound := (hlocates.mono hpublished.workingDirectory hkeep).resolve_found
      hpublished.entry?_self (Or.inl rfl)
    rw [lookupLink, hfound, sift_encode_bytes]

theorem processFile_inPlace_one_file :
    (withFile ['a'] (Utf8.encode ['x', '\r', 'y']) 0o644).WellFormed ∧
      (processFile ⟨[], .inPlace, .sequential, true⟩
        (withFile ['a'] (Utf8.encode ['x', '\r', 'y']) 0o644) ⟨['a']⟩).2.success = true := by
  have hfs : (withFile ['a'] (Utf8.encode ['x', '\r', 'y']) 0o644).WellFormed :=
    wellFormed_withFile _ ⟨by decide, by decide, by decide⟩ (by decide) (by decide) (by decide)
  have hfile : (withFile ['a'] (Utf8.encode ['x', '\r', 'y']) 0o644).lookupLink ⟨['a']⟩ =
      .ok ([['a']], .file (Utf8.encode ['x', '\r', 'y']) 0o644) := by decide
  exact ⟨hfs, (processFile_inPlace hfs rfl (by decide) hfile).1.2 ⟨['x', '\r', 'y'], rfl⟩⟩

/-- A file whose name is blank is refused, whatever it holds. -/
theorem processFile_inPlace_blank_name :
    (withFile [' '] (Utf8.encode ['a', '\n']) 0o644).lookupLink ⟨[' ']⟩ =
        .ok ([[' ']], .file (Utf8.encode ['a', '\n']) 0o644) ∧
      (processFile ⟨[], .inPlace, .sequential, true⟩
        (withFile [' '] (Utf8.encode ['a', '\n']) 0o644) ⟨[' ']⟩).2.success = false := by
  decide

end LineSieve
