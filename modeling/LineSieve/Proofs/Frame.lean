import LineSieve.Proofs.Directories
import LineSieve.Proofs.Processing
import LineSieve.Proofs.Sifting

/-!
# What processing one file leaves alone

Working out the destination may make directories on the way to it.  After that a failure changes
nothing more, and a success changes the one entry to which the destination leads.  No scratch file
is left behind in either case.
-/

namespace LineSieve
namespace Process

open FileSystem

variable {config : Config} {fs : FileSystem} {worker : Nat} {mustExist : Bool} {root : Option Path}
  {path : Path}

/-- The paths at which a directory may be made for the destination of a file. -/
def way (config : Config) (root : Option Path) (path : Path) : List Path :=
  match config.output with
  | .inPlace => []
  | .directory directory layout =>
    match (outputPath? directory layout root path).bind directoryOf? with
    | none => []
    | some parent => parent.ancestors

theorem makesDirectories_destination
    (hfs : fs.WellFormed) :
    MakesDirectories fs (way config root path) (destination config fs root path).1 ∧
      (destination config fs root path).1.WellFormed := by
  have hsame : ∀ way, MakesDirectories fs way fs ∧ fs.WellFormed := fun way => ⟨.refl fs way, hfs⟩
  unfold destination way
  cases houtput : config.output with
  | inPlace => exact hsame _
  | directory directory layout =>
    cases htarget : outputPath? directory layout root path with
    | none => simpa only [htarget] using hsame _
    | some target =>
      cases hparent : directoryOf? target with
      | none => simpa only [htarget, Option.bind_some, hparent] using hsame _
      | some parent =>
        simp only [htarget, Option.bind_some, hparent]
        have hmakes := makesDirectories_makeDirectoriesAt hfs parent.ancestors
        unfold makeDirectories
        generalize fs.makeDirectoriesAt parent.ancestors = made at hmakes ⊢
        rcases made with ⟨middle, error | ⟨⟩⟩ <;> exact hmakes

/-- The bits that can be set are all bits that a mode in a well-formed tree has. -/
theorem publishedMode_of_lt
    {mode : Nat}
    (h : mode < 0o10000) :
    publishedMode config mode = if config.keepPermissions then mode else 0o600 := by
  rw [publishedMode, permissionBits, Nat.mod_eq_of_lt h]
  rfl

/-- Processing one file makes at most directories on the way to its destination and, if it succeeds,
turns the one entry to which the destination leads into a file with the processed content.
Everything else stays as it was, also what a link in that place leads to, and so do the scratch
files. -/
theorem run_frame
    (hfs : fs.WellFormed)
    (hfree : fs.scratch[worker]? = none) :
    (run config fs worker mustExist root path).1.scratch = fs.scratch ∧
      ∃ made, MakesDirectories fs (way config root path) made ∧
        ((run config fs worker mustExist root path).2.success = false →
          SameTree made (run config fs worker mustExist root path).1) ∧
        ((run config fs worker mustExist root path).2.success = true →
          ∃ destination location source text mode,
            (run config fs worker mustExist root path).2.outputPath = some destination ∧
            CanTake made destination location ∧
            made.lookup path = .ok (source, .file (Utf8.encode text) mode) ∧
            (∀ found, fs.lookup path = .ok found →
              found = (source, .file (Utf8.encode text) mode)) ∧
            FileSystem.entry? (run config fs worker mustExist root path).1 location =
              some (.file (Utf8.encode (Text.rewritten config.rules text))
                (if config.keepPermissions then mode else 0o600)) ∧
            (∀ other, other ≠ location →
              FileSystem.entry? (run config fs worker mustExist root path).1 other =
                made.entry? other) ∧
            ∀ link target content bits, made.entry? location = some (.link link) →
              fs.lookup destination = .ok (target, .file content bits) →
              FileSystem.entry? (run config fs worker mustExist root path).1 target =
                some (.file content bits)) := by
  cases hcheck : checkPath fs mustExist path with
  | error e =>
    simp only [run, hcheck]
    exact ⟨trivial, fs, .refl fs _, fun _ => .refl fs,
      fun h => absurd h (by simp [FileResult.success])⟩
  | ok _ =>
    obtain ⟨hmakes, hmade⟩ :=
      @makesDirectories_destination config fs root path hfs
    cases hdestination : destination config fs root path with
    | mk made outcome =>
      rw [hdestination] at hmakes hmade
      cases outcome with
      | error e =>
        simp only [run, hcheck, hdestination]
        exact ⟨hmakes.scratch, made, hmakes, fun _ => .refl made,
          fun h => absurd h (by simp [FileResult.success])⟩
      | ok target =>
        have hstill : made.scratch[worker]? = none := by rw [hmakes.scratch, hfree]
        obtain ⟨after, error, counts, hreplace, houtcome⟩ :=
          replace_cases config path target hstill
        simp only [run, hcheck, hdestination, hreplace]
        have herase := erase_of_getElem?_eq_none hstill
        cases houtcome with
        | failed hgiven cause counts =>
          exact ⟨hgiven.scratch.trans (herase.trans hmakes.scratch), made, hmakes,
            fun _ => hgiven.sameTree, fun h => absurd h (by simp [FileResult.success])⟩
        | @succeeded content mode location hcontent hmode hfault htarget hpublished =>
          refine ⟨hpublished.scratch.trans (herase.trans hmakes.scratch), made, hmakes,
            fun h => absurd h (by simp [FileResult.success]), fun _ => ?_⟩
          obtain ⟨source, mode', hlookup, hmode'⟩ := exists_modeOf_of_contentOf hcontent
          obtain rfl : mode' = mode := by
            rw [hmode] at hmode'
            exact (Except.ok.inj hmode').symm
          obtain ⟨text, rfl⟩ := (sift_fault_eq_none_iff config.rules content).1 hfault
          have hsource := holds_of_resolve (lookup_eq_ok_iff.1 hlookup)
          have hentry := hpublished.entry?_self
          rw [sift_encode_bytes, publishedMode_of_lt (hmade.mode_lt _ _ _ hsource)] at hentry
          refine ⟨target, location, source, text, mode', rfl, htarget, hlookup, ?_, hentry,
            hpublished.entry?_of_ne, ?_⟩
          · rintro ⟨location', entry'⟩ hfound
            rw [hmakes.lookup hfound] at hlookup
            exact Except.ok.inj hlookup
          · intro link file content bits hlink hfile
            have hheld := holds_of_resolve (lookup_eq_ok_iff.1 (hmakes.lookup hfile))
            rw [hpublished.entry?_of_ne file, hheld]
            rintro rfl
            rw [Resolved.Holds, hlink] at hheld
            cases hheld

theorem run_frame_one_file :
    let fs := withFile ['a'] (Utf8.encode ['x', '\n', 'y', '\n']) 0o640
    let config : Config :=
      ⟨[⟨.delete, Regex.compile? ['x'], none⟩], .directory ⟨['o']⟩ .flat, .sequential, true⟩
    fs.WellFormed ∧ fs.scratch[0]? = none ∧
      (run config fs 0 true none ⟨['a']⟩).1.scratch = fs.scratch ∧
      (run config fs 0 true none ⟨['a']⟩).2.success = true ∧
      ∃ location,
        (run config fs 0 true none ⟨['a']⟩).2.outputPath = some ⟨['o', '/', 'a']⟩ ∧
        FileSystem.entry? (run config fs 0 true none ⟨['a']⟩).1 location ≠ fs.entry? location ∧
        FileSystem.entry? (run config fs 0 true none ⟨['a']⟩).1 location =
          some (.file (Utf8.encode ['y', '\n']) 0o640) := by
  intro fs config
  have hfs : fs.WellFormed :=
    wellFormed_withFile _ ⟨by decide, by decide, by decide⟩ (by decide) (by decide) (by decide)
  have hfree : fs.scratch[0]? = none := scratch_withFile _ _ _ _
  have hsuccess : (run config fs 0 true none ⟨['a']⟩).2.success = true := by decide +kernel
  have houtput : (run config fs 0 true none ⟨['a']⟩).2.outputPath = some ⟨['o', '/', 'a']⟩ := by
    decide +kernel
  have hlookup : fs.lookup ⟨['a']⟩ =
      .ok ([['a']], .file (Utf8.encode ['x', '\n', 'y', '\n']) 0o640) := by
    decide +kernel
  obtain ⟨hscratch, made, hmakes, -, hpublished⟩ := @run_frame config fs 0 true none ⟨['a']⟩ hfs hfree
  obtain ⟨destination, location, source, text, mode, hplace, htarget, -, hsource, hentry, -⟩ :=
    hpublished hsuccess
  rw [houtput] at hplace
  cases hplace
  have heq := hsource _ hlookup
  simp only [Prod.mk.injEq, Entry.file.injEq] at heq
  obtain ⟨-, htext, rfl⟩ := heq
  obtain rfl : ['x', '\n', 'y', '\n'] = text := Utf8.encode_injective htext
  have hrewritten : Text.rewritten config.rules ['x', '\n', 'y', '\n'] = ['y', '\n'] := by
    decide +kernel
  rw [hrewritten] at hentry
  refine ⟨hfs, hfree, hscratch, hsuccess, location, houtput, ?_, hentry⟩
  -- the one file of the tree has another content
  rw [hentry, entry?_withFile]
  split_ifs <;> simp
  decide

end Process
end LineSieve
