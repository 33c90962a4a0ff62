import LineSieve.Proofs.FileTree
import LineSieve.Proofs.Pool

/-!
# Steps of a single worker

Left alone, a worker does step by step what `Process.run` does at once: the directories are made,
the pieces of the result are written one after the other, and the file is published or given up.
-/

namespace LineSieve
namespace Process

open FileSystem

variable {config : Config} {root : Path} {worker : Nat} {path : Path}

theorem leads_of_advance
    {fs : FileSystem} {phase : Phase} {next last : FileSystem × Phase}
    (hopen : phase.isFinished = false)
    (h : advance config root worker path fs phase = next)
    (hrest : Leads config root worker path next last) :
    Leads config root worker path (fs, phase) last :=
  .head ⟨hopen, h⟩ hrest

/-! ## Directories -/

/-- What becomes of a worker that makes directories. -/
def afterDirectories (path target parent : Path) (missing : List Path) :
    FileSystem × Except IoError Unit → FileSystem × Phase
  | (fs, .ok ()) => (fs, .making target parent missing)
  | (fs, .error cause) => (fs, .finished ⟨path, none, some (.io parent cause), .zero⟩)

theorem leads_of_checking
    (fs : FileSystem) (target parent directory : Path) (cause : IoError) (missing : List Path) :
    Leads config root worker path (fs, .checking target parent directory cause missing)
      (afterDirectories path target parent missing
        (fs, if fs.isDirectory directory then .ok () else .error cause)) := by
  refine leads_of_advance rfl rfl ?_
  rw [advance]
  split_ifs <;> exact .refl

/-- Going up and down again makes the same directories. -/
theorem leads_of_probing
    (fs : FileSystem) (target parent : Path) (directories missing : List Path) :
    Leads config root worker path (fs, .probing target parent directories missing)
      (afterDirectories path target parent missing (fs.makeDirectoriesAt directories)) := by
  induction directories generalizing missing with
  | nil => exact leads_of_advance rfl rfl .refl
  | cons directory above ih =>
    refine leads_of_advance rfl rfl ?_
    rw [advance, makeDirectoriesAt]
    by_cases hempty : directory.text.isEmpty = true
    · rw [if_pos hempty, if_pos hempty]
      exact .refl
    rw [if_neg hempty, if_neg hempty]
    cases hmake : fs.makeDirectory directory with
    | ok later => exact .refl
    | error cause =>
      cases cause with
      | notFound =>
        refine (ih (directory :: missing)).trans ?_
        generalize fs.makeDirectoriesAt above = made
        rcases made with ⟨middle, cause | ⟨⟩⟩
        · exact .refl
        · refine leads_of_advance rfl rfl ?_
          simp only [advance]
          cases hagain : middle.makeDirectory directory with
          | ok later => exact .refl
          | error cause => exact leads_of_checking middle target parent directory cause missing
      | _ => exact leads_of_checking fs target parent directory _ missing

/-! ## Content -/

theorem appendScratch_append
    (fs : FileSystem) (front back : List UInt8) :
    (fs.appendScratch worker front).appendScratch worker back =
      fs.appendScratch worker (front ++ back) := by
  cases hs : fs.scratch[worker]? with
  | none =>
    have hsame : ∀ bytes, fs.appendScratch worker bytes = fs := by
      intro bytes
      rw [appendScratch, hs]
    rw [hsame, hsame, hsame]
  | some s =>
    rw [appendScratch, getElem?_appendScratch hs]
    simp only [appendScratch, hs, List.append_assoc]
    congr 1
    apply Std.ExtTreeMap.ext_getElem?
    intro other
    simp only [Std.ExtTreeMap.getElem?_insert]
    split <;> rfl

theorem appendScratch_nil
    (fs : FileSystem) :
    fs.appendScratch worker [] = fs := by
  cases hs : fs.scratch[worker]? with
  | none => rw [appendScratch, hs]
  | some s =>
    have hinsert : fs.scratch.insert worker s = fs.scratch := by
      apply Std.ExtTreeMap.ext_getElem?
      intro other
      rw [Std.ExtTreeMap.getElem?_insert]
      split
      next heq => rw [← Std.LawfulEqCmp.eq_of_compare heq, hs]
      next => rfl
    simp only [appendScratch, hs, List.append_nil, hinsert]

theorem leads_of_writing
    (fs : FileSystem) (target : Path) (sifting : Sifting) (pieces : List (List Char)) :
    Leads config root worker path (fs, .writing target sifting pieces)
      (fs.appendScratch worker (Utf8.encode pieces.flatten), .writing target sifting []) := by
  induction pieces generalizing fs with
  | nil =>
    rw [List.flatten_nil, show Utf8.encode [] = [] from rfl, appendScratch_nil]
  | cons piece pieces ih =>
    refine leads_of_advance rfl rfl ((ih _).trans ?_)
    rw [appendScratch_append, ← Utf8.encode_append, List.flatten_cons]

theorem leads_of_dropping
    (fs : FileSystem) (target : Path) (cause : FileError) (counts : ActionCounts) :
    Leads config root worker path (fs, .dropping target cause counts)
      (fs.discardScratch worker, .finished ⟨path, some target, some cause, counts⟩) :=
  leads_of_advance rfl rfl .refl

/-- What becomes of a worker that publishes a file. -/
def afterPublishing (fs : FileSystem) (worker : Nat) (path target : Path) (counts : ActionCounts) :
    Except FileError FileSystem → FileSystem × Phase
  | .ok later => (later, .finished ⟨path, some target, none, counts⟩)
  | .error cause => (fs.discardScratch worker, .finished ⟨path, some target, some cause, counts⟩)

theorem leads_of_publishing
    (fs : FileSystem) (target : Path) (counts : ActionCounts) :
    Leads config root worker path (fs, .publishing target counts)
      (afterPublishing fs worker path target counts
        (match fs.publishScratch worker target with
        | .ok later => .ok later
        | .error e => .error (.io target e))) := by
  refine leads_of_advance rfl rfl ?_
  rw [advance]
  cases fs.publishScratch worker target with
  | ok later => exact .refl
  | error e => exact leads_of_dropping fs target _ counts

theorem discardScratch_setScratchMode
    (fs : FileSystem) (mode : Nat) :
    (fs.setScratchMode worker mode).discardScratch worker = fs.discardScratch worker := by
  unfold setScratchMode
  split
  · simp only [discardScratch, erase_insert]
  · rfl

/-- Permissions and publishing, step by step. -/
theorem leads_of_written
    (fs : FileSystem) (target : Path) (sifting : Sifting)
    (hfault : sifting.fault = none) :
    Leads config root worker path (fs, .writing target sifting [])
      (afterPublishing fs worker path target sifting.counts
        (publish config fs worker path target)) := by
  refine leads_of_advance rfl rfl ?_
  rw [advance, hfault, publish]
  by_cases hkeep : config.keepPermissions = true
  · simp only [hkeep, if_true]
    refine leads_of_advance rfl rfl ?_
    rw [advance]
    cases hmode : fs.modeOf path with
    | error e => exact leads_of_dropping fs target _ _
    | ok mode =>
      refine (leads_of_publishing _ target _).trans ?_
      simp only
      cases (fs.setScratchMode worker mode).publishScratch worker target with
      | ok later => exact .refl
      | error e =>
        simp only [afterPublishing, discardScratch_setScratchMode]
        exact .refl
  · simp only [hkeep, Bool.false_eq_true, if_false]
    exact leads_of_publishing fs target _

theorem leads_of_opening
    (fs : FileSystem) (target : Path) :
    Leads config root worker path (fs, .opening target)
      ((fill config fs worker path target).1,
        .finished ⟨path, some target, (fill config fs worker path target).2.1,
          (fill config fs worker path target).2.2⟩) := by
  refine leads_of_advance rfl rfl ?_
  rw [advance]
  cases hcontent : fs.contentOf path with
  | error e =>
    simp only [fill, hcontent]
    exact leads_of_dropping fs target _ _
  | ok content =>
    refine (leads_of_writing fs target _ _).trans ?_
    rw [← Sifting.bytes]
    cases hfault : (sift config.rules content).fault with
    | some fault =>
      simp only [fill, hcontent, hfault]
      refine leads_of_advance rfl rfl ?_
      simp only [advance, hfault]
      exact leads_of_dropping _ target _ _
    | none =>
      refine (leads_of_written _ target _ hfault).trans ?_
      simp only [fill, hcontent, hfault]
      cases publish config (fs.appendScratch worker (sift config.rules content).bytes) worker path
          target with
      | ok later => exact .refl
      | error cause => exact .refl

theorem leads_of_creating
    (fs : FileSystem) (target : Path) :
    Leads config root worker path (fs, .creating target)
      ((replace config fs worker path target).1,
        .finished ⟨path, some target, (replace config fs worker path target).2.1,
          (replace config fs worker path target).2.2⟩) := by
  refine leads_of_advance rfl rfl ?_
  rw [advance, replace]
  cases fs.createScratch worker (scratchDirectory target) with
  | error e => exact .refl
  | ok later => exact leads_of_opening later target

/-- Left alone, a worker processes its file. -/
theorem leads_of_waiting
    (config : Config) (root : Path) (worker : Nat) (path : Path) (fs : FileSystem) :
    Leads config root worker path (fs, .waiting)
      ((run config fs worker false (some root) path).1,
        .finished (run config fs worker false (some root) path).2) := by
  refine leads_of_advance rfl rfl ?_
  rw [advance, run, depart, destination]
  cases checkPath fs false path with
  | error e => exact .refl
  | ok _ =>
    simp only
    cases config.output with
    | inPlace =>
      simp only
      cases inPlaceTarget fs path with
      | error e => exact .refl
      | ok target => exact leads_of_creating fs target
    | directory directory layout =>
      simp only
      cases outputPath? directory layout (some root) path with
      | none => exact .refl
      | some target =>
        simp only
        cases directoryOf? target with
        | none => exact leads_of_creating fs target
        | some parent =>
          refine (leads_of_probing fs target parent parent.ancestors []).trans ?_
          simp only [makeDirectories]
          generalize fs.makeDirectoriesAt parent.ancestors = made
          rcases made with ⟨middle, cause | ⟨⟩⟩
          · exact .refl
          · exact leads_of_advance rfl rfl (leads_of_creating middle target)

end Process
end LineSieve
