import LineSieve.Proofs.Matches
import LineSieve.Proofs.Shape

/-!
# Runs that change nothing

A rule that keeps a line, or that puts the whole match in the place of each match, leaves every line as
it is.  With nothing but such rules a text is rewritten to itself, whatever its line endings and its byte
order mark are, and a file that is processed in place is published with the content and the mode that it
had.  So after a run in place everything is exactly as it was before, also where processing failed, and
the next run finds the same.
-/

namespace LineSieve

open FileSystem

/-! ## Rules that change nothing -/

/-- The templates that stand for the whole match. -/
inductive Template.IsWholeMatch : List Char → Prop
  | bare :
      IsWholeMatch ['$', '0']
  | braced :
      IsWholeMatch ['$', '\x7b', '0', '\x7d']

theorem Template.IsWholeMatch.parts_eq
    {template : List Char}
    (h : IsWholeMatch template) :
    parts template = [.reference ['0']] := by
  cases h with
  | bare =>
    have hname : isNameChar '0' = true := by decide
    rw [parts] <;> simp [hname, parts]
  | braced =>
    have hbrace : closingBrace? ['0', '\x7d'] = some (['0'], []) := by decide
    rw [parts]
    split
    next h =>
      rw [hbrace] at h
      cases h
      rw [parts]
    next h =>
      rw [hbrace] at h
      cases h

/-- A whole match is put back in its place. -/
theorem Regex.replaceAll_wholeMatch
    {re : Regex} {source template : List Char}
    (htemplate : Template.IsWholeMatch template)
    (hcompile : compile? source = some re)
    (line : List Char) :
    re.replaceAll template line = line := by
  have hne := groupNames_ne_nil_of_compile? hcompile
  have hpos : 0 < re.groupNames.length := List.length_pos_iff.2 hne
  have hresolve : re.resolve? (.ofText ['0']) = some 0 := by
    rw [show GroupRef.ofText ['0'] = .number 0 by decide, resolve?, if_pos hpos]
  apply replaceAll_eq_self
  intro piece hfits
  simp [expand, htemplate.parts_eq, expandPart, hresolve, hfits.whole hne]

namespace Rule

/-- A rule that leaves the lines to which it applies as they are. -/
inductive IsIdentity : Rule → Prop
  | keep
      (positive negative : Option Regex) :
      IsIdentity ⟨.keep, positive, negative⟩
  | modify
      {source template : List Char} {re : Regex}
      (hcompile : Regex.compile? source = some re)
      (htemplate : Template.IsWholeMatch template)
      (negative : Option Regex) :
      IsIdentity ⟨.modify template, some re, negative⟩

variable {rule : Rule} {rules : List Rule}

theorem IsIdentity.apply_eq
    (h : rule.IsIdentity)
    (line : List Char) :
    rule.apply line = some line := by
  cases h with
  | keep => rfl
  | modify hcompile htemplate =>
    exact congrArg some (Regex.replaceAll_wholeMatch htemplate hcompile line)

theorem IsIdentity.lineAction_ne
    (h : rule.IsIdentity) :
    rule.action.lineAction ≠ .delete := by
  cases h <;> simp [RuleAction.lineAction]

theorem evaluate_of_isIdentity
    (h : ∀ rule ∈ rules, rule.IsIdentity)
    (line : List Char) :
    (evaluate rules line).text = some line ∧ (evaluate rules line).action ≠ .delete := by
  unfold evaluate
  cases hfind : rules.find? (·.appliesTo line) with
  | none => exact ⟨rfl, by simp⟩
  | some rule =>
    have hrule := h rule (List.mem_of_find?_eq_some hfind)
    exact ⟨hrule.apply_eq line, hrule.lineAction_ne⟩

end Rule

/-! ## Texts -/

section Text

variable {rules : List Rule}

/-- A text is rewritten to itself. -/
theorem Text.rewritten_of_isIdentity
    (h : ∀ rule ∈ rules, rule.IsIdentity)
    (text : List Char) :
    rewritten rules text = text := by
  have hremains : ∀ line : Line, remains rules line = line.text ++ line.ending.text := by
    intro line
    rw [remains, (Rule.evaluate_of_isIdentity h line.text).1]
  calc rewritten rules text
      = markOf text ++ unlines (lines (withoutMark text)) := by
        rw [rewritten, funext hremains]
        rfl
    _ = text := by rw [unlines_lines, markOf_append_withoutMark]

theorem sift_bytes_of_isIdentity
    {content : List UInt8}
    (h : ∀ rule ∈ rules, rule.IsIdentity)
    (hfault : (sift rules content).fault = none) :
    (sift rules content).bytes = content := by
  obtain ⟨text, rfl⟩ := (sift_fault_eq_none_iff rules content).1 hfault
  rw [sift_encode_bytes, Text.rewritten_of_isIdentity h]

/-- No line is deleted. -/
theorem sift_counts_of_isIdentity
    {content : List UInt8}
    (h : ∀ rule ∈ rules, rule.IsIdentity)
    (hfault : (sift rules content).fault = none) :
    (sift rules content).counts.delete = 0 := by
  obtain ⟨text, rfl⟩ := (sift_fault_eq_none_iff rules content).1 hfault
  show (sift rules (Utf8.encode text)).counts.get .delete = 0
  rw [sift_encode_get, List.count_eq_zero, Text.actions, List.mem_map]
  rintro ⟨line, -, hdelete⟩
  exact (Rule.evaluate_of_isIdentity h line.text).2 hdelete

end Text

/-! ## One file -/

namespace Process

variable {config : Config} {fs : FileSystem} {worker : Nat}

/-- Processing a file in place with rules that change nothing changes nothing, and if it succeeds it
reports that no line was deleted. -/
theorem run_of_isIdentity
    (mustExist : Bool) (root : Option Path) (path : Path)
    (hfs : fs.WellFormed)
    (hfree : fs.scratch[worker]? = none)
    (hinPlace : config.output = .inPlace)
    (hkeep : config.keepPermissions = true)
    (hrules : ∀ rule ∈ config.rules, rule.IsIdentity) :
    (run config fs worker mustExist root path).1 = fs ∧
      ((run config fs worker mustExist root path).2.success = true →
        (run config fs worker mustExist root path).2.counts.delete = 0) := by
  have hscratch := (@run_cases config fs worker mustExist root path hfs hfree).1
  have hroot := @root_run config fs worker mustExist root path
  have hran := ranInPlace_run mustExist root path hfs hfree hinPlace
  generalize run config fs worker mustExist root path = ran at hscratch hroot hran ⊢
  obtain ⟨after, result⟩ := ran
  cases hran with
  | failed hsame herror =>
    refine ⟨eq_of_sameTree hsame hroot hscratch, fun hsuccess => ?_⟩
    rw [herror] at hsuccess
    cases hsuccess
  | @published location content mode target hlookup hfault hpublished =>
    refine ⟨eq_of_sameTree ⟨hpublished.workingDirectory, fun other => ?_⟩ hroot hscratch,
      fun _ => sift_counts_of_isIdentity hrules hfault⟩
    by_cases hother : other = location
    · have hentry : fs.entry? location = some (.file content mode) :=
        holds_of_resolve (lookup_eq_ok_iff.1 hlookup)
      rw [hother, hpublished.entry?_self, hentry, sift_bytes_of_isIdentity hrules hfault,
        publishedMode_of_lt (hfs.mode_lt _ _ _ hentry), if_pos hkeep]
    · exact hpublished.entry?_of_ne other hother

end Process

/-! ## Runs -/

namespace Dispatch

open Process

variable {config : Config} {fs later : FileSystem} {results : List FileResult}

theorem Series.of_isIdentity
    (h : Series config fs results later)
    (hfs : AtRest fs)
    (hinPlace : config.output = .inPlace)
    (hkeep : config.keepPermissions = true)
    (hrules : ∀ rule ∈ config.rules, rule.IsIdentity) :
    later = fs ∧ ∀ result ∈ results, result.success = true → result.counts.delete = 0 := by
  induction h with
  | nil => exact ⟨rfl, by simp⟩
  | @cons fs later results worker mustExist root path _ ih =>
    obtain ⟨hstep, hcounts⟩ := run_of_isIdentity mustExist root path hfs.wellFormed
      (hfs.scratch worker) hinPlace hkeep hrules
    rw [hstep] at ih
    exact ⟨(ih hfs).1, List.forall_mem_cons.2 ⟨hcounts, (ih hfs).2⟩⟩

/-- A run in place that keeps the permissions, with rules that change nothing, leaves everything as it
was.  However often it is repeated, it gives the same answer, and no successful result reports a deleted
line. -/
theorem runTargets_of_isIdentity
    (hfs : AtRest fs)
    (hinPlace : config.output = .inPlace)
    (hkeep : config.keepPermissions = true)
    (hrules : ∀ rule ∈ config.rules, rule.IsIdentity)
    (starts : Path → PoolStart) (paths : List Path) (pattern : List Char) (recursive : Bool) :
    (∀ n : Nat, (fun tree => (runTargets starts config tree paths pattern recursive).1)^[n] fs = fs ∧
      (runTargets starts config
          ((fun tree => (runTargets starts config tree paths pattern recursive).1)^[n] fs)
          paths pattern recursive).2 =
        (runTargets starts config fs paths pattern recursive).2) ∧
    ∀ results, (runTargets starts config fs paths pattern recursive).2 = .ok results →
      ∀ result ∈ results, result.success = true → result.counts.delete = 0 := by
  obtain ⟨results, hseries, hanswer⟩ :=
    exists_series_runTargets starts config fs paths pattern recursive
  obtain ⟨hsame, hcounts⟩ := hseries.of_isIdentity hfs hinPlace hkeep hrules
  have hfixed : ∀ n : Nat,
      (fun tree => (runTargets starts config tree paths pattern recursive).1)^[n] fs = fs :=
    Function.iterate_fixed hsame
  refine ⟨fun n => ⟨hfixed n, by rw [hfixed n]⟩, fun answer hok => ?_⟩
  rw [hanswer answer hok]
  exact hcounts

theorem runTargets_of_isIdentity_one_file :
    ∃ re, Regex.compile? ['x'] = some re ∧
      (runTargets (fun _ => .ok ())
        ⟨[⟨.modify ['$', '0'], some re, none⟩, ⟨.keep, some re, none⟩], .inPlace, .auto, true⟩
        (withFile ['a'] (Utf8.encode ['x', '\r', 'y', 'x']) 0o644) [⟨['a']⟩] ['*'] true).1 =
          withFile ['a'] (Utf8.encode ['x', '\r', 'y', 'x']) 0o644 := by
  have hrest : AtRest (withFile ['a'] (Utf8.encode ['x', '\r', 'y', 'x']) 0o644) :=
    ⟨wellFormed_withFile _ ⟨by decide, by decide, by decide⟩ (by decide) (by decide) (by decide),
      scratch_withFile _ _ _⟩
  cases hcompile : Regex.compile? ['x'] with
  | none => exact absurd hcompile (by decide +kernel)
  | some re =>
    refine ⟨re, rfl, ?_⟩
    have hrules : ∀ rule ∈
        [(⟨.modify ['$', '0'], some re, none⟩ : Rule), ⟨.keep, some re, none⟩], rule.IsIdentity :=
      List.forall_mem_cons.2
        ⟨.modify hcompile .bare none, List.forall_mem_singleton.2 (.keep _ _)⟩
    exact ((runTargets_of_isIdentity hrest rfl rfl hrules (fun _ => .ok ()) [⟨['a']⟩] ['*'] true).1 1).1

end Dispatch
end LineSieve
