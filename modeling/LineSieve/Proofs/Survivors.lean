import LineSieve.Proofs.Evolution
import LineSieve.Proofs.Joining

/-!
# The lines that are left

Rules that modify nothing keep a line as it is or delete it.  The lines that are kept are written one
behind the other, so they are next to lines that they were not next to before, and another line
stands first.  `processFile_published_lines` says when the published file has exactly the lines that
are left.
-/

namespace LineSieve
namespace Text

variable {rules : List Rule}

/-- Whether the rules do not delete a line. -/
def survives (rules : List Rule) (line : Line) : Bool :=
  (Rule.evaluate rules line.text).action != .delete

/-- The lines of a text that the rules do not delete. -/
def survivors (rules : List Rule) (text : List Char) : List Line :=
  (lines (withoutMark text)).filter (survives rules)

/-- Whether some lines begin with a byte order mark that belongs to the first of them. -/
def BeginsWithMark (ls : List Line) : Prop :=
  ∃ text ending rest, ls = ⟨byteOrderMark :: text, ending⟩ :: rest

/-- Whether a byte order mark is all there is. -/
def IsMarkOnly (ls : List Line) : Prop := ls = [⟨[byteOrderMark], .missing⟩]

theorem sound_survivors
    (rules : List Rule) (text : List Char) :
    Sound (survivors rules text) :=
  (Sound.lines (withoutMark text)).sublist List.filter_sublist

/-! ## What is written -/

/-- Without rules that modify, a line is written as it is or not at all. -/
theorem remains_of_no_modify
    (hrules : ∀ rule ∈ rules, rule.action.lineAction ≠ .modify)
    (line : Line) :
    remains rules line = if survives rules line then line.text ++ line.ending.text else [] := by
  unfold remains survives Rule.evaluate
  cases hfind : rules.find? (·.appliesTo line.text) with
  | none => rfl
  | some rule =>
    have hmodify := hrules rule (List.mem_of_find?_eq_some hfind)
    cases haction : rule.action with
    | keep => simp [Rule.apply, haction, RuleAction.lineAction]
    | delete => simp [Rule.apply, haction, RuleAction.lineAction]
    | modify replacement => exact absurd (by rw [haction]; rfl) hmodify

theorem rewritten_of_no_modify
    (hrules : ∀ rule ∈ rules, rule.action.lineAction ≠ .modify)
    (text : List Char) :
    rewritten rules text = markOf text ++ unlines (survivors rules text) := by
  rw [rewritten, survivors]
  congr 1
  induction lines (withoutMark text) with
  | nil => rfl
  | cons line rest ih =>
    rw [List.flatMap_cons, ih, remains_of_no_modify hrules, List.filter_cons]
    split_ifs
    · rw [unlines_cons]
    · rw [List.nil_append]

/-- The lines that are left are as many as the counts say. -/
theorem length_survivors
    (rules : List Rule) (text : List Char) :
    (survivors rules text).length = (sift rules (Utf8.encode text)).counts.remaining := by
  have htotal := sift_encode_total rules text
  have hdelete : (sift rules (Utf8.encode text)).counts.delete =
      (actions rules text).count .delete := sift_encode_get rules text .delete
  have hcount : (actions rules text).count .delete =
      (lines (withoutMark text)).countP fun line => decide ¬survives rules line = true := by
    rw [actions, List.count_eq_countP, List.countP_map]
    congr 1
    funext line
    simp [survives, beq_eq_decide]
  have hsplit := List.length_eq_countP_add_countP (survives rules) (l := lines (withoutMark text))
  rw [survivors, ← List.countP_eq_length_filter, ActionCounts.remaining, htotal, hdelete, hcount]
  omega

/-! ## What is read -/

theorem withoutMark_of_markOf_eq_nil
    {text : List Char}
    (h : markOf text = []) :
    withoutMark text = text := by
  have happend := markOf_append_withoutMark text
  rwa [h, List.nil_append] at happend

theorem withoutMark_append_of_markOf_ne_nil
    {text : List Char}
    (h : markOf text ≠ [])
    (rest : List Char) :
    withoutMark (markOf text ++ rest) = rest := by
  cases text with
  | nil => exact absurd rfl h
  | cons c text =>
    rw [markOf] at h ⊢
    split_ifs at h ⊢ with hc
    · subst hc
      simp [withoutMark]
    · exact absurd rfl h

/-- Sound lines make up a text that begins with a byte order mark only if their first one does. -/
theorem markOf_unlines_eq_nil
    {ls : List Line}
    (h : Sound ls)
    (hmark : ¬BeginsWithMark ls) :
    markOf (unlines ls) = [] := by
  cases ls with
  | nil => rfl
  | cons line rest =>
    obtain ⟨text, ending⟩ := line
    rw [unlines_cons]
    cases text with
    | cons c text =>
      have hc : c ≠ byteOrderMark := by
        rintro rfl
        exact hmark ⟨text, ending, rest, rfl⟩
      simp [markOf, hc]
    | nil =>
      cases ending with
      | missing => exact absurd rfl (h.nonempty _ List.mem_cons_self rfl)
      | _ => rfl

section Written

variable {text : List Char}

/-- The lines are read with their endings joined, unless a byte order mark of theirs is taken for
that of the file. -/
theorem lines_written
    {ls : List Line}
    (h : Sound ls)
    (hmark : markOf text ≠ [] ∨ ¬BeginsWithMark ls) :
    lines (withoutMark (markOf text ++ unlines ls)) = joined ls := by
  by_cases hown : markOf text = []
  · have hfree := markOf_unlines_eq_nil h (hmark.resolve_left fun hne => hne hown)
    rw [hown, List.nil_append, withoutMark_of_markOf_eq_nil hfree, lines_unlines h]
  · rw [withoutMark_append_of_markOf_ne_nil hown, lines_unlines h]

/-- The first line loses the byte order mark with which it begins. -/
theorem withoutMark_written
    {first : List Char} {ending : LineEnding} {rest : List Line}
    (hown : markOf text = []) :
    withoutMark (markOf text ++ unlines (⟨byteOrderMark :: first, ending⟩ :: rest)) =
      unlines (⟨first, ending⟩ :: rest) := by
  simp [hown, withoutMark]

/-- Lines are read as they were written exactly if their endings do not join and no byte order mark
of theirs is taken for that of the file. -/
theorem lines_written_eq_iff
    {ls : List Line}
    (h : Sound ls) :
    lines (withoutMark (markOf text ++ unlines ls)) = ls ↔
      ls.IsChain Parted ∧ (markOf text ≠ [] ∨ ¬BeginsWithMark ls) := by
  by_cases hmark : markOf text ≠ [] ∨ ¬BeginsWithMark ls
  · rw [lines_written h hmark, joined_eq_self_iff]
    exact (and_iff_left hmark).symm
  · refine iff_of_false (fun heq => ?_) fun hboth => hmark hboth.2
    rw [not_or, not_not, not_not] at hmark
    obtain ⟨hown, first, ending, rest, rfl⟩ := hmark
    -- the text that is read is shorter by the mark
    rw [withoutMark_written hown] at heq
    have hlength := congrArg (fun ls => (unlines ls).length) heq
    simp only [unlines_lines] at hlength
    simp [unlines_cons] at hlength

/-- As many lines are read as were written exactly if their endings do not join and they are not a
mere byte order mark that is taken for that of the file. -/
theorem length_lines_written_eq_iff
    {ls : List Line}
    (h : Sound ls) :
    (lines (withoutMark (markOf text ++ unlines ls))).length = ls.length ↔
      ls.IsChain Parted ∧ (markOf text ≠ [] ∨ ¬IsMarkOnly ls) := by
  by_cases hmark : markOf text ≠ [] ∨ ¬BeginsWithMark ls
  · have honly : markOf text ≠ [] ∨ ¬IsMarkOnly ls := by
      refine hmark.imp_right fun hbegins honly => hbegins ?_
      exact ⟨[], .missing, [], honly⟩
    rw [lines_written h hmark, length_joined_eq_iff]
    exact (and_iff_left honly).symm
  rw [not_or, not_not, not_not] at hmark
  obtain ⟨hown, first, ending, rest, rfl⟩ := hmark
  rw [withoutMark_written hown]
  have hcr := h.no_cr _ List.mem_cons_self
  have hlf := h.no_lf _ List.mem_cons_self
  rw [List.mem_cons, not_or] at hcr hlf
  by_cases hempty : ending = .missing ∧ first = []
  · -- nothing is left of the only line
    obtain ⟨rfl, rfl⟩ := hempty
    obtain rfl : rest = [] := h.eq_nil_or_terminated.resolve_right fun hne => hne rfl
    refine iff_of_false (by simp [LineEnding.text, lines]) fun hboth => ?_
    exact hboth.2.elim (fun hne => hne hown) fun honly => honly rfl
  · have hsound : Sound (⟨first, ending⟩ :: rest) := by
      refine .cons hcr.2 hlf.2 (fun hmissing hnil => hempty ⟨hmissing, hnil⟩) ?_ h.tail
      cases rest with
      | nil => exact Or.inl rfl
      | cons next others =>
        exact Or.inr ((List.pairwise_cons.1 h.terminated).1 next (by simp))
    have honly : ¬IsMarkOnly (⟨byteOrderMark :: first, ending⟩ :: rest) := by
      intro honly
      simp only [IsMarkOnly, List.cons.injEq, Line.mk.injEq] at honly
      exact hempty ⟨honly.1.2, honly.1.1.2⟩
    have hlength : (⟨byteOrderMark :: first, ending⟩ :: rest).length =
        (⟨first, ending⟩ :: rest : List Line).length := rfl
    rw [hlength, lines_unlines hsound, length_joined_eq_iff]
    -- being parted from the next line is a matter of the ending
    have hchain : (⟨first, ending⟩ :: rest).IsChain Parted ↔
        (⟨byteOrderMark :: first, ending⟩ :: rest).IsChain Parted := by
      cases rest with
      | nil => simp
      | cons next others => rw [List.isChain_cons_cons, List.isChain_cons_cons]; exact Iff.rfl
    rw [hchain]
    exact (and_iff_left (Or.inr honly)).symm

end Written

end Text

/-! ## What is published -/

section Published

open FileSystem Text

variable {config : Config} {fs : FileSystem} {path : Path} {text : List Char}

/-- Rules that modify nothing leave as many lines as are counted, and these are written one behind the
other, each with its own ending, after the byte order mark if there is one.  The published file is read as
exactly these lines unless two of them have come to stand together whose endings join, or the first
of them begins with a byte order mark that is taken for that of the file; and it is read as that many
lines unless endings join, or a mere byte order mark is left. -/
theorem processFile_published_lines
    (hfs : fs.WellFormed)
    (hfree : fs.scratch[0]? = none)
    (hrules : ∀ rule ∈ config.rules, rule.action.lineAction ≠ .modify)
    (hcontent : fs.contentOf path = .ok (Utf8.encode text))
    (hsuccess : (processFile config fs path).2.success = true) :
    (processFile config fs path).2.linesOut = (survivors config.rules text).length ∧
      ∃ made destination location mode published,
        MakesDirectories fs (Process.way config none path) made ∧
        (processFile config fs path).2.outputPath = some destination ∧
        Process.CanTake made destination location ∧
        FileSystem.entry? (processFile config fs path).1 location =
          some (.file (Utf8.encode published) mode) ∧
        published = markOf text ++ unlines (survivors config.rules text) ∧
        (lines (withoutMark published) = survivors config.rules text ↔
          (survivors config.rules text).IsChain Parted ∧
            (markOf text ≠ [] ∨ ¬BeginsWithMark (survivors config.rules text))) ∧
        ((lines (withoutMark published)).length = (processFile config fs path).2.linesOut ↔
          (survivors config.rules text).IsChain Parted ∧
            (markOf text ≠ [] ∨ ¬IsMarkOnly (survivors config.rules text))) := by
  obtain ⟨-, made, hmakes, -, hran⟩ := @Process.run_cases config fs 0 true none path hfs hfree
  rw [processFile] at hsuccess ⊢
  generalize Process.run config fs 0 true none path = ran at hsuccess hran ⊢
  obtain ⟨after, result⟩ := ran
  cases hran with
  | failed hsame herror =>
    rw [herror] at hsuccess
    cases hsuccess
  | @published target location content mode hplace hread hmode hfault htarget hpublished =>
    -- the source is read after the directories have been made
    obtain rfl : content = Utf8.encode text := by
      obtain ⟨source, bits, hlookup, -⟩ := Process.exists_modeOf_of_contentOf hcontent
      rw [contentOf, hmakes.lookup hlookup] at hread
      exact (Except.ok.inj hread).symm
    have hsound := sound_survivors config.rules text
    have hcount := (length_survivors config.rules text).symm
    have hentry := hpublished.entry?_self
    rw [sift_encode_bytes, rewritten_of_no_modify hrules] at hentry
    refine ⟨hcount, made, target, location, _, _, hmakes, rfl, htarget, hentry, rfl,
      lines_written_eq_iff hsound, ?_⟩
    rw [FileResult.linesOut, hcount]
    exact length_lines_written_eq_iff hsound

theorem processFile_published_lines_one_file :
    (withFile ['a'] (Utf8.encode ['b', '\r', 'x', '\n', 'c', '\n']) 0o644).WellFormed ∧
      ∃ location mode published,
        FileSystem.entry?
            (processFile ⟨[⟨.delete, Regex.compile? ['x'], none⟩], .inPlace, .sequential, true⟩
              (withFile ['a'] (Utf8.encode ['b', '\r', 'x', '\n', 'c', '\n']) 0o644) ⟨['a']⟩).1
            location = some (.file (Utf8.encode published) mode) ∧
        published = ['b', '\r', 'c', '\n'] ∧
        lines (withoutMark published) = [⟨['b'], .cr⟩, ⟨['c'], .lf⟩] := by
  have hfs : (withFile ['a'] (Utf8.encode ['b', '\r', 'x', '\n', 'c', '\n']) 0o644).WellFormed :=
    wellFormed_withFile _ ⟨by decide, by decide, by decide⟩ (by decide) (by decide) (by decide)
  have hleft : survivors [⟨.delete, Regex.compile? ['x'], none⟩] ['b', '\r', 'x', '\n', 'c', '\n'] =
      [⟨['b'], .cr⟩, ⟨['c'], .lf⟩] := by
    decide +kernel
  obtain ⟨-, made, destination, location, mode, published, -, -, -, hentry, hwritten, hlines, -⟩ :=
    @processFile_published_lines
      ⟨[⟨.delete, Regex.compile? ['x'], none⟩], .inPlace, .sequential, true⟩ _ ⟨['a']⟩ _
      hfs (scratch_withFile ['a'] _ 0o644 0) (by simp [RuleAction.lineAction]) rfl (by decide +kernel)
  rw [hleft] at hwritten hlines
  refine ⟨hfs, location, mode, published, hentry, hwritten, ?_⟩
  exact hlines.2 ⟨by simp [Parted], Or.inr (by simp [BeginsWithMark, byteOrderMark])⟩

/-- A line is deleted between a lone `\r` and a mere `\n`: two lines are left, and one is read.  A
line is deleted in front of a byte order mark: the line that is left is read without it. -/
theorem processFile_glues_lines :
    (let rules : List Rule := [⟨.delete, Regex.compile? ['x'], none⟩]
     let text := ['a', '\r', 'x', '\n', '\n']
     let ran := processFile ⟨rules, .inPlace, .sequential, true⟩
      (withFile ['a'] (Utf8.encode text) 0o644) ⟨['a']⟩
     ran.2.success = true ∧ ran.2.linesOut = 2 ∧
      FileSystem.entry? ran.1 [['a']] = some (.file (Utf8.encode ['a', '\r', '\n']) 0o644) ∧
      survivors rules text = [⟨['a'], .cr⟩, ⟨[], .lf⟩] ∧
      lines (withoutMark ['a', '\r', '\n']) = [⟨['a'], .crlf⟩]) ∧
    (let rules : List Rule := [⟨.delete, Regex.compile? ['x'], none⟩]
     let text := ['x', '\n', byteOrderMark, 'b', '\n']
     let ran := processFile ⟨rules, .inPlace, .sequential, true⟩
      (withFile ['a'] (Utf8.encode text) 0o644) ⟨['a']⟩
     ran.2.success = true ∧
      FileSystem.entry? ran.1 [['a']] = some (.file (Utf8.encode [byteOrderMark, 'b', '\n']) 0o644) ∧
      survivors rules text = [⟨[byteOrderMark, 'b'], .lf⟩] ∧
      lines (withoutMark [byteOrderMark, 'b', '\n']) = [⟨['b'], .lf⟩]) := by
  decide +kernel

end Published

end LineSieve
