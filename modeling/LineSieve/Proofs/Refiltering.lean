import LineSieve.Proofs.Identity
import LineSieve.Proofs.Survivors

/-!
# Filtering twice

Rules that modify nothing take lines out of a text.  What they leave consists of lines that they keep,
so it seems that they leave it as it is when they are applied to it again.  That is so if the lines
that are left are read again as the lines that they were.  In a text in which every `\r` is followed by
`\n` no two endings can meet and make one, and if there is no byte order mark but at the very start, no
line that comes to stand first can lose a character of its own.

The second run also finds the file where the first one has found it, and the scratch file has the same
place, so `processFile_refiltering` says that it succeeds and changes nothing at all.
-/

namespace LineSieve

open FileSystem

/-! ## Texts -/

namespace Text

variable {rules : List Rule} {text : List Char}

/-- Every carriage return is the first half of an ending. -/
def PairedReturns (text : List Char) : Prop :=
  ∀ front back, text = front ++ '\r' :: back → back.head? = some '\n'

/-- A byte order mark can only be the first character. -/
def MarkOnlyFirst (text : List Char) : Prop := byteOrderMark ∉ text.tail

theorem pairedReturns_iff_tails
    (text : List Char) :
    PairedReturns text ↔
      ∀ back ∈ text.tails, back.head? = some '\r' → back.tail.head? = some '\n' := by
  constructor
  · intro h back hback hhead
    obtain ⟨front, rfl⟩ := (List.mem_tails _ _).1 hback
    obtain ⟨rest, rfl⟩ := List.head?_eq_some_iff.1 hhead
    exact h front rest rfl
  · rintro h front back rfl
    exact h ('\r' :: back) ((List.mem_tails _ _).2 (List.suffix_append _ _)) rfl

instance PairedReturns.decidable (text : List Char) : Decidable (PairedReturns text) :=
  decidable_of_iff' _ (pairedReturns_iff_tails text)

instance MarkOnlyFirst.decidable (text : List Char) : Decidable (MarkOnlyFirst text) :=
  inferInstanceAs (Decidable (byteOrderMark ∉ text.tail))

theorem PairedReturns.of_append
    {front back : List Char}
    (h : PairedReturns (front ++ back)) :
    PairedReturns back := by
  intro inner rest hback
  exact h (front ++ inner) rest (by rw [hback, List.append_assoc])

/-- The endings of a text whose carriage returns are paired. -/
theorem PairedReturns.ending_ne_cr
    (h : PairedReturns text) :
    ∀ line ∈ lines text, line.ending ≠ .cr := by
  fun_induction lines text with
  | case1 => simp
  | case2 rest ih =>
    refine List.forall_mem_cons.2 ⟨by simp, ih ?_⟩
    exact @PairedReturns.of_append ['\r', '\n'] rest h
  | case3 rest hlone =>
    -- what follows the lone return is no line feed
    cases rest with
    | nil => simpa using h [] [] rfl
    | cons c rest =>
      obtain rfl : c = '\n' := by simpa using h [] (c :: rest) rfl
      exact absurd rfl (hlone rest)
  | case4 rest ih =>
    refine List.forall_mem_cons.2 ⟨by simp, ih ?_⟩
    exact @PairedReturns.of_append ['\n'] rest h
  | case5 c rest _ _ _ ih =>
    replace ih := ih (@PairedReturns.of_append [c] rest h)
    cases hlines : lines rest with
    | nil => simp [consChar]
    | cons line more =>
      rw [hlines, List.forall_mem_cons] at ih
      exact List.forall_mem_cons.2 ih

theorem mem_of_mem_line
    {line : Line} {c : Char}
    (hline : line ∈ lines text)
    (hc : c ∈ line.text) :
    c ∈ text := by
  rw [← unlines_lines text, unlines, List.mem_flatMap]
  exact ⟨line, hline, List.mem_append_left _ hc⟩

theorem PairedReturns.withoutMark
    (h : PairedReturns text) :
    PairedReturns (withoutMark text) := by
  rw [← markOf_append_withoutMark text] at h
  exact h.of_append

theorem MarkOnlyFirst.not_mem_withoutMark
    (h : MarkOnlyFirst text) :
    byteOrderMark ∉ withoutMark text := by
  cases text with
  | nil => simp [Text.withoutMark]
  | cons c rest =>
    rw [Text.withoutMark]
    split_ifs with hc
    · exact h
    · rw [List.mem_cons, not_or]
      exact ⟨Ne.symm hc, h⟩

section Survivors

variable (hreturns : PairedReturns text) (hmark : MarkOnlyFirst text)

include hreturns in
theorem isChain_parted_survivors
    (rules : List Rule) :
    (survivors rules text).IsChain Parted := by
  refine (List.pairwise_of_forall_mem_list fun line hline next _ hcr => ?_).isChain
  exact absurd hcr (hreturns.withoutMark.ending_ne_cr line (List.mem_of_mem_filter hline))

include hmark in
theorem not_beginsWithMark_survivors
    (rules : List Rule) :
    ¬BeginsWithMark (survivors rules text) := by
  rintro ⟨first, ending, rest, hfirst⟩
  have hline : ⟨byteOrderMark :: first, ending⟩ ∈ lines (withoutMark text) :=
    List.mem_of_mem_filter (p := survives rules) (by rw [← survivors, hfirst]; simp)
  exact hmark.not_mem_withoutMark (mem_of_mem_line hline List.mem_cons_self)

include hmark in
/-- What is left has the byte order mark that was there before. -/
theorem markOf_rewritten
    (hrules : ∀ rule ∈ rules, rule.action.lineAction ≠ .modify) :
    markOf (rewritten rules text) = markOf text := by
  rw [rewritten_of_no_modify hrules]
  cases text with
  | nil => rfl
  | cons c rest =>
    by_cases hc : c = byteOrderMark
    · simp [markOf, hc]
    · have hnone : markOf (c :: rest) = [] := by simp [markOf, hc]
      rw [hnone, List.nil_append]
      exact markOf_unlines_eq_nil (sound_survivors rules _) (not_beginsWithMark_survivors hmark rules)

include hreturns hmark in
/-- What is left is read as the lines that are left. -/
theorem lines_rewritten
    (hrules : ∀ rule ∈ rules, rule.action.lineAction ≠ .modify) :
    lines (withoutMark (rewritten rules text)) = survivors rules text := by
  rw [rewritten_of_no_modify hrules]
  exact (lines_written_eq_iff (sound_survivors rules text)).2
    ⟨isChain_parted_survivors hreturns rules, Or.inr (not_beginsWithMark_survivors hmark rules)⟩

include hreturns hmark in
theorem rewritten_rewritten
    (hrules : ∀ rule ∈ rules, rule.action.lineAction ≠ .modify) :
    rewritten rules (rewritten rules text) = rewritten rules text := by
  have hagain : survivors rules (rewritten rules text) = survivors rules text := by
    rw [survivors, lines_rewritten hreturns hmark hrules, survivors, List.filter_filter]
    simp
  calc rewritten rules (rewritten rules text)
      = markOf (rewritten rules text) ++ unlines (survivors rules (rewritten rules text)) :=
        rewritten_of_no_modify hrules _
    _ = markOf text ++ unlines (survivors rules text) := by
        rw [markOf_rewritten hmark hrules, hagain]
    _ = rewritten rules text := (rewritten_of_no_modify hrules text).symm

/-- Without rules that modify, no line is modified. -/
theorem action_ne_modify
    (hrules : ∀ rule ∈ rules, rule.action.lineAction ≠ .modify)
    (line : List Char) :
    (Rule.evaluate rules line).action ≠ .modify := by
  unfold Rule.evaluate
  cases hfind : rules.find? (·.appliesTo line) with
  | none => simp
  | some rule => exact hrules rule (List.mem_of_find?_eq_some hfind)

include hreturns hmark in
/-- Every line that is left is kept. -/
theorem actions_rewritten
    (hrules : ∀ rule ∈ rules, rule.action.lineAction ≠ .modify) :
    actions rules (rewritten rules text) =
      List.replicate (survivors rules text).length .keep := by
  rw [actions, lines_rewritten hreturns hmark hrules, List.eq_replicate_iff]
  refine ⟨List.length_map _, ?_⟩
  rintro action haction
  obtain ⟨line, hline, rfl⟩ := List.mem_map.1 haction
  have hsurvives := (List.mem_filter.1 hline).2
  have hmodify := action_ne_modify hrules line.text
  rw [survives] at hsurvives
  cases hcase : (Rule.evaluate rules line.text).action with
  | keep => rfl
  | delete => simp [hcase] at hsurvives
  | modify => exact absurd hcase hmodify

include hreturns hmark in
theorem sift_counts_rewritten
    (hrules : ∀ rule ∈ rules, rule.action.lineAction ≠ .modify) :
    (sift rules (Utf8.encode (rewritten rules text))).counts =
      ⟨(sift rules (Utf8.encode text)).counts.keep, 0, 0⟩ := by
  have hmodify : (sift rules (Utf8.encode text)).counts.modify = 0 := by
    show (sift rules (Utf8.encode text)).counts.get .modify = 0
    rw [sift_encode_get, List.count_eq_zero, actions, List.mem_map]
    rintro ⟨line, -, haction⟩
    exact action_ne_modify hrules line.text haction
  have hlength := length_survivors rules text
  rw [ActionCounts.remaining_eq, hmodify, Nat.add_zero] at hlength
  apply ActionCounts.ext_get
  intro action
  rw [sift_encode_get, actions_rewritten hreturns hmark hrules, List.count_replicate, hlength]
  cases action <;> rfl

end Survivors
end Text

/-! ## Trees of the same shape -/

namespace FileSystem.SameShape

variable {fs later : FileSystem} {path : Path}

theorem isLink_of_isLink
    (h : SameShape fs later)
    (hlink : fs.isLink path = true) :
    later.isLink path = true := by
  rw [isLink] at hlink ⊢
  cases hfound : fs.lookupLink path with
  | error e =>
    rw [hfound] at hlink
    cases hlink
  | ok found =>
    obtain ⟨location, entry⟩ := found
    rw [hfound] at hlink
    obtain ⟨entry', hlater, -, hsame⟩ :=
      h.evolves.resolve h.keepsLinks (lookupLink_eq_ok_iff.1 hfound)
    have hnotfile : entry.isFile = false := by
      cases entry with
      | link => rfl
      | _ => cases hlink
    rw [lookupLink_eq_ok_iff.2 hlater, hsame hnotfile]
    exact hlink

theorem isLink_eq
    (h : SameShape fs later)
    (path : Path) :
    later.isLink path = fs.isLink path :=
  Bool.eq_iff_iff.2 ⟨h.symm.isLink_of_isLink, h.isLink_of_isLink⟩

/-- What has been replaced in place has the same target as before. -/
theorem inPlaceTarget_eq
    (h : SameShape fs later)
    {location : Location} {entry : Entry}
    (hlookup : fs.lookup path = .ok (location, entry)) :
    Process.inPlaceTarget later path = Process.inPlaceTarget fs path := by
  obtain ⟨entry', hlater⟩ := h.lookup hlookup
  rw [Process.inPlaceTarget, Process.inPlaceTarget, h.isLink_eq, canonicalize, canonicalize, hlookup,
    hlater]

theorem checkPath_eq
    (h : SameShape fs later)
    (mustExist : Bool)
    (hcheck : Process.checkPath fs mustExist path = .ok ()) :
    Process.checkPath later mustExist path = .ok () := by
  unfold Process.checkPath at hcheck ⊢
  split_ifs at hcheck with hblank hmissing
  rw [if_neg hblank, if_neg]
  simp only [Bool.and_eq_true, Bool.not_eq_true', not_and, Bool.not_eq_false] at hmissing ⊢
  exact fun hmust => h.evolves.isFile h.keepsLinks (hmissing hmust)

/-- A place that a file has can be taken again. -/
theorem canTake
    (h : SameShape fs later)
    {target : Path} {location : Location} {content : List UInt8} {mode : Nat}
    (htarget : Process.CanTake fs target location)
    (hfile : fs.entry? location = some (.file content mode)) :
    Process.CanTake later target location := by
  rcases htarget with hvacant | ⟨entry, -, hfound⟩
  · have hnone : fs.entry? location = none := holds_of_resolve hvacant
    rw [hfile] at hnone
    cases hnone
  · obtain rfl : entry = .file content mode := by
      have hentry : fs.entry? location = some entry := holds_of_resolve hfound
      rw [hfile] at hentry
      exact (Option.some.inj hentry).symm
    obtain ⟨entry', hlater, hkind, -⟩ := h.evolves.resolve h.keepsLinks hfound
    refine Or.inr ⟨entry', ?_, hlater⟩
    rintro rfl
    cases hkind

end FileSystem.SameShape

/-! ## Runs -/

namespace Process

variable {config : Config} {fs : FileSystem} {worker : Nat} {mustExist : Bool} {root : Option Path}
  {path target : Path} {source location : Location} {content : List UInt8} {mode : Nat}

/-- A file that is text and can be replaced is replaced. -/
theorem run_inPlace_of_canTake
    (worker : Nat) (root : Option Path)
    (hfs : fs.WellFormed)
    (hinPlace : config.output = .inPlace)
    (hcheck : checkPath fs mustExist path = .ok ())
    (hplace : inPlaceTarget fs path = .ok target)
    (htarget : CanTake fs target location)
    (hlookup : fs.lookup path = .ok (source, .file content mode))
    (hfault : (sift config.rules content).fault = none) :
    ∃ after, run config fs worker mustExist root path =
        (after, ⟨path, some target, none, (sift config.rules content).counts⟩) ∧
      Published fs after worker location
        (.file (sift config.rules content).bytes (publishedMode config mode)) := by
  obtain ⟨name, directory, rfl, hlocates⟩ := htarget.exists_locates hfs
  have hsame := sameBut_newScratch fs worker ⟨directory, [], scratchMode⟩
  have hcontent : fs.contentOf path = .ok content := by rw [contentOf, hlookup]
  have hmode : fs.modeOf path = .ok mode := by rw [modeOf, hlookup]
  obtain ⟨after, hfill, hafter⟩ := @fill_of_sights _ config worker path target _ content mode _
    (Std.ExtTreeMap.getElem?_insert_self (t := fs.scratch)) rfl rfl
    ((hsame.sameTree.contentOf path).trans hcontent) hfault
    (fun _ => (hsame.sameTree.modeOf path).trans hmode) (htarget.congr hsame.sameTree)
  refine ⟨after, ?_, hafter.of_sameBut hsame⟩
  simp only [run, hcheck, destination, hinPlace, hplace, replace,
    createScratch_of_lookup (lookup_scratchDirectory_of_locates hlocates), hfill]

theorem checkPath_of_success
    (h : (run config fs worker mustExist root path).2.success = true) :
    checkPath fs mustExist path = .ok () := by
  cases hcheck : checkPath fs mustExist path with
  | error e =>
    simp only [run, hcheck] at h
    cases h
  | ok => rfl

/-- A mode that has been published is published again. -/
theorem publishedMode_publishedMode
    (config : Config) (mode : Nat) :
    publishedMode config (publishedMode config mode) = publishedMode config mode := by
  unfold publishedMode
  split_ifs
  · exact Nat.mod_mod _ _
  · rfl

end Process

section Again

open Process Text

variable {config : Config} {fs : FileSystem} {path : Path} {text : List Char}

/-- Filtering a file in place a second time succeeds, changes nothing and keeps every line, as many as
were kept the first time. -/
theorem processFile_refiltering
    (hfs : fs.WellFormed)
    (hfree : fs.scratch[0]? = none)
    (hinPlace : config.output = .inPlace)
    (hrules : ∀ rule ∈ config.rules, rule.action.lineAction ≠ .modify)
    (hcontent : fs.contentOf path = .ok (Utf8.encode text))
    (hreturns : PairedReturns text)
    (hmark : MarkOnlyFirst text)
    (hsuccess : (processFile config fs path).2.success = true) :
    processFile config (processFile config fs path).1 path =
      ((processFile config fs path).1,
        ⟨path, (processFile config fs path).2.outputPath, none,
          ⟨(processFile config fs path).2.counts.keep, 0, 0⟩⟩) := by
  have hcheck := checkPath_of_success hsuccess
  obtain ⟨-, hafter, hscratch⟩ := evolves_run config true none path hfs hfree
  obtain ⟨-, made, -, -, hran⟩ := @run_cases config fs 0 true none path hfs hfree
  have hshape := (Dispatch.reworked_of_ranInPlace hfs
    (ranInPlace_run true none path hfs hfree hinPlace)).sameShape
  simp only [processFile] at hsuccess ⊢
  generalize run config fs 0 true none path = first at hsuccess hafter hscratch hran hshape ⊢
  obtain ⟨after, result⟩ := first
  cases hran with
  | failed hsame herror =>
    rw [herror] at hsuccess
    cases hsuccess
  | @published target location content mode hplace hread hmode hfault htarget hpublished =>
    simp only [destination, hinPlace, Prod.mk.injEq] at hplace
    obtain ⟨rfl, hplace⟩ := hplace
    cases hread.symm.trans hcontent
    obtain ⟨source, mode', hlookup, hmode'⟩ := exists_modeOf_of_contentOf hread
    cases hmode.symm.trans hmode'
    cases eq_of_inPlaceTarget hfs hplace htarget hlookup
    -- the path leads to what has been published
    obtain ⟨entry, hlater⟩ := hshape.lookup hlookup
    have hentry : after.entry? location = some entry := holds_of_resolve (lookup_eq_ok_iff.1 hlater)
    cases hentry.symm.trans hpublished.entry?_self
    have hfile : fs.entry? location = some (.file (Utf8.encode text) mode) :=
      holds_of_resolve (lookup_eq_ok_iff.1 hlookup)
    have htext := sift_encode_bytes config.rules text
    have hfault' : (sift config.rules (sift config.rules (Utf8.encode text)).bytes).fault = none :=
      (sift_fault_eq_none_iff config.rules _).2 ⟨_, htext⟩
    obtain ⟨last, hlast, hlastPublished⟩ := run_inPlace_of_canTake 0 none hafter hinPlace
      (hshape.checkPath_eq true hcheck) ((hshape.inPlaceTarget_eq hlookup).trans hplace)
      (hshape.canTake htarget hfile) hlater hfault'
    have hroot := @root_run config after 0 true none path
    have hsame : last = after := by
      rw [hlast] at hroot
      refine eq_of_sameTree ⟨hlastPublished.workingDirectory, fun other => ?_⟩ hroot ?_
      · by_cases hother : other = location
        · rw [hother, hlastPublished.entry?_self, hentry, publishedMode_publishedMode, htext,
            sift_encode_bytes, rewritten_rewritten hreturns hmark hrules]
        · exact hlastPublished.entry?_of_ne other hother
      · rw [hlastPublished.scratch, erase_of_getElem?_eq_none (by rw [hscratch, hfree])]
    rw [hlast, hsame, htext, sift_counts_rewritten hreturns hmark hrules]

theorem processFile_refiltering_marked_file :
    (processFile ⟨[⟨.delete, Regex.compile? ['x'], none⟩], .inPlace, .sequential, true⟩
        (withFile ['a'] (Utf8.encode [byteOrderMark, 'x', '\r', '\n', 'b', '\n', 'c', 'x']) 0o644)
        ⟨['a']⟩).2.counts = ⟨1, 2, 0⟩ ∧
      (processFile ⟨[⟨.delete, Regex.compile? ['x'], none⟩], .inPlace, .sequential, true⟩
        (processFile ⟨[⟨.delete, Regex.compile? ['x'], none⟩], .inPlace, .sequential, true⟩
          (withFile ['a'] (Utf8.encode [byteOrderMark, 'x', '\r', '\n', 'b', '\n', 'c', 'x']) 0o644)
          ⟨['a']⟩).1 ⟨['a']⟩).2.counts = ⟨1, 0, 0⟩ := by
  have hfs : (withFile ['a'] (Utf8.encode [byteOrderMark, 'x', '\r', '\n', 'b', '\n', 'c', 'x'])
      0o644).WellFormed :=
    wellFormed_withFile _ ⟨by decide, by decide, by decide⟩ (by decide) (by decide) (by decide)
  have hcounts : (processFile ⟨[⟨.delete, Regex.compile? ['x'], none⟩], .inPlace, .sequential, true⟩
      (withFile ['a'] (Utf8.encode [byteOrderMark, 'x', '\r', '\n', 'b', '\n', 'c', 'x']) 0o644)
      ⟨['a']⟩).2.counts = ⟨1, 2, 0⟩ := by
    decide +kernel
  refine ⟨hcounts, ?_⟩
  rw [processFile_refiltering hfs (scratch_withFile ['a'] _ 0o644 0) rfl
    (by simp [RuleAction.lineAction]) rfl (by decide) (by decide) (by decide +kernel), hcounts]

end Again

end LineSieve
