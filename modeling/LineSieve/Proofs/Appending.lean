import LineSieve.Proofs.Rendering

/-!
# Rules behind other rules

The first rule that applies to a line decides.  So of two lists of rules, one behind the other, the
second only gets to see the lines that the first leaves undecided; these would be kept without it.

`processFile_appended_rules` says what that means for a file.  Behind a rule that puts no condition on a
line nothing has any effect.  Rules that only delete can strike lines that would have been kept, and do
nothing else: what is published is a part of what was published before, as many more lines are deleted
as fewer are kept, and as many are modified.
-/

namespace LineSieve

open FileSystem

/-! ## One line -/

namespace Rule

/-- Whether one of the rules applies to a line. -/
def decides (rules : List Rule) (line : List Char) : Bool := rules.any (·.appliesTo line)

/-- A rule that applies to every line. -/
def IsUnconditional (rule : Rule) : Prop := rule.positive = none ∧ rule.negative = none

variable {front back : List Rule} {line : List Char}

theorem decides_eq_isSome
    (rules : List Rule) (line : List Char) :
    decides rules line = (rules.find? (·.appliesTo line)).isSome := by
  rw [Bool.eq_iff_iff, decides, List.any_eq_true, List.find?_isSome]

theorem evaluate_of_not_decides
    (h : decides front line = false) :
    evaluate front line = ⟨.keep, some line⟩ := by
  rw [decides_eq_isSome, Option.isSome_eq_false_iff, Option.isNone_iff_eq_none] at h
  rw [evaluate, h]

/-- A line goes to the second list exactly if the first leaves it undecided. -/
theorem evaluate_append
    (front back : List Rule) (line : List Char) :
    evaluate (front ++ back) line =
      if decides front line then evaluate front line else evaluate back line := by
  rw [decides_eq_isSome, evaluate, evaluate, evaluate, List.find?_append]
  cases front.find? (·.appliesTo line) <;> rfl

theorem decides_of_isUnconditional
    {rule : Rule}
    (h : rule.IsUnconditional)
    (hmem : rule ∈ front)
    (line : List Char) :
    decides front line = true := by
  obtain ⟨hpositive, hnegative⟩ := h
  rw [decides, List.any_eq_true]
  exact ⟨rule, hmem, by rw [appliesTo, hpositive, hnegative]; rfl⟩

/-- Rules that only delete do nothing else to the lines that they decide. -/
theorem evaluate_of_deletes
    (hback : ∀ rule ∈ back, rule.action = .delete)
    (hdecides : decides back line = true) :
    evaluate back line = ⟨.delete, none⟩ := by
  rw [decides_eq_isSome, Option.isSome_iff_exists] at hdecides
  obtain ⟨rule, hfind⟩ := hdecides
  have haction := hback rule (List.mem_of_find?_eq_some hfind)
  rw [evaluate, hfind]
  simp only [apply, haction]
  rfl

/-- Whether the second of two lists decides a line that the first leaves undecided. -/
def strikes (front back : List Rule) (line : List Char) : Bool :=
  !decides front line && decides back line

theorem evaluate_of_strikes
    (h : strikes front back line = true) :
    evaluate front line = ⟨.keep, some line⟩ := by
  rw [strikes, Bool.and_eq_true, Bool.not_eq_true'] at h
  exact evaluate_of_not_decides h.1

theorem evaluate_append_of_deletes
    (hback : ∀ rule ∈ back, rule.action = .delete)
    (line : List Char) :
    evaluate (front ++ back) line =
      if strikes front back line then ⟨.delete, none⟩ else evaluate front line := by
  rw [evaluate_append, strikes]
  cases hfront : decides front line with
  | true => rfl
  | false =>
    rw [evaluate_of_not_decides hfront]
    cases hdecides : decides back line with
    | true => exact evaluate_of_deletes hback hdecides
    | false => exact evaluate_of_not_decides hdecides

end Rule

/-! ## All lines -/

namespace Text

variable {front back : List Rule}

theorem getElem?_outcomes_append
    (front back : List Rule) (text : List Char)
    {i : Nat} {line : Line}
    (hline : (lines (withoutMark text))[i]? = some line) :
    (outcomes (front ++ back) text)[i]? =
      if Rule.decides front line.text then (outcomes front text)[i]? else (outcomes back text)[i]? := by
  simp only [outcomes, List.getElem?_map, hline, Option.map_some]
  rw [Rule.evaluate_append]
  split_ifs <;> rfl

/-- Rules that only delete, behind other rules, take lines out of what is published. -/
theorem publishedLines_append_eq_filterMap
    (hback : ∀ rule ∈ back, rule.action = .delete)
    (text : List Char) :
    publishedLines (front ++ back) text =
      ((lines (withoutMark text)).filter fun line =>
        !Rule.strikes front back line.text).filterMap (publishedLine? front) := by
  rw [publishedLines, List.filterMap_filter]
  congr 1
  funext line
  rw [publishedLine?, Rule.evaluate_append_of_deletes hback]
  cases Rule.strikes front back line.text <;> rfl

theorem sublist_publishedLines_append
    (hback : ∀ rule ∈ back, rule.action = .delete)
    (text : List Char) :
    (publishedLines (front ++ back) text).Sublist (publishedLines front text) := by
  rw [publishedLines_append_eq_filterMap hback]
  exact List.filter_sublist.filterMap _

/-- Every line that is struck counts as deleted instead of kept, and no other line counts otherwise
than before. -/
theorem count_outcomes_append
    (hback : ∀ rule ∈ back, rule.action = .delete)
    (text : List Char) :
    ((outcomes (front ++ back) text).map (·.action)).count .modify =
        ((outcomes front text).map (·.action)).count .modify ∧
      ((outcomes (front ++ back) text).map (·.action)).count .delete =
        ((outcomes front text).map (·.action)).count .delete +
          (lines (withoutMark text)).countP (Rule.strikes front back ·.text) ∧
      ((outcomes front text).map (·.action)).count .keep =
        ((outcomes (front ++ back) text).map (·.action)).count .keep +
          (lines (withoutMark text)).countP (Rule.strikes front back ·.text) := by
  rw [outcomes, outcomes]
  induction lines (withoutMark text) with
  | nil => exact ⟨rfl, rfl, rfl⟩
  | cons line rest ih =>
    obtain ⟨hmodify, hdelete, hkeep⟩ := ih
    simp only [List.map_cons, List.count_cons, List.countP_cons]
    rw [Rule.evaluate_append_of_deletes hback]
    cases hstrikes : Rule.strikes front back line.text with
    | false =>
      simp only [Bool.false_eq_true, if_false]
      omega
    | true =>
      rw [Rule.evaluate_of_strikes hstrikes]
      simp only [if_true, beq_iff_eq, reduceCtorEq, if_false]
      omega

end Text

/-! ## Files -/

/-- Rules that give every line the same outcome sift alike. -/
theorem sift_congr
    {rules rules' : List Rule}
    (h : ∀ line, Rule.evaluate rules' line = Rule.evaluate rules line) :
    sift rules' = sift rules := by
  have hpiece : Sifting.pieceOf rules' = Sifting.pieceOf rules := by
    funext line
    rw [Sifting.pieceOf, Sifting.pieceOf, h]
  have htext : Sifting.ofText rules' = Sifting.ofText rules := by
    funext text
    simp only [Sifting.ofText, hpiece, h]
  have hfirst : Sifting.ofFirstText rules' = Sifting.ofFirstText rules := by
    funext text
    simp only [Sifting.ofFirstText, htext]
  have hchunks : ∀ atStart chunks,
      Sifting.ofChunks rules' atStart chunks = Sifting.ofChunks rules atStart chunks := by
    intro atStart chunks
    induction chunks generalizing atStart with
    | nil => rfl
    | cons chunk rest ih =>
      rw [Sifting.ofChunks, Sifting.ofChunks, ih, Sifting.ofChunk, Sifting.ofChunk, htext, hfirst]
  funext content
  exact hchunks true _

namespace Process

/-- The rules take part in a run only by sifting. -/
theorem run_congr
    {config config' : Config}
    (hsift : sift config'.rules = sift config.rules)
    (houtput : config'.output = config.output)
    (hkeep : config'.keepPermissions = config.keepPermissions) :
    run config' = run config := by
  have hdestination : destination config' = destination config := by
    funext fs root path
    rw [destination, destination, houtput]
  have hfill : fill config' = fill config := by
    funext fs worker path target
    simp only [fill, publish, hsift, hkeep]
  funext fs worker mustExist root path
  simp only [run, replace, hdestination, hfill]

end Process

/-- The configuration with other rules. -/
def Config.withRules (config : Config) (rules : List Rule) : Config := { config with rules }

section Appended

open Process Text

variable {fs : FileSystem} {path : Path} {text : List Char} {front back : List Rule}

/-- A run with other rules takes the same course, but for the counts. -/
theorem sameCourse_withRules
    (hfs : fs.WellFormed)
    (hcontent : fs.contentOf path = .ok (Utf8.encode text))
    (config : Config) (rules rules' : List Rule) :
    SameCourse (sift rules (Utf8.encode text)).counts (sift rules' (Utf8.encode text)).counts
      (processFile (config.withRules rules) fs path).2
      (processFile (config.withRules rules') fs path).2 :=
  @sameCourse_run (config.withRules rules) (config.withRules rules') fs fs path text text
    (.refl fs) rfl hcontent hcontent hfs hfs rfl 0 true none

/-- Rules behind others decide the lines that the others leave undecided.  Nothing changes if one of the
others applies to every line.  If the rules behind only delete, lines are taken out of what is
published, and each of them is counted as deleted instead of kept. -/
theorem processFile_appended_rules
    (hfs : fs.WellFormed)
    (hfree : fs.scratch[0]? = none)
    (hcontent : fs.contentOf path = .ok (Utf8.encode text))
    (config : Config) (front back : List Rule) :
    (∀ rules, Renders (config.withRules rules) fs path text) ∧
      (processFile (config.withRules (front ++ back)) fs path).2.success =
        (processFile (config.withRules front) fs path).2.success ∧
      (∀ (i : Nat) (line : Line), (lines (withoutMark text))[i]? = some line →
        (outcomes (front ++ back) text)[i]? =
          if Rule.decides front line.text then (outcomes front text)[i]?
          else (outcomes back text)[i]?) ∧
      ((∃ rule ∈ front, rule.IsUnconditional) →
        processFile (config.withRules (front ++ back)) fs path =
          processFile (config.withRules front) fs path) ∧
      ((∀ rule ∈ back, rule.action = .delete) →
        (publishedLines (front ++ back) text).Sublist (publishedLines front text) ∧
        (processFile (config.withRules (front ++ back)) fs path).2.counts.modify =
          (processFile (config.withRules front) fs path).2.counts.modify ∧
        ∃ struck,
          (processFile (config.withRules (front ++ back)) fs path).2.counts.delete =
            (processFile (config.withRules front) fs path).2.counts.delete + struck ∧
          (processFile (config.withRules front) fs path).2.counts.keep =
            (processFile (config.withRules (front ++ back)) fs path).2.counts.keep + struck) := by
  have hcourse := sameCourse_withRules hfs hcontent config front (front ++ back)
  refine ⟨fun rules => renders_of_contentOf _ hfs hfree hcontent, hcourse.success,
    fun i line => getElem?_outcomes_append front back text, ?_, ?_⟩
  · rintro ⟨rule, hmem, hrule⟩
    have hsift : sift (front ++ back) = sift front := sift_congr fun line => by
      rw [Rule.evaluate_append, if_pos (Rule.decides_of_isUnconditional hrule hmem line)]
    rw [processFile, processFile,
      @run_congr (config.withRules front) (config.withRules (front ++ back)) hsift rfl rfl]
  · intro hback
    refine ⟨sublist_publishedLines_append hback text, ?_⟩
    obtain ⟨hmodify, hdelete, hkeep⟩ := @count_outcomes_append front back hback text
    simp only [← sift_encode_get_eq_count] at hmodify hdelete hkeep
    rcases hcourse.counts with ⟨hzero, hzero'⟩ | ⟨hcounts, hcounts'⟩
    · rw [hzero, hzero']
      exact ⟨rfl, 0, rfl, rfl⟩
    · rw [hcounts, hcounts']
      exact ⟨hmodify, _, hdelete, hkeep⟩

theorem processFile_appended_rules_struck_line :
    let front : List Rule := [⟨.keep, Regex.compile? ['x'], none⟩]
    let back : List Rule := [⟨.delete, none, Regex.compile? ['z']⟩]
    let config : Config := ⟨[], .inPlace, .sequential, true⟩
    let text := ['x', '\n', 'y', '\r', 'z', '\n', 'x', 'y']
    let fs := withFile ['a'] (Utf8.encode text) 0o644
    fs.WellFormed ∧ (∀ rule ∈ back, rule.action = .delete) ∧
      Publishes (config.withRules (front ++ back)) fs ⟨['a']⟩ ['x', '\n', 'z', '\n', 'x', 'y'] ∧
      (publishedLines (front ++ back) text).Sublist (publishedLines front text) ∧
      ∃ struck,
        (processFile (config.withRules (front ++ back)) fs ⟨['a']⟩).2.counts.delete =
          (processFile (config.withRules front) fs ⟨['a']⟩).2.counts.delete + struck := by
  intro front back config text fs
  have hfs : fs.WellFormed :=
    wellFormed_withFile _ ⟨by decide, by decide, by decide⟩ (by decide) (by decide) (by decide)
  have hback : ∀ rule ∈ back, rule.action = .delete := by simp [back]
  have hlines : publishedLines (front ++ back) text =
      [⟨['x'], .lf⟩, ⟨['z'], .lf⟩, ⟨['x', 'y'], .missing⟩] := by
    decide +kernel
  obtain ⟨hrenders, -, -, -, hdeletes⟩ :=
    @processFile_appended_rules fs ⟨['a']⟩ text hfs (scratch_withFile ['a'] _ 0o644 0) rfl config
      front back
  obtain ⟨hsublist, -, struck, hdelete, -⟩ := hdeletes hback
  have hpublishes := (hrenders (front ++ back)).publishes
    ((hrenders (front ++ back)).succeeds ⟨rfl, by decide, ⟨['a']⟩, by decide⟩)
  have hrules : (config.withRules (front ++ back)).rules = front ++ back := rfl
  rw [hrules, hlines] at hpublishes
  exact ⟨hfs, hback, hpublishes, hsublist, struck, hdelete⟩

end Appended

end LineSieve
