import LineSieve.Proofs.Rendering

/-!
# Other endings

The rules look at the text of a line and never at its ending.  A text can be `converted` to one kind of
ending: a byte order mark stays, and so does the end of a text that has no ending there.  No two lines of
the text are read as one afterwards, because `\r` and `\n` can only meet where different endings do, and
no line is read as two.

So the lines have the same outcomes as before, although a file of lines that end in `\r` is read as a
single chunk, and one of lines that end in `\n` chunk by chunk.  `processFile_converted` says what
this means for the file that is published.
-/

namespace LineSieve

/-! ## Lines -/

/-- A line with another ending, unless it has none. -/
def Line.withEnding (line : Line) (ending : LineEnding) : Line :=
  if line.ending = .missing then line else { line with ending }

namespace Line

variable {ending : LineEnding}

@[simp] theorem text_withEnding
    (line : Line) (ending : LineEnding) :
    (line.withEnding ending).text = line.text := by
  unfold withEnding
  split_ifs <;> rfl

theorem ending_withEnding
    (line : Line) (ending : LineEnding) :
    (line.withEnding ending).ending = if line.ending = .missing then .missing else ending := by
  unfold withEnding
  split_ifs with hmissing
  · exact hmissing
  · rfl

theorem ending_withEnding_eq_missing_iff
    (hending : ending ≠ .missing)
    (line : Line) :
    (line.withEnding ending).ending = .missing ↔ line.ending = .missing := by
  rw [ending_withEnding]
  split_ifs with hmissing
  · exact iff_of_true rfl hmissing
  · exact iff_of_false hending hmissing

end Line

namespace Text

variable {ending : LineEnding} {ls : List Line} {text : List Char}

theorem Sound.withEnding
    (h : Sound ls)
    (hending : ending ≠ .missing) :
    Sound (ls.map (·.withEnding ending)) where
  no_cr := by simpa using h.no_cr
  no_lf := by simpa using h.no_lf
  nonempty := by
    simpa [Line.ending_withEnding_eq_missing_iff hending] using h.nonempty
  terminated := by
    simpa [List.pairwise_map, Line.ending_withEnding_eq_missing_iff hending] using h.terminated

/-- Lines with one kind of ending are parted. -/
theorem isChain_parted_withEnding
    (ending : LineEnding) (ls : List Line) :
    (ls.map (·.withEnding ending)).IsChain Parted := by
  refine (List.pairwise_of_forall_mem_list fun line hline next hnext hcr => ?_).isChain
  obtain ⟨line, -, rfl⟩ := List.mem_map.1 hline
  obtain ⟨next, -, rfl⟩ := List.mem_map.1 hnext
  rw [Line.ending_withEnding] at hcr
  split_ifs at hcr
  intro heq
  have hlf := congrArg Line.ending heq
  rw [Line.ending_withEnding, hcr] at hlf
  split_ifs at hlf

/-! ## Texts -/

/-- A text with every ending replaced.  A byte order mark stays, and a missing ending stays missing. -/
def converted (ending : LineEnding) (text : List Char) : List Char :=
  markOf text ++ unlines ((lines (withoutMark text)).map (·.withEnding ending))

/-- Without a byte order mark at its start, a text has none at the start of its first line. -/
theorem not_beginsWithMark_withEnding
    (h : markOf text = [])
    (ending : LineEnding) :
    ¬BeginsWithMark ((lines (withoutMark text)).map (·.withEnding ending)) := by
  rintro ⟨first, last, rest, heq⟩
  rw [withoutMark_of_markOf_eq_nil h] at heq
  obtain ⟨line, others, hlines, hline, -⟩ := List.map_eq_cons_iff.1 heq
  have htext : line.text = byteOrderMark :: first := by
    rw [← Line.text_withEnding line ending, hline]
  have hwhole := unlines_lines text
  rw [hlines, unlines_cons, htext] at hwhole
  rw [← hwhole] at h
  simp [markOf] at h

theorem markOf_append_of_markOf_ne_nil
    (h : markOf text ≠ [])
    (rest : List Char) :
    markOf (markOf text ++ rest) = markOf text := by
  cases text with
  | nil => exact absurd rfl h
  | cons c text =>
    rw [markOf] at h ⊢
    split_ifs at h ⊢ with hc
    · simp [markOf, hc]
    · exact absurd rfl h

section Converted

variable (hending : ending ≠ .missing)

include hending in
theorem markOf_converted
    (text : List Char) :
    markOf (converted ending text) = markOf text := by
  by_cases hmark : markOf text = []
  · rw [converted, hmark, List.nil_append]
    exact markOf_unlines_eq_nil ((Sound.lines _).withEnding hending)
      (not_beginsWithMark_withEnding hmark ending)
  · exact markOf_append_of_markOf_ne_nil hmark _

include hending in
/-- The lines of a converted text are those of the text, each with its new ending. -/
theorem lines_converted
    (text : List Char) :
    lines (withoutMark (converted ending text)) =
      (lines (withoutMark text)).map (·.withEnding ending) := by
  have hmark : markOf text ≠ [] ∨
      ¬BeginsWithMark ((lines (withoutMark text)).map (·.withEnding ending)) := by
    rw [or_iff_not_imp_left, not_not]
    exact fun hmark => not_beginsWithMark_withEnding hmark ending
  rw [converted, lines_written ((Sound.lines _).withEnding hending) hmark]
  exact (joined_eq_self_iff _).2 (isChain_parted_withEnding ending _)

include hending in
theorem outcomes_converted
    (rules : List Rule) (text : List Char) :
    outcomes rules (converted ending text) = outcomes rules text := by
  rw [outcomes, outcomes, lines_converted hending, List.map_map]
  simp [Function.comp_def]

theorem publishedLine?_withEnding
    (rules : List Rule) (ending : LineEnding) (line : Line) :
    publishedLine? rules (line.withEnding ending) =
      (publishedLine? rules line).map (·.withEnding ending) := by
  rw [publishedLine?, publishedLine?, Line.text_withEnding, Line.ending_withEnding]
  cases (Rule.evaluate rules line.text).text with
  | none => rfl
  | some text =>
    simp only [Option.map_some, Line.withEnding]
    split_ifs with hmissing
    · rw [hmissing]
    · rfl

include hending in
theorem publishedLines_converted
    (rules : List Rule) (text : List Char) :
    publishedLines rules (converted ending text) =
      (publishedLines rules text).map (·.withEnding ending) := by
  rw [publishedLines, publishedLines, lines_converted hending, List.filterMap_map,
    List.map_filterMap]
  congr 1
  funext line
  exact publishedLine?_withEnding rules ending line

end Converted
end Text

/-! ## Files -/

section Converted

open FileSystem Process Text

variable {config : Config} {fs : FileSystem} {path : Path} {location : Location}
  {content : List UInt8} {mode : Nat} {ending : LineEnding}

/-- When the endings in a file are replaced, every line has the outcome that it had, and the file is
processed with the same result.  What is published are the lines that would have been published before,
each with the new ending if it had one, behind the byte order mark if there is one. -/
theorem processFile_converted
    (hfs : fs.WellFormed)
    (hfree : fs.scratch[0]? = none)
    (hfile : fs.lookup path = .ok (location, .file content mode))
    (hending : ending ≠ .missing)
    (text : List Char) :
    outcomes config.rules (converted ending text) = outcomes config.rules text ∧
      (processFile config (fs.withText location mode (converted ending text)) path).2 =
        (processFile config (fs.withText location mode text) path).2 ∧
      Renders config (fs.withText location mode text) path text ∧
      (CanReplace config fs path →
        (processFile config (fs.withText location mode text) path).2.success = true) ∧
      ((processFile config (fs.withText location mode text) path).2.success = true →
        Publishes config (fs.withText location mode (converted ending text)) path
          (markOf text ++
            unlines ((publishedLines config.rules text).map (·.withEnding ending)))) := by
  have hcourse := sameCourse_withText hfs hfile config text (converted ending text)
  have hrenders := renders_withText hfs hfile config hfree text
  refine ⟨outcomes_converted hending config.rules text, ?_, hrenders, fun hcan => ?_, fun hsuccess => ?_⟩
  · have hcounts : (sift config.rules (Utf8.encode text)).counts =
        (sift config.rules (Utf8.encode (converted ending text))).counts := by
      apply ActionCounts.ext_get
      intro action
      rw [sift_encode_get_eq_count, sift_encode_get_eq_count, outcomes_converted hending]
    rw [← hcounts] at hcourse
    exact hcourse.eq
  · exact hrenders.succeeds (hcan.of_sameShape (sameShape_withText_self hfile text))
  · have hpublishes := (renders_withText hfs hfile config hfree (converted ending text)).publishes
    rw [hcourse.success, markOf_converted hending, publishedLines_converted hending] at hpublishes
    exact hpublishes hsuccess

theorem processFile_converted_mixed_endings :
    (withFile ['a'] [] 0o644).WellFormed ∧
      converted .cr [byteOrderMark, 'x', '\r', '\n', 'y', '\n', 'z', '\n', 'x'] =
        [byteOrderMark, 'x', '\r', 'y', '\r', 'z', '\r', 'x'] ∧
      Publishes ⟨[⟨.delete, Regex.compile? ['y'], none⟩], .inPlace, .sequential, true⟩
        ((withFile ['a'] [] 0o644).withText [['a']] 0o644
          (converted .cr [byteOrderMark, 'x', '\r', '\n', 'y', '\n', 'z', '\n', 'x'])) ⟨['a']⟩
        [byteOrderMark, 'x', '\r', 'z', '\r', 'x'] := by
  have hfs : (withFile ['a'] [] 0o644).WellFormed :=
    wellFormed_withFile _ ⟨by decide, by decide, by decide⟩ (by decide) (by decide) (by decide)
  have hlines : publishedLines [⟨.delete, Regex.compile? ['y'], none⟩]
      [byteOrderMark, 'x', '\r', '\n', 'y', '\n', 'z', '\n', 'x'] =
        [⟨['x'], .crlf⟩, ⟨['z'], .lf⟩, ⟨['x'], .missing⟩] := by
    decide +kernel
  obtain ⟨-, -, -, hsucceeds, hpublishes⟩ :=
    @processFile_converted ⟨[⟨.delete, Regex.compile? ['y'], none⟩], .inPlace, .sequential, true⟩
      _ ⟨['a']⟩ [['a']] [] 0o644 .cr hfs (scratch_withFile ['a'] _ 0o644 0) (by decide) (by decide)
      [byteOrderMark, 'x', '\r', '\n', 'y', '\n', 'z', '\n', 'x']
  have hpublished := hpublishes (hsucceeds ⟨rfl, by decide, ⟨['a']⟩, by decide⟩)
  rw [hlines] at hpublished
  exact ⟨hfs, by decide, hpublished⟩

end Converted

end LineSieve
