import LineSieve.Proofs.Joining
import Mathlib.Data.Set.List

/-!
# What cutting a text into lines is

That nothing is lost does not yet say how a text is cut.  `SplitsInto` lists what else a reader of
lines relies on, for any pairs of texts, without a word on how they are found: which terminators there
are, that no line holds one, that only the end of the text can stand in for one, and that no
terminator is cut in two.  `splitsInto_iff` says that every text can be cut in this way, that there is
no second way, and that `lines` is the one.

Pairs with these terminators are lines written out, and for lines the conditions are those under which
`lines_unlines` finds them again.
-/

namespace LineSieve

/-- The line and its terminator as texts. -/
def Line.texts (line : Line) : List Char × List Char := (line.text, line.ending.text)

/-- The texts that can end a line; the last one stands for the end of the text. -/
def LineEnding.terminators : List (List Char) := [['\r', '\n'], ['\n'], ['\r'], []]

namespace LineEnding

variable {ending : LineEnding}

theorem exists_text_eq
    {terminator : List Char}
    (h : terminator ∈ terminators) :
    ∃ ending : LineEnding, ending.text = terminator := by
  simp only [terminators, List.mem_cons, List.not_mem_nil, or_false] at h
  rcases h with rfl | rfl | rfl | rfl
  exacts [⟨crlf, rfl⟩, ⟨lf, rfl⟩, ⟨cr, rfl⟩, ⟨missing, rfl⟩]

theorem text_mem_terminators
    (ending : LineEnding) :
    ending.text ∈ terminators := by
  cases ending <;> decide

theorem text_eq_nil_iff :
    ending.text = [] ↔ ending = missing := by
  cases ending <;> simp [text]

theorem text_eq_cr_iff :
    ending.text = ['\r'] ↔ ending = cr := by
  cases ending <;> simp [text]

theorem text_eq_lf_iff :
    ending.text = ['\n'] ↔ ending = lf := by
  cases ending <;> simp [text]

end LineEnding

namespace Text

/-- A text is cut into lines with their terminators. -/
structure SplitsInto (text : List Char) (pairs : List (List Char × List Char)) : Prop where
  lossless : (pairs.flatMap fun pair => pair.1 ++ pair.2) = text
  no_terminator : ∀ pair ∈ pairs, '\r' ∉ pair.1 ∧ '\n' ∉ pair.1
  terminator : ∀ pair ∈ pairs, pair.2 ∈ LineEnding.terminators
  /-- Only the last line can lack a terminator, and then there is something on it. -/
  unterminated : ∀ before pair after, pairs = before ++ pair :: after → pair.2 = [] →
    after = [] ∧ pair.1 ≠ []
  /-- A lone `\r` does not stand where it and the next terminator make one. -/
  uncut : ∀ before pair next after, pairs = before ++ pair :: next :: after → pair.2 = ['\r'] →
    next ≠ ([], ['\n'])

/-- Pairs with these terminators are lines written out. -/
theorem SplitsInto.exists_lines
    {text : List Char} {pairs : List (List Char × List Char)}
    (h : SplitsInto text pairs) :
    ∃ ls : List Line, ls.map Line.texts = pairs := by
  have hpairs : ∀ pair ∈ pairs, pair ∈ Set.range Line.texts := by
    intro pair hmem
    obtain ⟨ending, hending⟩ := LineEnding.exists_text_eq (h.terminator pair hmem)
    exact ⟨⟨pair.1, ending⟩, by rw [Line.texts, hending]⟩
  exact (Set.range_list_map Line.texts).ge hpairs

theorem Parted.texts_ne
    {line next : Line}
    (h : Parted line next)
    (hcr : line.texts.2 = ['\r']) :
    next.texts ≠ ([], ['\n']) := by
  intro hnext
  obtain ⟨htext, hending⟩ := Prod.mk.inj hnext
  refine h (LineEnding.text_eq_cr_iff.1 hcr) ?_
  rw [← LineEnding.text_eq_lf_iff.1 hending, ← htext]

section Written

variable {text : List Char} {ls : List Line}

theorem Sound.of_splitsInto
    (h : SplitsInto text (ls.map Line.texts)) :
    Sound ls where
  no_cr := fun _ hmem => (h.no_terminator _ (List.mem_map_of_mem hmem)).1
  no_lf := fun _ hmem => (h.no_terminator _ (List.mem_map_of_mem hmem)).2
  nonempty := by
    intro line hmem hmissing
    obtain ⟨before, after, rfl⟩ := List.append_of_mem hmem
    exact (h.unterminated (before.map Line.texts) line.texts (after.map Line.texts) (by simp)
      (LineEnding.text_eq_nil_iff.2 hmissing)).2
  terminated := by
    -- a line that has another one behind it is told by its neighbour alone
    have : Trans (fun line _ : Line => line.ending ≠ .missing)
        (fun line _ : Line => line.ending ≠ .missing) (fun line _ : Line => line.ending ≠ .missing) :=
      ⟨fun hfirst _ => hfirst⟩
    rw [← List.isChain_iff_pairwise, List.isChain_iff_forall_rel_of_append_cons_cons]
    rintro line next before after rfl hmissing
    have hlast := (h.unterminated (before.map Line.texts) line.texts ((next :: after).map Line.texts)
      (by simp) (LineEnding.text_eq_nil_iff.2 hmissing)).1
    cases hlast

theorem isChain_parted_of_splitsInto
    (h : SplitsInto text (ls.map Line.texts)) :
    ls.IsChain Parted := by
  rw [List.isChain_iff_forall_rel_of_append_cons_cons]
  rintro line next before after rfl hcr rfl
  exact h.uncut (before.map Line.texts) line.texts _ (after.map Line.texts) (by simp; rfl)
    (LineEnding.text_eq_cr_iff.2 hcr) rfl

/-- Sound lines that are parted from each other are what their text is cut into. -/
theorem splitsInto_map_texts
    (hsound : Sound ls)
    (hparted : ls.IsChain Parted) :
    SplitsInto (unlines ls) (ls.map Line.texts) where
  lossless := List.flatMap_map ..
  no_terminator := by
    intro pair hmem
    obtain ⟨line, hline, rfl⟩ := List.mem_map.1 hmem
    exact ⟨hsound.no_cr line hline, hsound.no_lf line hline⟩
  terminator := by
    intro pair hmem
    obtain ⟨line, -, rfl⟩ := List.mem_map.1 hmem
    exact line.ending.text_mem_terminators
  unterminated := by
    intro before pair after hpairs hempty
    obtain ⟨front, back, rfl, -, hback⟩ := List.map_eq_append_iff.1 hpairs
    obtain ⟨line, rest, rfl, rfl, rfl⟩ := List.map_eq_cons_iff.1 hback
    have hmissing : line.ending = .missing := LineEnding.text_eq_nil_iff.1 hempty
    have htail : Sound (line :: rest) := hsound.sublist (List.sublist_append_right front _)
    refine ⟨?_, htail.nonempty line List.mem_cons_self hmissing⟩
    rw [htail.eq_nil_or_terminated.resolve_right fun hne => hne hmissing]
    rfl
  uncut := by
    intro before pair next after hpairs hcr
    obtain ⟨front, back, rfl, -, hback⟩ := List.map_eq_append_iff.1 hpairs
    obtain ⟨line, rest, rfl, rfl, hrest⟩ := List.map_eq_cons_iff.1 hback
    obtain ⟨neighbour, others, rfl, rfl, -⟩ := List.map_eq_cons_iff.1 hrest
    exact (List.isChain_iff_forall_rel_of_append_cons_cons.1 hparted rfl).texts_ne hcr

end Written

theorem isChain_parted_lines
    (text : List Char) :
    (lines text).IsChain Parted := by
  rw [← joined_eq_self_iff, ← lines_unlines (Sound.lines text), unlines_lines]

/-- A text can be cut into lines with their terminators in one and only one way, which is that of
`lines`. -/
theorem splitsInto_iff
    (text : List Char) (pairs : List (List Char × List Char)) :
    SplitsInto text pairs ↔ pairs = (lines text).map Line.texts := by
  constructor
  · intro h
    obtain ⟨ls, rfl⟩ := h.exists_lines
    have htext : unlines ls = text := by
      rw [← h.lossless, List.flatMap_map]
      rfl
    have hjoined : joined ls = ls := (joined_eq_self_iff ls).2 (isChain_parted_of_splitsInto h)
    rw [← htext, lines_unlines (Sound.of_splitsInto h), hjoined]
  · rintro rfl
    have hlines := splitsInto_map_texts (Sound.lines text) (isChain_parted_lines text)
    rwa [unlines_lines] at hlines

/-- The ending in two characters is found behind one in a single character. -/
example : (lines "\n\r\r\na".toList).map Line.texts =
    [([], ['\n']), ([], ['\r']), ([], ['\r', '\n']), (['a'], [])] := by
  decide

end Text
end LineSieve
