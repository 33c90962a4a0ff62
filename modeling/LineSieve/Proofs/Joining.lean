import LineSieve.Proofs.Chunks

/-!
# Lines put together again

`unlines` puts lines together, and `lines` cuts the text that comes of it.  Lines that have been taken
out of a text are found again with one exception.  Where a line that ends in a lone `\r` has come to
stand in front of an empty line that ends in `\n`, the two endings make one, and both lines are read
as a single line that ends in `\r\n`.

`joined` makes that change to a list of lines.  `lines_unlines` says that it is the only one, and
`joined_eq_self_iff` that there is nothing to change exactly if all neighbours are `Parted`.
-/

namespace LineSieve
namespace Text

/-- Lines as a text can have them, as far as each line by itself goes. -/
structure Sound (ls : List Line) : Prop where
  no_cr : ∀ line ∈ ls, '\r' ∉ line.text
  no_lf : ∀ line ∈ ls, '\n' ∉ line.text
  /-- A line without an ending has at least a text. -/
  nonempty : ∀ line ∈ ls, line.ending = .missing → line.text ≠ []
  /-- Only the last line may lack an ending. -/
  terminated : ls.Pairwise fun line _ => line.ending ≠ .missing

/-- The endings of two neighbours cannot be taken for one. -/
def Parted (line next : Line) : Prop := line.ending = .cr → next ≠ ⟨[], .lf⟩

/-- Lines with every ending `\r` that comes to stand in front of a mere `\n` joined to it. -/
def joined : List Line → List Line
  | [] => []
  | ⟨text, .cr⟩ :: ⟨[], .lf⟩ :: rest => ⟨text, .crlf⟩ :: joined rest
  | line :: rest => line :: joined rest

namespace Sound

variable {ls more : List Line} {line : Line}

theorem sublist
    (h : Sound ls)
    (hsub : more.Sublist ls) :
    Sound more where
  no_cr := fun line hmem => h.no_cr line (hsub.subset hmem)
  no_lf := fun line hmem => h.no_lf line (hsub.subset hmem)
  nonempty := fun line hmem => h.nonempty line (hsub.subset hmem)
  terminated := h.terminated.sublist hsub

theorem tail
    (h : Sound (line :: ls)) :
    Sound ls :=
  h.sublist (List.sublist_cons_self line ls)

/-- A line has an ending or is the last one. -/
theorem eq_nil_or_terminated
    (h : Sound (line :: ls)) :
    ls = [] ∨ line.ending ≠ .missing := by
  cases ls with
  | nil => exact Or.inl rfl
  | cons next others =>
    exact Or.inr ((List.pairwise_cons.1 h.terminated).1 next List.mem_cons_self)

theorem cons
    (hcr : '\r' ∉ line.text)
    (hlf : '\n' ∉ line.text)
    (hnonempty : line.ending = .missing → line.text ≠ [])
    (hterminated : ls = [] ∨ line.ending ≠ .missing)
    (h : Sound ls) :
    Sound (line :: ls) where
  no_cr := List.forall_mem_cons.2 ⟨hcr, h.no_cr⟩
  no_lf := List.forall_mem_cons.2 ⟨hlf, h.no_lf⟩
  nonempty := List.forall_mem_cons.2 ⟨hnonempty, h.nonempty⟩
  terminated := by
    refine List.pairwise_cons.2 ⟨fun next hmem => ?_, h.terminated⟩
    rcases hterminated with rfl | hterminated
    · cases hmem
    · exact hterminated

/-- The lines of a text are sound. -/
theorem lines
    (text : List Char) :
    Sound (Text.lines text) := by
  fun_induction Text.lines text with
  | case1 => exact ⟨by simp, by simp, by simp, .nil⟩
  | case2 rest ih => exact cons (by simp) (by simp) (by simp) (Or.inr (by simp)) ih
  | case3 rest hno ih => exact cons (by simp) (by simp) (by simp) (Or.inr (by simp)) ih
  | case4 rest ih => exact cons (by simp) (by simp) (by simp) (Or.inr (by simp)) ih
  | case5 c rest hcrlf hcr hlf ih =>
    have hcr' : '\r' ≠ c := fun h => hcr h.symm
    have hlf' : '\n' ≠ c := fun h => hlf h.symm
    cases hlines : Text.lines rest with
    | nil =>
      exact cons (by simpa using hcr') (by simpa using hlf') (by simp) (Or.inl rfl)
        ⟨by simp, by simp, by simp, .nil⟩
    | cons line more =>
      rw [hlines] at ih
      refine cons ?_ ?_ (by simp) ih.eq_nil_or_terminated ih.tail
      · simpa [hcr'] using ih.no_cr line (by simp)
      · simpa [hlf'] using ih.no_lf line (by simp)

end Sound

/-! ## One line -/

/-- A text without terminators and an ending make one line. -/
theorem lines_text_append_ending
    {text : List Char} {ending : LineEnding}
    (hcr : '\r' ∉ text)
    (hlf : '\n' ∉ text)
    (hnonempty : ending = .missing → text ≠ []) :
    lines (text ++ ending.text) = [⟨text, ending⟩] := by
  induction text with
  | nil =>
    cases ending with
    | missing => exact absurd rfl (hnonempty rfl)
    | _ => rfl
  | cons c text ih =>
    rw [List.mem_cons, not_or] at hcr hlf
    rw [List.cons_append, lines_other (Ne.symm hcr.1) (Ne.symm hlf.1)]
    by_cases hlast : ending = .missing ∧ text = []
    · obtain ⟨rfl, rfl⟩ := hlast
      rfl
    · rw [ih hcr.2 hlf.2 fun hmissing hempty => hlast ⟨hmissing, hempty⟩]
      rfl

/-- Of sound lines only one that is empty and ends in `\n` begins with `\n`. -/
theorem head?_unlines_ne_lf
    {ls : List Line}
    (h : Sound ls)
    (hfirst : ∀ rest, ls ≠ ⟨[], .lf⟩ :: rest) :
    (unlines ls).head? ≠ some '\n' := by
  cases ls with
  | nil => simp
  | cons line rest =>
    obtain ⟨text, ending⟩ := line
    rw [unlines_cons, List.append_assoc]
    cases text with
    | cons c text =>
      have hlf := h.no_lf _ List.mem_cons_self
      rw [List.mem_cons, not_or] at hlf
      simpa using Ne.symm hlf.1
    | nil =>
      cases ending with
      | crlf => simp [LineEnding.text]
      | cr => simp [LineEnding.text]
      | lf => exact absurd rfl (hfirst rest)
      | missing => exact absurd rfl (h.nonempty _ List.mem_cons_self rfl)

/-- Behind a line that is parted from the next one the text can be cut. -/
theorem cleanCut_unlines
    {line : Line} {rest : List Line}
    (h : Sound (line :: rest))
    (hparted : ∀ others, line.ending = .cr → rest ≠ ⟨[], .lf⟩ :: others) :
    CleanCut (line.text ++ line.ending.text) (unlines rest) := by
  cases hending : line.ending with
  | crlf => exact Or.inr (Or.inr (Or.inl (by simp [LineEnding.text])))
  | lf => exact Or.inr (Or.inr (Or.inl (by simp [LineEnding.text])))
  | cr =>
    exact Or.inr (Or.inr (Or.inr ⟨by simp [LineEnding.text],
      head?_unlines_ne_lf h.tail fun others => hparted others hending⟩))
  | missing =>
    obtain rfl : rest = [] := h.eq_nil_or_terminated.resolve_right fun hne => hne hending
    exact Or.inr (Or.inl rfl)

theorem lines_unlines_cons
    {line : Line} {rest : List Line}
    (h : Sound (line :: rest))
    (hparted : ∀ others, line.ending = .cr → rest ≠ ⟨[], .lf⟩ :: others) :
    lines (unlines (line :: rest)) = line :: lines (unlines rest) := by
  rw [unlines_cons, lines_append (cleanCut_unlines h hparted),
    lines_text_append_ending (h.no_cr _ List.mem_cons_self) (h.no_lf _ List.mem_cons_self)
      (h.nonempty _ List.mem_cons_self)]
  rfl

/-! ## All lines -/

/-- Cutting a text that sound lines make up gives these lines, with the endings joined that have
met. -/
theorem lines_unlines
    {ls : List Line}
    (h : Sound ls) :
    lines (unlines ls) = joined ls := by
  fun_induction joined ls with
  | case1 => rfl
  | case2 text rest ih =>
    -- the text is that of a line which ends in the joined ending
    have hjoined : Sound (⟨text, .crlf⟩ :: rest) :=
      .cons (h.no_cr ⟨text, .cr⟩ (by simp)) (h.no_lf ⟨text, .cr⟩ (by simp)) (by simp)
        (Or.inr (by simp)) h.tail.tail
    have htext : unlines (⟨text, .cr⟩ :: ⟨[], .lf⟩ :: rest) =
        unlines (⟨text, .crlf⟩ :: rest) := by
      simp [LineEnding.text]
    rw [htext, lines_unlines_cons hjoined (by simp), ih h.tail.tail]
  | case3 line rest hno ih =>
    rw [lines_unlines_cons h, ih h.tail]
    intro others hcr hrest
    exact hno line.text others (by rw [← hcr]) hrest

theorem length_joined_le
    (ls : List Line) :
    (joined ls).length ≤ ls.length := by
  fun_induction joined ls <;> simp <;> omega

/-- Nothing is joined exactly if every line is parted from the next one. -/
theorem length_joined_eq_iff
    (ls : List Line) :
    (joined ls).length = ls.length ↔ ls.IsChain Parted := by
  fun_induction joined ls with
  | case1 => simp
  | case2 text rest ih =>
    have hle := length_joined_le rest
    refine iff_of_false ?_ fun hchain => ?_
    · simp only [List.length_cons]
      omega
    · exact (List.isChain_cons_cons.1 hchain).1 rfl rfl
  | case3 line rest hno ih =>
    rw [List.length_cons, List.length_cons, Nat.add_right_cancel_iff, ih]
    cases rest with
    | nil => simp
    | cons next others =>
      rw [List.isChain_cons_cons, iff_and_self]
      rintro - hcr rfl
      exact hno line.text others (by rw [← hcr]) rfl

theorem joined_eq_self_iff
    (ls : List Line) :
    joined ls = ls ↔ ls.IsChain Parted := by
  constructor
  · intro h
    exact (length_joined_eq_iff ls).1 (congrArg List.length h)
  · intro h
    fun_induction joined ls with
    | case1 => rfl
    | case2 text rest ih => exact absurd rfl ((List.isChain_cons_cons.1 h).1 rfl)
    | case3 line rest hno ih => rw [ih h.tail]

end Text
end LineSieve
