import LineSieve.Proofs.Utf8
import LineSieve.Text.Lines

/-!
# Chunks and lines

A file is cut into chunks after every line feed, and each chunk is read and cut into lines by
itself.  Two facts make this harmless.  A line feed never lies inside the bytes of another
character, so the chunks of an encoded text are the encoded stretches of the text between its line
feeds.  And a text may be cut into two at any place that does not part a `\r` from a `\n` without
changing its lines, so the lines of the stretches are the lines of the text.
-/

namespace LineSieve

/-! ## Chunks of an encoded text -/

namespace Utf8

/-- Beyond ASCII no byte of a character is a line feed, and in ASCII only that of `\n` is. -/
theorem lineFeed_not_mem_encodeChar
    {c : Char}
    (hc : c ≠ '\n') :
    Text.lineFeed ∉ String.utf8EncodeChar c := by
  have hn : c.val.toNat ≠ 10 := by
    intro h
    exact hc (Char.ext (UInt32.toNat_inj.1 h))
  intro hmem
  unfold String.utf8EncodeChar Text.lineFeed at hmem
  generalize c.val.toNat = n at hn hmem
  simp only at hmem
  split_ifs at hmem <;>
    simp only [List.mem_cons, List.not_mem_nil, or_false, ← UInt8.toNat_inj, UInt8.toNat_ofNat',
      UInt8.reduceToNat] at hmem <;>
    omega

theorem encodeChar_lineFeed :
    String.utf8EncodeChar '\n' = [Text.lineFeed] := rfl

end Utf8

namespace Text

/-- A text cut after every `\n`. -/
def stretches : List Char → List (List Char)
  | [] => []
  | c :: rest =>
    if c = '\n' then [c] :: stretches rest
    else
      match stretches rest with
      | [] => [[c]]
      | stretch :: more => (c :: stretch) :: more

/-- Bytes without a line feed belong to the chunk that goes on behind them. -/
theorem chunks_append_of_not_mem
    {front : List UInt8}
    (hne : front ≠ [])
    (hfree : lineFeed ∉ front)
    (rest : List UInt8) :
    chunks (front ++ rest) =
      match chunks rest with
      | [] => [front]
      | chunk :: more => (front ++ chunk) :: more := by
  induction front with
  | nil => exact absurd rfl hne
  | cons b front ih =>
    have hb : b ≠ lineFeed := fun h => hfree (by simp [h])
    have hfront : lineFeed ∉ front := fun h => hfree (by simp [h])
    rw [List.cons_append, chunks, if_neg hb]
    by_cases hnil : front = []
    · subst hnil
      rw [List.nil_append]
      cases chunks rest <;> rfl
    · rw [ih hnil hfront]
      cases chunks rest <;> rfl

/-- The chunks of an encoded text are its encoded stretches. -/
theorem chunks_encode
    (text : List Char) :
    chunks (Utf8.encode text) = (stretches text).map Utf8.encode := by
  induction text with
  | nil => rfl
  | cons c rest ih =>
    rw [Utf8.encode_cons, stretches]
    by_cases hc : c = '\n'
    · subst hc
      rw [if_pos rfl, Utf8.encodeChar_lineFeed, List.singleton_append, chunks, if_pos rfl, ih]
      rfl
    · rw [if_neg hc, chunks_append_of_not_mem String.utf8EncodeChar_ne_nil
        (Utf8.lineFeed_not_mem_encodeChar hc), ih]
      cases stretches rest with
      | nil => simp [Utf8.encode]
      | cons stretch more => simp [Utf8.encode]

theorem stretches_eq_nil_iff
    (text : List Char) :
    stretches text = [] ↔ text = [] := by
  constructor
  · intro h
    cases text with
    | nil => rfl
    | cons c rest =>
      rw [stretches] at h
      split_ifs at h
      split at h <;> cases h
  · rintro rfl
    rfl

/-- The first stretch is a beginning of the text, and the others are the stretches of what is left;
it ends in `\n` unless nothing is left. -/
theorem stretches_eq_cons
    {text stretch : List Char} {more : List (List Char)}
    (h : stretches text = stretch :: more) :
    ∃ rest, text = stretch ++ rest ∧ stretches rest = more ∧ stretch ≠ [] ∧
      (rest = [] ∨ stretch.getLast? = some '\n') := by
  induction text generalizing stretch more with
  | nil => cases h
  | cons c rest ih =>
    rw [stretches] at h
    split_ifs at h with hc
    · cases h
      exact ⟨rest, by simp [hc], rfl, by simp, Or.inr (by simp [hc])⟩
    · cases hrest : stretches rest with
      | nil =>
        rw [hrest] at h
        cases h
        rw [(stretches_eq_nil_iff rest).1 hrest]
        exact ⟨[], rfl, rfl, by simp, Or.inl rfl⟩
      | cons first others =>
        rw [hrest] at h
        cases h
        obtain ⟨tail, rfl, htail, hne, hend⟩ := ih hrest
        refine ⟨tail, rfl, htail, by simp, ?_⟩
        rcases hend with hend | hend
        · exact Or.inl hend
        · exact Or.inr (by rw [List.getLast?_cons_of_ne_nil hne]; exact hend)

/-! ## Lines of a text that is cut -/

/-- Between these two texts a cut parts no line ending and ends no line early. -/
def CleanCut (front back : List Char) : Prop :=
  front = [] ∨ back = [] ∨ front.getLast? = some '\n' ∨
    (front.getLast? = some '\r' ∧ back.head? ≠ some '\n')

theorem CleanCut.tail
    {c : Char} {front back : List Char}
    (h : CleanCut (c :: front) back) :
    CleanCut front back := by
  cases front with
  | nil => exact Or.inl rfl
  | cons d front => simpa [CleanCut] using h

/-- After a stretch every cut is clean. -/
theorem cleanCut_of_end
    {front back : List Char}
    (h : back = [] ∨ front.getLast? = some '\n') :
    CleanCut front back := by
  rcases h with h | h
  · exact Or.inr (Or.inl h)
  · exact Or.inr (Or.inr (Or.inl h))

theorem lines_eq_nil_iff
    (text : List Char) :
    lines text = [] ↔ text = [] := by
  fun_cases lines text with
  | case5 c rest h₁ h₂ h₃ => cases h : lines rest <;> simp [consChar]
  | _ => simp

theorem consChar_append
    (c : Char) {front : List Line}
    (hne : front ≠ [])
    (back : List Line) :
    consChar c (front ++ back) = consChar c front ++ back := by
  cases front with
  | nil => exact absurd rfl hne
  | cons line front => rfl

theorem lines_crlf
    (rest : List Char) :
    lines ('\r' :: '\n' :: rest) = ⟨[], .crlf⟩ :: lines rest := rfl

theorem lines_lf
    (rest : List Char) :
    lines ('\n' :: rest) = ⟨[], .lf⟩ :: lines rest := rfl

theorem lines_cr
    {rest : List Char}
    (h : rest.head? ≠ some '\n') :
    lines ('\r' :: rest) = ⟨[], .cr⟩ :: lines rest := by
  rw [lines]
  rintro tail rfl
  exact h rfl

theorem lines_other
    {c : Char}
    (hcr : c ≠ '\r')
    (hlf : c ≠ '\n')
    (rest : List Char) :
    lines (c :: rest) = consChar c (lines rest) := by
  rw [lines]
  · rintro tail rfl
    exact absurd rfl hcr
  · exact hcr
  · exact hlf

/-- At a clean cut the lines of the two parts are the lines of the whole. -/
theorem lines_append
    {front back : List Char}
    (h : CleanCut front back) :
    lines (front ++ back) = lines front ++ lines back := by
  rcases eq_or_ne back [] with rfl | hback
  · simp [lines]
  fun_induction lines front with
  | case1 => rfl
  | case2 rest ih =>
    rw [List.cons_append, List.cons_append, lines_crlf, ih h.tail.tail]
    rfl
  | case3 rest hno ih =>
    have hhead : (rest ++ back).head? ≠ some '\n' := by
      cases rest with
      | nil =>
        simpa [CleanCut, hback] using h
      | cons c rest =>
        rw [List.cons_append, List.head?_cons]
        intro hc
        cases hc
        exact hno rest rfl
    rw [List.cons_append, lines_cr hhead, ih h.tail]
    rfl
  | case4 rest ih =>
    rw [List.cons_append, lines_lf, ih h.tail]
    rfl
  | case5 c rest hcrlf hcr hlf ih =>
    have hne : rest ≠ [] := by
      rintro rfl
      rcases h with h | h | h | ⟨h, -⟩
      · cases h
      · exact hback h
      · exact hlf (by simpa using h)
      · exact hcr (by simpa using h)
    rw [List.cons_append, lines_other hcr hlf, ih h.tail,
      consChar_append c (by rwa [Ne, lines_eq_nil_iff])]

end Text
end LineSieve
