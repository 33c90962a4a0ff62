import LineSieve.Text.Utf8
import Mathlib.Tactic

/-!
# Reading and writing UTF-8

`Utf8.decode` accepts exactly the bytes that `Utf8.encode` writes, and gives the text back.  The two
halves are proved character by character: a character that has been written is read as itself, and
the bytes of a character that has been read are the ones that writing it gives.

Both halves go through numbers.  `lead?_cases` says between which bounds the first byte of a
sequence and the byte after it lie; the rest is arithmetic with remainders.
-/

namespace LineSieve
namespace Utf8

/-- The number of the character that stands for a scalar value. -/
theorem val_ofNat
    {n : Nat}
    (h : n < 0xD800 ∨ 0xDFFF < n ∧ n < 0x110000) :
    (Char.ofNat n).val.toNat = n := by
  have hv : n.isValidChar := h
  rw [Char.ofNat, dif_pos hv]
  rfl

theorem toNat_ofNat_of_lt
    {n : Nat}
    (h : n < 256) :
    (UInt8.ofNat n).toNat = n := by
  simp
  omega

theorem encode_cons
    (c : Char) (text : List Char) :
    encode (c :: text) = String.utf8EncodeChar c ++ encode text := rfl

theorem encode_flatten
    (texts : List (List Char)) :
    encode texts.flatten = (texts.map encode).flatten := by
  induction texts with
  | nil => rfl
  | cons text texts ih => rw [List.flatten_cons, encode_append, ih, List.map_cons, List.flatten_cons]

/-! ## First bytes -/

/-- The first byte of a sequence, by the number of bytes that follow, and the bounds for the second
byte. -/
theorem lead?_cases
    {a : UInt8} {lead : Lead}
    (h : lead? a = some lead) :
    (lead.following = 1 ∧ 0xC2 ≤ a.toNat ∧ a.toNat ≤ 0xDF ∧
      lead.low.toNat = 0x80 ∧ lead.high.toNat = 0xBF) ∨
    (lead.following = 2 ∧ 0xE0 ≤ a.toNat ∧ a.toNat ≤ 0xEF ∧
      lead.low.toNat = (if a.toNat = 0xE0 then 0xA0 else 0x80) ∧
      lead.high.toNat = (if a.toNat = 0xED then 0x9F else 0xBF)) ∨
    (lead.following = 3 ∧ 0xF0 ≤ a.toNat ∧ a.toNat ≤ 0xF4 ∧
      lead.low.toNat = (if a.toNat = 0xF0 then 0x90 else 0x80) ∧
      lead.high.toNat = (if a.toNat = 0xF4 then 0x8F else 0xBF)) := by
  unfold lead? at h
  simp only [UInt8.le_iff_toNat_le, ← UInt8.toNat_inj, UInt8.reduceToNat] at h
  split_ifs at h <;> (cases h; simp; try omega)

theorem exists_lead
    {a : UInt8}
    (hlow : 0xC2 ≤ a.toNat)
    (hhigh : a.toNat ≤ 0xF4) :
    ∃ lead, lead? a = some lead := by
  unfold lead?
  simp only [UInt8.le_iff_toNat_le, ← UInt8.toNat_inj, UInt8.reduceToNat]
  split_ifs <;> first | exact ⟨_, rfl⟩ | omega

theorem not_ascii_of_lead
    {a : UInt8} {lead : Lead}
    (h : lead? a = some lead) :
    ¬ a < 0x80 := by
  have hcases := lead?_cases h
  rw [UInt8.lt_iff_toNat_lt]
  simp only [UInt8.reduceToNat]
  omega

theorem isContinuation_iff
    (b : UInt8) :
    isContinuation b = true ↔ 0x80 ≤ b.toNat ∧ b.toNat ≤ 0xBF := by
  simp [isContinuation, UInt8.le_iff_toNat_le]

/-- The test of the second byte against its bounds, in numbers. -/
theorem second_within_iff
    {b : UInt8} {lead : Lead} :
    (b < lead.low || lead.high < b) = false ↔
      lead.low.toNat ≤ b.toNat ∧ b.toNat ≤ lead.high.toNat := by
  simp [UInt8.lt_iff_toNat_lt]

section Sequences

variable {index : Nat} {a b c d : UInt8} {lead : Lead}

/-! ## Reading one character -/

theorem decodeFrom_one
    (rest : List UInt8)
    (ha : a < 0x80) :
    decodeFrom index (a :: rest) =
      (decodeFrom (index + 1) rest).map (Char.ofNat a.toNat :: ·) := by
  rw [decodeFrom, if_pos ha]

theorem decodeFrom_two
    (rest : List UInt8)
    (hlead : lead? a = some lead)
    (hf : lead.following = 1)
    (hb : lead.low.toNat ≤ b.toNat ∧ b.toNat ≤ lead.high.toNat) :
    decodeFrom index (a :: b :: rest) =
      (decodeFrom (index + 2) rest).map (assemble2 a b :: ·) := by
  have hsecond := second_within_iff.2 hb
  rw [decodeFrom, if_neg (not_ascii_of_lead hlead)]
  simp [hlead, hsecond, hf]

theorem decodeFrom_three
    (rest : List UInt8)
    (hlead : lead? a = some lead)
    (hf : lead.following = 2)
    (hb : lead.low.toNat ≤ b.toNat ∧ b.toNat ≤ lead.high.toNat)
    (hc : isContinuation c = true) :
    decodeFrom index (a :: b :: c :: rest) =
      (decodeFrom (index + 3) rest).map (assemble3 a b c :: ·) := by
  have hsecond := second_within_iff.2 hb
  rw [decodeFrom, if_neg (not_ascii_of_lead hlead)]
  simp [hlead, hsecond, hf, hc]

theorem decodeFrom_four
    (rest : List UInt8)
    (hlead : lead? a = some lead)
    (hf : lead.following = 3)
    (hb : lead.low.toNat ≤ b.toNat ∧ b.toNat ≤ lead.high.toNat)
    (hc : isContinuation c = true)
    (hd : isContinuation d = true) :
    decodeFrom index (a :: b :: c :: d :: rest) =
      (decodeFrom (index + 4) rest).map (assemble4 a b c d :: ·) := by
  have hsecond := second_within_iff.2 hb
  rw [decodeFrom, if_neg (not_ascii_of_lead hlead)]
  simp [hlead, hsecond, hf, hc, hd]

/-! ## Writing one character -/

theorem encodeChar_ascii
    (ha : a < 0x80) :
    String.utf8EncodeChar (Char.ofNat a.toNat) = [a] := by
  have hlt : a.toNat < 128 := ha
  rw [String.utf8EncodeChar, val_ofNat (by omega), if_pos (by omega)]
  simp

theorem encodeChar_assemble2
    (hlead : lead? a = some lead)
    (hf : lead.following = 1)
    (hb : lead.low.toNat ≤ b.toNat ∧ b.toNat ≤ lead.high.toNat) :
    String.utf8EncodeChar (assemble2 a b) = [a, b] := by
  have hcases := lead?_cases hlead
  rw [assemble2, payload, String.utf8EncodeChar, val_ofNat (by omega), if_neg (by omega),
    if_pos (by omega)]
  simp only [List.cons.injEq, and_true, ← UInt8.toNat_inj, UInt8.toNat_ofNat']
  omega

theorem encodeChar_assemble3
    (hlead : lead? a = some lead)
    (hf : lead.following = 2)
    (hb : lead.low.toNat ≤ b.toNat ∧ b.toNat ≤ lead.high.toNat)
    (hc : isContinuation c = true) :
    String.utf8EncodeChar (assemble3 a b c) = [a, b, c] := by
  have hcases := lead?_cases hlead
  rw [isContinuation_iff] at hc
  have hb' : 0x80 ≤ b.toNat ∧ b.toNat ≤ 0xBF := by split_ifs at hcases <;> omega
  have hlow : a.toNat = 0xE0 → 0xA0 ≤ b.toNat := by split_ifs at hcases <;> omega
  have hhigh : a.toNat = 0xED → b.toNat ≤ 0x9F := by split_ifs at hcases <;> omega
  rw [assemble3, payload, payload, String.utf8EncodeChar, val_ofNat (by omega), if_neg (by omega),
    if_neg (by omega), if_pos (by omega)]
  simp only [List.cons.injEq, and_true, ← UInt8.toNat_inj, UInt8.toNat_ofNat']
  omega

theorem encodeChar_assemble4
    (hlead : lead? a = some lead)
    (hf : lead.following = 3)
    (hb : lead.low.toNat ≤ b.toNat ∧ b.toNat ≤ lead.high.toNat)
    (hc : isContinuation c = true)
    (hd : isContinuation d = true) :
    String.utf8EncodeChar (assemble4 a b c d) = [a, b, c, d] := by
  have hcases := lead?_cases hlead
  rw [isContinuation_iff] at hc hd
  have hb' : 0x80 ≤ b.toNat ∧ b.toNat ≤ 0xBF := by split_ifs at hcases <;> omega
  have hlow : a.toNat = 0xF0 → 0x90 ≤ b.toNat := by split_ifs at hcases <;> omega
  have hhigh : a.toNat = 0xF4 → b.toNat ≤ 0x8F := by split_ifs at hcases <;> omega
  rw [assemble4, payload, payload, payload, String.utf8EncodeChar, val_ofNat (by omega),
    if_neg (by omega), if_neg (by omega), if_neg (by omega)]
  simp only [List.cons.injEq, and_true, ← UInt8.toNat_inj, UInt8.toNat_ofNat']
  omega

end Sequences

/-! ## Texts -/

/-- A character that has been written is read as itself. -/
theorem decodeFrom_encodeChar
    (index : Nat) (c : Char) (rest : List UInt8) :
    decodeFrom index (String.utf8EncodeChar c ++ rest) =
      (decodeFrom (index + (String.utf8EncodeChar c).length) rest).map (c :: ·) := by
  have hv : c.val.toNat < 0xD800 ∨ 0xDFFF < c.val.toNat ∧ c.val.toNat < 0x110000 := c.valid
  have hc : ∀ m, m = c.val.toNat → Char.ofNat m = c := by
    rintro m rfl
    exact Char.ofNat_toNat c
  unfold String.utf8EncodeChar
  generalize c.val.toNat = n at hv hc
  simp only
  -- one case for each length of a sequence, from one byte to four
  split_ifs with h₁ h₂ h₃
  · have ha := toNat_ofNat_of_lt (n := n) (by omega)
    rw [List.singleton_append, decodeFrom_one _ (by rw [UInt8.lt_iff_toNat_lt, ha]; simp; omega), ha,
      hc n rfl]
    rfl
  · have ha := toNat_ofNat_of_lt (n := n / 64 % 32 + 192) (by omega)
    have hb := toNat_ofNat_of_lt (n := n % 64 + 128) (by omega)
    obtain ⟨lead, hlead⟩ :=
      exists_lead (a := UInt8.ofNat (n / 64 % 32 + 192)) (by omega) (by omega)
    have hcases := lead?_cases hlead
    rw [List.cons_append, List.singleton_append, decodeFrom_two rest hlead (by omega) (by omega),
      assemble2, payload, ha, hb, hc _ (by omega)]
    rfl
  · have ha := toNat_ofNat_of_lt (n := n / 4096 % 16 + 224) (by omega)
    have hb := toNat_ofNat_of_lt (n := n / 64 % 64 + 128) (by omega)
    have hd := toNat_ofNat_of_lt (n := n % 64 + 128) (by omega)
    obtain ⟨lead, hlead⟩ :=
      exists_lead (a := UInt8.ofNat (n / 4096 % 16 + 224)) (by omega) (by omega)
    have hcases := lead?_cases hlead
    simp only [List.cons_append, List.nil_append]
    rw [decodeFrom_three rest hlead (by omega) (by split_ifs at hcases <;> omega)
        ((isContinuation_iff _).2 (by omega)),
      assemble3, payload, payload, ha, hb, hd, hc _ (by omega)]
    rfl
  · have ha := toNat_ofNat_of_lt (n := n / 262144 % 8 + 240) (by omega)
    have hb := toNat_ofNat_of_lt (n := n / 4096 % 64 + 128) (by omega)
    have hd := toNat_ofNat_of_lt (n := n / 64 % 64 + 128) (by omega)
    have he := toNat_ofNat_of_lt (n := n % 64 + 128) (by omega)
    obtain ⟨lead, hlead⟩ :=
      exists_lead (a := UInt8.ofNat (n / 262144 % 8 + 240)) (by omega) (by omega)
    have hcases := lead?_cases hlead
    simp only [List.cons_append, List.nil_append]
    rw [decodeFrom_four rest hlead (by omega) (by split_ifs at hcases <;> omega)
        ((isContinuation_iff _).2 (by omega)) ((isContinuation_iff _).2 (by omega)),
      assemble4, payload, payload, payload, ha, hb, hd, he, hc _ (by omega)]
    rfl

theorem decodeFrom_encode
    (index : Nat) (text : List Char) :
    decodeFrom index (encode text) = .ok text := by
  induction text generalizing index with
  | nil => rfl
  | cons c text ih =>
    rw [encode_cons, decodeFrom_encodeChar, ih]
    rfl

theorem exists_of_map_eq_ok
    {α β ε : Type} {f : α → β} {x : Except ε α} {y : β}
    (h : x.map f = .ok y) :
    ∃ z, x = .ok z ∧ f z = y := by
  cases x with
  | error e => cases h
  | ok z =>
    cases h
    exact ⟨z, rfl, rfl⟩

/-- Bytes that can be read are what the text that they give is written as. -/
theorem encode_of_decodeFrom
    {index : Nat} {bytes : List UInt8} {text : List Char}
    (h : decodeFrom index bytes = .ok text) :
    encode text = bytes := by
  fun_induction decodeFrom index bytes generalizing text with
  | case1 =>
    cases h
    rfl
  | case2 index a rest ha ih =>
    obtain ⟨tail, htail, rfl⟩ := exists_of_map_eq_ok h
    rw [encode_cons, ih htail, encodeChar_ascii ha]
    rfl
  | case6 index a ha lead hlead b rest hb hf ih =>
    obtain ⟨tail, htail, rfl⟩ := exists_of_map_eq_ok h
    rw [encode_cons, ih htail,
      encodeChar_assemble2 hlead hf (second_within_iff.1 (by simpa using hb))]
    rfl
  | case9 index a ha lead hlead b hb hf c rest hc hf' ih =>
    obtain ⟨tail, htail, rfl⟩ := exists_of_map_eq_ok h
    rw [encode_cons, ih htail,
      encodeChar_assemble3 hlead hf' (second_within_iff.1 (by simpa using hb)) (by simpa using hc)]
    rfl
  | case12 index a ha lead hlead b hb hf c hc hf' d rest hd ih =>
    obtain ⟨tail, htail, rfl⟩ := exists_of_map_eq_ok h
    have hcases := lead?_cases hlead
    rw [encode_cons, ih htail,
      encodeChar_assemble4 hlead (by omega) (second_within_iff.1 (by simpa using hb))
        (by simpa using hc) (by simpa using hd)]
    rfl
  | _ => cases h

/-- The bytes that can be read are exactly those of texts. -/
theorem decode_eq_ok_iff
    (bytes : List UInt8) (text : List Char) :
    decode bytes = .ok text ↔ bytes = encode text := by
  constructor
  · intro h
    exact (encode_of_decodeFrom h).symm
  · rintro rfl
    exact decodeFrom_encode 0 text

@[simp] theorem decode_encode
    (text : List Char) :
    decode (encode text) = .ok text :=
  (decode_eq_ok_iff _ _).2 rfl

theorem encode_injective
    {a b : List Char}
    (h : encode a = encode b) :
    a = b := by
  have ha := decode_encode a
  rw [h, decode_encode] at ha
  exact (Except.ok.inj ha).symm

end Utf8
end LineSieve
