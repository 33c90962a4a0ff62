import LineSieve.Proofs.Chunks
import LineSieve.Sifting

/-!
# Sifting a whole text

`sift` reads a file chunk by chunk.  `Text.rewritten` says what should come out of it in one
sentence about the whole text: the byte order mark, if the text starts with one, and then for every
line of the rest what the rules make of it, with the ending that it had.  On UTF-8 both are the
same, and on anything else `sift` meets a fault.
-/

namespace LineSieve

namespace Text

/-- The byte order mark at the start of a text, if there is one. -/
def markOf : List Char → List Char
  | [] => []
  | c :: _ => if c = byteOrderMark then [c] else []

/-- A text without a byte order mark at its start. -/
def withoutMark : List Char → List Char
  | [] => []
  | c :: rest => if c = byteOrderMark then rest else c :: rest

/-- What is left of a line: nothing of a deleted one, else the text that the rules give and the
ending that the line had. -/
def remains (rules : List Rule) (line : Line) : List Char :=
  match (Rule.evaluate rules line.text).text with
  | some text => text ++ line.ending.text
  | none => []

/-- What the rules make of a text, all lines at once. -/
def rewritten (rules : List Rule) (text : List Char) : List Char :=
  markOf text ++ (lines (withoutMark text)).flatMap (remains rules)

/-- What happens to the lines of a text, in order. -/
def actions (rules : List Rule) (text : List Char) : List LineAction :=
  (lines (withoutMark text)).map fun line => (Rule.evaluate rules line.text).action

theorem markOf_append_withoutMark
    (text : List Char) :
    markOf text ++ withoutMark text = text := by
  cases text with
  | nil => rfl
  | cons c rest =>
    rw [markOf, withoutMark]
    split_ifs <;> rfl

end Text

namespace Sifting

variable (rules : List Rule)

theorem append_of_no_fault
    {a : Sifting} (b : Sifting)
    (h : a.fault = none) :
    append a b = ⟨a.written ++ b.written, a.actions ++ b.actions, b.fault⟩ := by
  rw [append, h]

@[simp] theorem fault_ofText
    (text : List Char) :
    (ofText rules text).fault = none := rfl

theorem ofText_append
    {front back : List Char}
    (h : Text.CleanCut front back) :
    ofText rules (front ++ back) = append (ofText rules front) (ofText rules back) := by
  rw [append_of_no_fault _ (fault_ofText rules front)]
  simp only [ofText, Text.lines_append h, List.filterMap_append, List.map_append]

/-- The first text of a file, by its mark and the rest. -/
theorem ofFirstText_eq
    (text : List Char) :
    ofFirstText rules text =
      append ⟨[Text.markOf text].filter (· ≠ []), [], none⟩
        (ofText rules (Text.withoutMark text)) := by
  cases text with
  | nil => rfl
  | cons c rest =>
    rw [ofFirstText, Text.markOf, Text.withoutMark]
    split_ifs
    · rfl
    · rw [append_of_no_fault _ rfl]
      simp
      rfl

theorem fault_ofFirstText
    (text : List Char) :
    (ofFirstText rules text).fault = none := by
  rw [ofFirstText_eq, append_of_no_fault _ rfl]
  rfl

/-- Chunks that do not start the file, read one after the other, are their text read at once. -/
theorem ofChunks_false_stretches
    (text : List Char) :
    ofChunks rules false ((Text.stretches text).map Utf8.encode) = ofText rules text := by
  generalize hs : Text.stretches text = parts
  induction parts generalizing text with
  | nil =>
    rw [(Text.stretches_eq_nil_iff text).1 hs]
    rfl
  | cons stretch more ih =>
    obtain ⟨rest, rfl, hrest, -, hend⟩ := Text.stretches_eq_cons hs
    rw [List.map_cons, ofChunks, ih rest hrest, ofChunk, Utf8.decode_encode]
    exact (ofText_append rules (Text.cleanCut_of_end hend)).symm

theorem append_assoc
    (a b c : Sifting) :
    append (append a b) c = append a (append b c) := by
  cases ha : a.fault with
  | some fault => simp [append, ha]
  | none =>
    rw [append_of_no_fault b ha, append_of_no_fault (append b c) ha]
    cases hb : b.fault <;> simp [append, hb, List.append_assoc]

/-- The mark is looked for in the first part only, and that is where the mark of the text is. -/
theorem ofFirstText_append
    {front back : List Char}
    (hne : front ≠ [])
    (hcut : Text.CleanCut front back) :
    ofFirstText rules (front ++ back) = append (ofFirstText rules front) (ofText rules back) := by
  cases front with
  | nil => exact absurd rfl hne
  | cons c front =>
    rw [List.cons_append, ofFirstText, ofFirstText]
    split_ifs
    · rw [ofText_append rules hcut.tail, append_assoc]
    · rw [← List.cons_append, ofText_append rules hcut]

theorem ofChunks_true_stretches
    (text : List Char) :
    ofChunks rules true ((Text.stretches text).map Utf8.encode) = ofFirstText rules text := by
  cases hs : Text.stretches text with
  | nil =>
    rw [(Text.stretches_eq_nil_iff text).1 hs]
    rfl
  | cons stretch more =>
    obtain ⟨rest, rfl, rfl, hne, hend⟩ := Text.stretches_eq_cons hs
    rw [List.map_cons, ofChunks, ofChunks_false_stretches, ofChunk, Utf8.decode_encode]
    exact (ofFirstText_append rules hne (Text.cleanCut_of_end hend)).symm

/-- If no fault is met, every chunk that has been read is encoded text. -/
theorem exists_texts_of_no_fault
    (atStart : Bool) (chunks : List (List UInt8))
    (h : (ofChunks rules atStart chunks).fault = none) :
    ∃ texts : List (List Char), chunks = texts.map Utf8.encode := by
  induction chunks generalizing atStart with
  | nil => exact ⟨[], rfl⟩
  | cons chunk rest ih =>
    rw [ofChunks, ofChunk] at h
    cases hd : Utf8.decode chunk with
    | error fault =>
      rw [hd] at h
      cases h
    | ok text =>
      rw [hd] at h
      have hfirst : (if atStart then ofFirstText rules text else ofText rules text).fault = none := by
        split_ifs
        · exact fault_ofFirstText rules text
        · rfl
      rw [append_of_no_fault _ hfirst] at h
      obtain ⟨texts, rfl⟩ := ih false h
      exact ⟨text :: texts, by rw [List.map_cons, (Utf8.decode_eq_ok_iff _ _).1 hd]⟩

theorem written_ofText
    (text : List Char) :
    (ofText rules text).written.flatten =
      (Text.lines text).flatMap (Text.remains rules) := by
  simp only [ofText]
  induction Text.lines text with
  | nil => rfl
  | cons line rest ih =>
    rw [List.flatMap_cons, ← ih, List.filterMap_cons, pieceOf, Text.remains]
    cases (Rule.evaluate rules line.text).text <;> rfl

end Sifting

variable (rules : List Rule)

/-- Reading in chunks is reading the whole text at once. -/
theorem sift_encode
    (text : List Char) :
    sift rules (Utf8.encode text) = Sifting.ofFirstText rules text := by
  rw [sift, Text.chunks_encode, Sifting.ofChunks_true_stretches]

/-- A content is read to its end exactly if it is encoded text. -/
theorem sift_fault_eq_none_iff
    (content : List UInt8) :
    (sift rules content).fault = none ↔ ∃ text, content = Utf8.encode text := by
  constructor
  · intro h
    obtain ⟨texts, htexts⟩ := Sifting.exists_texts_of_no_fault rules true _ h
    refine ⟨texts.flatten, ?_⟩
    rw [← Text.flatten_chunks content, htexts, Utf8.encode_flatten]
  · rintro ⟨text, rfl⟩
    rw [sift_encode]
    exact Sifting.fault_ofFirstText rules text

/-- What is written for a text is the whole text rewritten. -/
theorem sift_encode_bytes
    (text : List Char) :
    (sift rules (Utf8.encode text)).bytes = Utf8.encode (Text.rewritten rules text) := by
  rw [sift_encode, Sifting.bytes, Sifting.ofFirstText_eq, Sifting.append_of_no_fault _ rfl,
    List.flatten_append, Sifting.written_ofText, Text.rewritten]
  by_cases h : Text.markOf text = [] <;> simp [h]

theorem sift_encode_actions
    (text : List Char) :
    (sift rules (Utf8.encode text)).actions = Text.actions rules text := by
  rw [sift_encode, Sifting.ofFirstText_eq, Sifting.append_of_no_fault _ rfl]
  rfl

theorem sift_encode_get
    (text : List Char) (action : LineAction) :
    (sift rules (Utf8.encode text)).counts.get action =
      (Text.actions rules text).count action := by
  rw [Sifting.counts, ActionCounts.get_recordAll, ActionCounts.get_zero, Nat.zero_add,
    sift_encode_actions]

/-- Every line is counted once. -/
theorem ActionCounts.total_recordAll
    (counts : ActionCounts) (actions : List LineAction) :
    (counts.recordAll actions).total = counts.total + actions.length := by
  induction actions generalizing counts with
  | nil => rfl
  | cons action rest ih =>
    have hstep : (counts.record action).total = counts.total + 1 := by
      cases action <;> simp only [record, total] <;> omega
    rw [recordAll, List.foldl_cons, ← recordAll, ih, hstep, List.length_cons]
    omega

theorem sift_encode_total
    (text : List Char) :
    (sift rules (Utf8.encode text)).counts.total =
      (Text.lines (Text.withoutMark text)).length := by
  rw [Sifting.counts, ActionCounts.total_recordAll, sift_encode_actions, Text.actions,
    List.length_map]
  exact Nat.zero_add _

end LineSieve
