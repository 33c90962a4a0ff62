import LineSieve.Proofs.Rewriting

/-!
# Where reading stops

A content that is no text begins with a text, perhaps an empty one, and goes on with a sequence that
is at `Fault`: a byte that begins no sequence, a byte that does not go on with one, or the end in the
middle of one.  That sequence is the fault of the whole content, and it lies in the first chunk that
cannot be read.  No line feed belongs to it, so what stands behind its chunk does not matter, and a
sequence that is cut off at the end of a chunk is cut off at the end of the content.

`processFile_reports_fault` says this of the error that processing a file in place reports.  The
lines in front of the chunk have been counted, and none of the chunk itself.
-/

namespace LineSieve

/-! ## Faulty sequences -/

namespace Utf8

/-- Some bytes begin with a sequence that is no character; the number says how many bytes of it are to
blame, and is absent if the bytes end inside the sequence. -/
inductive Faulty : List UInt8 → Option Nat → Prop
  | first
      {a : UInt8}
      (rest : List UInt8)
      (ha : ¬a < 0x80)
      (hlead : lead? a = none) :
      Faulty (a :: rest) (some 1)
  | second
      {a b : UInt8} {lead : Lead}
      (rest : List UInt8)
      (hlead : lead? a = some lead)
      (hb : (b < lead.low || lead.high < b) = true) :
      Faulty (a :: b :: rest) (some 1)
  | third
      {a b c : UInt8} {lead : Lead}
      (rest : List UInt8)
      (hlead : lead? a = some lead)
      (hb : (b < lead.low || lead.high < b) = false)
      (hf : lead.following ≠ 1)
      (hc : isContinuation c = false) :
      Faulty (a :: b :: c :: rest) (some 2)
  | fourth
      {a b c d : UInt8} {lead : Lead}
      (rest : List UInt8)
      (hlead : lead? a = some lead)
      (hb : (b < lead.low || lead.high < b) = false)
      (hf : lead.following ≠ 1)
      (hc : isContinuation c = true)
      (hf' : lead.following ≠ 2)
      (hd : isContinuation d = false) :
      Faulty (a :: b :: c :: d :: rest) (some 3)
  | afterFirst
      {a : UInt8} {lead : Lead}
      (hlead : lead? a = some lead) :
      Faulty [a] none
  | afterSecond
      {a b : UInt8} {lead : Lead}
      (hlead : lead? a = some lead)
      (hb : (b < lead.low || lead.high < b) = false)
      (hf : lead.following ≠ 1) :
      Faulty [a, b] none
  | afterThird
      {a b c : UInt8} {lead : Lead}
      (hlead : lead? a = some lead)
      (hb : (b < lead.low || lead.high < b) = false)
      (hf : lead.following ≠ 1)
      (hc : isContinuation c = true)
      (hf' : lead.following ≠ 2) :
      Faulty [a, b, c] none

namespace Faulty

variable {bytes : List UInt8} {length : Option Nat}

theorem decodeFrom_eq
    (index : Nat)
    (h : Faulty bytes length) :
    decodeFrom index bytes = .error ⟨index, length⟩ := by
  cases h with
  | first rest ha hlead => rw [decodeFrom, if_neg ha, hlead]
  | second rest hlead hb => simp [decodeFrom, not_ascii_of_lead hlead, hlead, hb]
  | third rest hlead hb hf hc => simp [decodeFrom, not_ascii_of_lead hlead, hlead, hb, hf, hc]
  | fourth rest hlead hb hf hc hf' hd =>
    simp [decodeFrom, not_ascii_of_lead hlead, hlead, hb, hf, hc, hf', hd]
  | afterFirst hlead => simp [decodeFrom, not_ascii_of_lead hlead, hlead]
  | afterSecond hlead hb hf => simp [decodeFrom, not_ascii_of_lead hlead, hlead, hb, hf]
  | afterThird hlead hb hf hc hf' =>
    simp [decodeFrom, not_ascii_of_lead hlead, hlead, hb, hf, hc, hf']

theorem ne_nil
    (h : Faulty bytes length) :
    bytes ≠ [] := by
  cases h <;> exact List.cons_ne_nil _ _

/-- Bytes to blame stay to blame, whatever follows. -/
theorem append
    {count : Nat}
    (h : Faulty bytes (some count))
    (more : List UInt8) :
    Faulty (bytes ++ more) (some count) := by
  cases h with
  | first rest ha hlead => exact .first _ ha hlead
  | second rest hlead hb => exact .second _ hlead hb
  | third rest hlead hb hf hc => exact .third _ hlead hb hf hc
  | fourth rest hlead hb hf hc hf' hd => exact .fourth _ hlead hb hf hc hf' hd

/-- A sequence that is cut off holds no line feed. -/
theorem lineFeed_not_mem
    (h : Faulty bytes none) :
    Text.lineFeed ∉ bytes := by
  have hfirst : ∀ {a : UInt8} {lead : Lead}, lead? a = some lead → Text.lineFeed ≠ a := by
    rintro _ lead hlead rfl
    exact not_ascii_of_lead hlead (by decide)
  have hsecond : ∀ {a b : UInt8} {lead : Lead}, lead? a = some lead →
      (b < lead.low || lead.high < b) = false → Text.lineFeed ≠ b := by
    rintro a _ lead hlead hb rfl
    have hcases := lead?_cases hlead
    have hlow := (second_within_iff.1 hb).1
    have hten : Text.lineFeed.toNat = 10 := rfl
    split_ifs at hcases <;> omega
  have hthird : ∀ {c : UInt8}, isContinuation c = true → Text.lineFeed ≠ c := by
    rintro _ hc rfl
    cases hc
  cases h with
  | afterFirst hlead => simp [hfirst hlead]
  | afterSecond hlead hb hf => simp [hfirst hlead, hsecond hlead hb]
  | afterThird hlead hb hf hc hf' => simp [hfirst hlead, hsecond hlead hb, hthird hc]

end Faulty

theorem decodeFrom_encode_append
    {bytes : List UInt8} {fault : Fault}
    (index : Nat) (text : List Char)
    (h : decodeFrom (index + (encode text).length) bytes = .error fault) :
    decodeFrom index (encode text ++ bytes) = .error fault := by
  induction text generalizing index with
  | nil => exact h
  | cons c text ih =>
    rw [encode_cons, List.length_append, ← Nat.add_assoc] at h
    rw [encode_cons, List.append_assoc, decodeFrom_encodeChar, ih _ h]
    rfl

/-- Where reading fails, a text ends and a faulty sequence begins. -/
theorem exists_faulty_of_decodeFrom
    {index : Nat} {bytes : List UInt8} {fault : Fault}
    (h : decodeFrom index bytes = .error fault) :
    ∃ text bad, bytes = encode text ++ bad ∧ Faulty bad fault.length ∧
      fault.index = index + (encode text).length := by
  have here : ∀ {index bad length}, Faulty bad length →
      Except.error ⟨index, length⟩ = (Except.error fault : Except Fault (List Char)) →
      ∃ text bad', bad = encode text ++ bad' ∧ Faulty bad' fault.length ∧
        fault.index = index + (encode text).length := by
    rintro index bad length hbad ⟨⟩
    exact ⟨[], bad, rfl, hbad, rfl⟩
  -- one more character in front
  have later : ∀ {index count rest c} {front : List UInt8} {read : Except Fault (List Char)},
      String.utf8EncodeChar c = front → front.length = count →
      (read = .error fault → ∃ text bad, rest = encode text ++ bad ∧ Faulty bad fault.length ∧
        fault.index = index + count + (encode text).length) →
      read.map (c :: ·) = .error fault →
      ∃ text bad, front ++ rest = encode text ++ bad ∧ Faulty bad fault.length ∧
        fault.index = index + (encode text).length := by
    rintro index _ rest c front read rfl rfl ih hread
    obtain ⟨text, bad, rfl, hbad, hindex⟩ := ih (by cases read <;> cases hread; rfl)
    refine ⟨c :: text, bad, ?_, hbad, ?_⟩
    · rw [encode_cons, List.append_assoc]
    · rw [hindex, encode_cons, List.length_append, Nat.add_assoc]
  fun_induction decodeFrom index bytes with
  | case1 => cases h
  | case2 index a rest ha ih => exact later (encodeChar_ascii ha) rfl ih h
  | case3 index a rest ha hlead => exact here (.first rest ha hlead) h
  | case4 index a ha lead hlead => exact here (.afterFirst hlead) h
  | case5 index a ha lead hlead b rest hb => exact here (.second rest hlead hb) h
  | case6 index a ha lead hlead b rest hb hf ih =>
    rw [Bool.not_eq_true] at hb
    exact later (encodeChar_assemble2 hlead hf (second_within_iff.1 hb)) rfl ih h
  | case7 index a ha lead hlead b hb hf =>
    exact here (.afterSecond hlead (by simpa using hb) hf) h
  | case8 index a ha lead hlead b hb hf c rest hc =>
    exact here (.third rest hlead (by simpa using hb) hf (by simpa using hc)) h
  | case9 index a ha lead hlead b hb hf c rest hc hf' ih =>
    rw [Bool.not_eq_true] at hb
    exact later (encodeChar_assemble3 hlead hf' (second_within_iff.1 hb) (by simpa using hc)) rfl ih h
  | case10 index a ha lead hlead b hb hf c hc hf' =>
    exact here (.afterThird hlead (by simpa using hb) hf (by simpa using hc) hf') h
  | case11 index a ha lead hlead b hb hf c hc hf' d rest hd =>
    exact here
      (.fourth rest hlead (by simpa using hb) hf (by simpa using hc) hf' (by simpa using hd)) h
  | case12 index a ha lead hlead b hb hf c hc hf' d rest hd ih =>
    have hcases := lead?_cases hlead
    rw [Bool.not_eq_true] at hb
    exact later (encodeChar_assemble4 hlead (by omega) (second_within_iff.1 hb) (by simpa using hc)
      (by simpa using hd)) rfl ih h

/-- Bytes cannot be read exactly if they are a text followed by a faulty sequence. -/
theorem decode_eq_error_iff
    (bytes : List UInt8) (fault : Fault) :
    decode bytes = .error fault ↔
      ∃ text bad, bytes = encode text ++ bad ∧ Faulty bad fault.length ∧
        fault.index = (encode text).length := by
  constructor
  · intro h
    obtain ⟨text, bad, hbytes, hbad, hindex⟩ := exists_faulty_of_decodeFrom h
    exact ⟨text, bad, hbytes, hbad, by rw [hindex, Nat.zero_add]⟩
  · rintro ⟨text, bad, rfl, hbad, hindex⟩
    refine decodeFrom_encode_append 0 text ?_
    rw [Nat.zero_add, hbad.decodeFrom_eq, ← hindex]

/-- Text in front moves a fault. -/
theorem decode_encode_append
    {bytes : List UInt8} {fault : Fault}
    (text : List Char)
    (h : decode bytes = .error fault) :
    decode (encode text ++ bytes) = .error (fault.shift (encode text).length) := by
  obtain ⟨front, bad, rfl, hbad, hindex⟩ := (decode_eq_error_iff _ _).1 h
  refine (decode_eq_error_iff _ _).2 ⟨text ++ front, bad, ?_, hbad, ?_⟩
  · rw [encode_append, List.append_assoc]
  · rw [encode_append, List.length_append, Nat.add_comm, ← hindex]
    rfl

end Utf8

/-! ## The chunk that cannot be read -/

namespace Text

/-- Bytes that are read at once with the rest behind them: the first line feed ends them, or there is
none and nothing is left. -/
structure IsChunk (chunk rest : List UInt8) : Prop where
  nonempty : chunk ≠ []
  lineFeed_not_mem : lineFeed ∉ chunk.dropLast
  ends : rest = [] ∨ chunk.getLast? = some lineFeed

theorem chunks_append_of_isChunk
    {chunk rest : List UInt8}
    (h : IsChunk chunk rest) :
    chunks (chunk ++ rest) = chunk :: chunks rest := by
  induction chunk with
  | nil => exact absurd rfl h.nonempty
  | cons b chunk ih =>
    rw [List.cons_append, chunks]
    by_cases hchunk : chunk = []
    · subst hchunk
      split_ifs with hb
      · rfl
      · obtain rfl : rest = [] := h.ends.resolve_right (by simpa using hb)
        rfl
    · have hfree := h.lineFeed_not_mem
      rw [List.dropLast_cons_of_ne_nil hchunk, List.mem_cons, not_or] at hfree
      have hends := h.ends
      rw [List.getLast?_cons_of_ne_nil hchunk] at hends
      rw [if_neg (Ne.symm hfree.1), ih ⟨hchunk, hfree.2, hends⟩]

theorem exists_isChunk
    {bytes : List UInt8}
    (h : bytes ≠ []) :
    ∃ chunk rest, bytes = chunk ++ rest ∧ IsChunk chunk rest := by
  induction bytes with
  | nil => exact absurd rfl h
  | cons b bytes ih =>
    by_cases hb : b = lineFeed
    · exact ⟨[b], bytes, rfl, by simp, by simp, Or.inr (by simp [hb])⟩
    by_cases hbytes : bytes = []
    · exact ⟨[b], [], by rw [hbytes]; rfl, by simp, by simp, Or.inl rfl⟩
    obtain ⟨chunk, rest, rfl, hne, hfree, hends⟩ := ih hbytes
    refine ⟨b :: chunk, rest, rfl, by simp, ?_, hends.imp_right fun hlast => ?_⟩
    · rw [List.dropLast_cons_of_ne_nil hne, List.mem_cons, not_or]
      exact ⟨Ne.symm hb, hfree⟩
    · rw [List.getLast?_cons_of_ne_nil hne, hlast]

/-- The fault of a chunk is that of all that begins with the chunk.  A sequence that is cut off is the end
of the content. -/
theorem fault_of_isChunk
    {chunk rest : List UInt8} {fault : Utf8.Fault}
    (hchunk : IsChunk chunk rest)
    (h : Utf8.decode chunk = .error fault) :
    Utf8.decode (chunk ++ rest) = .error fault ∧
      (fault.length = none → rest = [] ∧ chunk.getLast? ≠ some lineFeed) := by
  obtain ⟨text, bad, rfl, hbad, hindex⟩ := (Utf8.decode_eq_error_iff _ _).1 h
  have hcut : fault.length = none →
      rest = [] ∧ (Utf8.encode text ++ bad).getLast? ≠ some lineFeed := by
    intro hnone
    rw [hnone] at hbad
    have hlast : (Utf8.encode text ++ bad).getLast? ≠ some lineFeed := by
      rw [List.getLast?_append_of_ne_nil _ hbad.ne_nil]
      exact fun hlast => hbad.lineFeed_not_mem (List.mem_of_getLast? hlast)
    exact ⟨hchunk.ends.resolve_right hlast, hlast⟩
  refine ⟨?_, hcut⟩
  cases hlength : fault.length with
  | none => rw [(hcut hlength).1, List.append_nil, h]
  | some count =>
    rw [hlength] at hbad
    refine (Utf8.decode_eq_error_iff _ _).2 ⟨text, bad ++ rest, List.append_assoc _ _ _, ?_, hindex⟩
    rw [hlength]
    exact hbad.append rest

/-- A content that cannot be read has a first chunk that cannot be read, and the fault of that chunk is
the fault of the content. -/
theorem exists_chunk_of_decode_eq_error
    {content : List UInt8} {whole : Utf8.Fault}
    (h : Utf8.decode content = .error whole) :
    ∃ text chunk rest fault, content = Utf8.encode text ++ (chunk ++ rest) ∧
      chunks content = chunks (Utf8.encode text) ++ chunk :: chunks rest ∧
      (text = [] ∨ (Utf8.encode text).getLast? = some lineFeed) ∧ IsChunk chunk rest ∧
      Utf8.decode chunk = .error fault ∧ fault.shift (Utf8.encode text).length = whole ∧
      (fault.length = none → rest = [] ∧ chunk.getLast? ≠ some lineFeed) := by
  induction hn : content.length using Nat.strong_induction_on generalizing content whole with
  | _ n ih =>
    have hne : content ≠ [] := by
      rintro rfl
      cases h
    obtain ⟨chunk, rest, rfl, hchunk⟩ := exists_isChunk hne
    have hchunks := chunks_append_of_isChunk hchunk
    cases hdecode : Utf8.decode chunk with
    | error fault =>
      obtain ⟨hwhole, hcut⟩ := fault_of_isChunk hchunk hdecode
      cases hwhole.symm.trans h
      exact ⟨[], _, rest, whole, rfl, hchunks, Or.inl rfl, hchunk, hdecode, rfl, hcut⟩
    | ok front =>
      obtain rfl := (Utf8.decode_eq_ok_iff _ _).1 hdecode
      have hrest : rest ≠ [] := by
        rintro rfl
        rw [List.append_nil, hdecode] at h
        cases h
      have hlast : (Utf8.encode front).getLast? = some lineFeed := hchunk.ends.resolve_left hrest
      cases hdecode' : Utf8.decode rest with
      | ok back =>
        obtain rfl := (Utf8.decode_eq_ok_iff _ _).1 hdecode'
        rw [← Utf8.encode_append, Utf8.decode_encode] at h
        cases h
      | error later =>
        have hlen : rest.length < n := by
          have hpos := List.length_pos_iff.2 hchunk.nonempty
          rw [← hn, List.length_append]
          omega
        obtain ⟨text, chunk, rest', fault, rfl, hchunks', hends, hchunk', hfault, hshift, hcut⟩ :=
          ih rest.length hlen hdecode' rfl
        have hmoved := Utf8.decode_encode_append front hdecode'
        cases hmoved.symm.trans h
        refine ⟨front ++ text, chunk, rest', fault, ?_, ?_, Or.inr ?_, hchunk', hfault, ?_, hcut⟩
        · rw [Utf8.encode_append, List.append_assoc]
        · have hfront : IsChunk (Utf8.encode front) (Utf8.encode text) :=
            ⟨hchunk.nonempty, hchunk.lineFeed_not_mem, Or.inr hlast⟩
          rw [hchunks, hchunks', Utf8.encode_append, chunks_append_of_isChunk hfront]
          rfl
        · rw [Utf8.encode_append]
          rcases hends with rfl | hends
          · rw [Utf8.encode_nil, List.append_nil, hlast]
          · rw [List.getLast?_append, hends]
            rfl
        · rw [← hshift, Utf8.encode_append, List.length_append]
          simp only [Utf8.Fault.shift]
          congr 1
          omega

end Text

/-! ## What has been counted -/

namespace Sifting

variable (rules : List Rule)

/-- Chunks that are read after others do not start the file. -/
theorem ofChunks_append
    (atStart : Bool) (front back : List (List UInt8)) :
    ofChunks rules atStart (front ++ back) =
      append (ofChunks rules atStart front) (ofChunks rules (atStart && front.isEmpty) back) := by
  induction front generalizing atStart with
  | nil =>
    rw [List.nil_append, List.isEmpty_nil, Bool.and_true]
    rfl
  | cons chunk front ih =>
    rw [List.cons_append, ofChunks, ofChunks, ih, append_assoc, Bool.false_and, List.isEmpty_cons,
      Bool.and_false]

end Sifting

/-- Sifting stops at the first chunk that cannot be read, and what it has done by then it has done to
the text in front of it. -/
theorem sift_of_failing_chunk
    (rules : List Rule)
    {content chunk : List UInt8} {text : List Char} {more : List (List UInt8)} {fault : Utf8.Fault}
    (hchunks : Text.chunks content = Text.chunks (Utf8.encode text) ++ chunk :: more)
    (hfault : Utf8.decode chunk = .error fault) :
    sift rules content =
      Sifting.append (sift rules (Utf8.encode text)) ⟨[], [], some fault⟩ := by
  rw [sift, hchunks, Sifting.ofChunks_append, ← sift, Sifting.ofChunks, Sifting.ofChunk, hfault]
  rfl

section Process

open FileSystem

variable {config : Config} {fs : FileSystem} {path : Path}

/-- Processing a file in place that is no text fails with the first fault of the whole content.  Its
index counts from the start of the chunk with the fault, an incomplete sequence is only found where
the content ends without a line feed, and the lines in front of the chunk have been counted. -/
theorem processFile_reports_fault
    {location : Location} {content : List UInt8} {mode : Nat}
    (hfs : fs.WellFormed)
    (hplace : config.output = .inPlace)
    (hblank : path.isBlank = false)
    (hfile : fs.lookupLink path = .ok (location, .file content mode))
    (hinvalid : ¬∃ text, content = Utf8.encode text) :
    ∃ whole text chunk rest fault, Utf8.decode content = .error whole ∧
      content = Utf8.encode text ++ (chunk ++ rest) ∧
      (text = [] ∨ (Utf8.encode text).getLast? = some Text.lineFeed) ∧ Text.IsChunk chunk rest ∧
      (processFile config fs path).2.error = some (.io path (.invalidText fault)) ∧
      fault.shift (Utf8.encode text).length = whole ∧
      (fault.length = none → rest = [] ∧ chunk.getLast? ≠ some Text.lineFeed) ∧
      ∀ action, (processFile config fs path).2.counts.get action =
        (Text.actions config.rules text).count action := by
  cases hdecode : Utf8.decode content with
  | ok text => exact absurd ⟨text, (Utf8.decode_eq_ok_iff _ _).1 hdecode⟩ hinvalid
  | error whole =>
    obtain ⟨text, chunk, rest, fault, hcontent, hchunks, hends, hchunk, hfault, hshift, hcut⟩ :=
      Text.exists_chunk_of_decode_eq_error hdecode
    obtain ⟨name, directory, rfl, hlocates, hentry⟩ := exists_locates_of_lookupLink hfs hfile
    obtain ⟨middle, hsame, -, hrun⟩ := Process.run_inPlace 0 true none hplace hblank hlocates hentry
    have hread : middle.contentOf path = .ok content := by
      rw [hsame.sameTree.contentOf, contentOf, hlocates.lookup_eq hentry rfl]
    have hsift := sift_of_failing_chunk config.rules hchunks hfault
    have hfront : (sift config.rules (Utf8.encode text)).fault = none :=
      (sift_fault_eq_none_iff _ _).2 ⟨text, rfl⟩
    rw [Sifting.append_of_no_fault _ hfront, List.append_nil, List.append_nil] at hsift
    refine ⟨whole, text, chunk, rest, fault, rfl, hcontent, hends, hchunk, ?_, hshift, hcut,
      fun action => ?_⟩
    · rw [processFile, hrun]
      exact Process.fill_of_fault hread (by rw [hsift])
    · rw [processFile, hrun, ← sift_encode_get]
      simp only [Process.fill, hread, hsift]
      rfl

/-- The second of two chunks ends in the middle of a sequence. -/
theorem processFile_reports_fault_second_chunk :
    (withFile ['a'] [0x78, 10, 0x79, 13, 0xE2, 0x82, 10] 0o644).WellFormed ∧
      ∃ text fault,
        (processFile ⟨[], .inPlace, .sequential, true⟩
            (withFile ['a'] [0x78, 10, 0x79, 13, 0xE2, 0x82, 10] 0o644) ⟨['a']⟩).2.error =
          some (.io ⟨['a']⟩ (.invalidText fault)) ∧
        fault.shift (Utf8.encode text).length = ⟨4, some 2⟩ := by
  have hfs : (withFile ['a'] [0x78, 10, 0x79, 13, 0xE2, 0x82, 10] 0o644).WellFormed :=
    wellFormed_withFile _ ⟨by decide, by decide, by decide⟩ (by decide) (by decide) (by decide)
  have hfile : (withFile ['a'] [0x78, 10, 0x79, 13, 0xE2, 0x82, 10] 0o644).lookupLink ⟨['a']⟩ =
      .ok ([['a']], .file [0x78, 10, 0x79, 13, 0xE2, 0x82, 10] 0o644) := by decide
  have hdecode : Utf8.decode [0x78, 10, 0x79, 13, 0xE2, 0x82, 10] = .error ⟨4, some 2⟩ := by decide
  have hinvalid : ¬∃ text, ([0x78, 10, 0x79, 13, 0xE2, 0x82, 10] : List UInt8) = Utf8.encode text := by
    rintro ⟨text, htext⟩
    rw [htext, Utf8.decode_encode] at hdecode
    cases hdecode
  obtain ⟨whole, text, -, -, fault, hwhole, -, -, -, herror, hshift, -⟩ :=
    @processFile_reports_fault ⟨[], .inPlace, .sequential, true⟩ _ ⟨['a']⟩ _ _ _ hfs rfl (by decide)
      hfile hinvalid
  cases hwhole.symm.trans hdecode
  exact ⟨hfs, text, fault, herror, hshift⟩

/-- A file whose name is blank is refused before it is read. -/
theorem processFile_ignores_fault_blank_name :
    (withFile [' '] [0xFF] 0o644).lookupLink ⟨[' ']⟩ = .ok ([[' ']], .file [0xFF] 0o644) ∧
      Utf8.decode [0xFF] = .error ⟨0, some 1⟩ ∧
      (processFile ⟨[], .inPlace, .sequential, true⟩ (withFile [' '] [0xFF] 0o644) ⟨[' ']⟩).2.error =
        some (.invalidPath .blank) := by
  decide

end Process

end LineSieve
