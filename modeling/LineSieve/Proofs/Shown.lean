import LineSieve.Proofs.Joining
import LineSieve.Proofs.Totals

/-!
# Totals as they are shown

The totals of a batch are shown twice: in the summary of a document, where each has a field, and on the
last line of the report for a terminal, where each number stands in front of the word that says what it
counts.  `shownTotals?` reads such a line back, and `lastTotals?_pretty` says that it finds the totals,
whatever names and errors stand in the lines before.

`reports_agree` puts it together.  Both reports show the same totals, which are those of the entries of
the document, and the exit status of a run tells whether they count a failure.
-/

namespace LineSieve
namespace Report

open GroupRef (digitsValue?)

/-! ## Reading the line of the totals -/

/-- A text without colours, brackets and commas.  What sets a colour begins with an escape character and
ends in `m`. -/
def bare (inside : Bool) : List Char → List Char
  | [] => []
  | c :: rest =>
    if inside then bare (c != 'm') rest
    else if c = '\x1b' then bare true rest
    else if c = '(' ∨ c = ')' ∨ c = ',' then bare false rest
    else c :: bare false rest

/-- Words in pairs, where the first one of each is a number and the second one says of what. -/
def labelled : List (List Char) → List (List Char × List Char)
  | number :: label :: rest => (label, number) :: labelled rest
  | _ => []

/-- The number with a label. -/
def number? (label : String) (shown : List (List Char × List Char)) : Option Nat :=
  (shown.lookup label.toList).bind digitsValue?

/-- The totals that a line shows.  Failures are shown only if there are any. -/
def shownTotals? (line : List Char) : Option Summary := do
  let shown := labelled ((bare false line).splitOn ' ')
  let files ← number? "file" shown <|> number? "files" shown
  let linesIn ← number? "->" shown
  let linesOut ← number? "lines" shown
  let deleted ← number? "deleted" shown
  let modified ← number? "modified" shown
  return ⟨files, (number? "failed" shown).getD 0, linesIn, linesOut, deleted, modified⟩

/-- The totals that the last line of a report shows. -/
def lastTotals? (report : List Char) : Option Summary :=
  (Text.lines report).getLast?.bind fun line => shownTotals? line.text

/-! ## Digits -/

@[simp] theorem digitsValue?_toDigits
    (n : Nat) :
    digitsValue? (Nat.toDigits 10 n) = some n := by
  have hdigits : ∀ c ∈ Nat.toDigits 10 n, c.isDigit = true :=
    fun c => Nat.isDigit_of_mem_toDigits (by decide) (by decide)
  have hvalue : (Nat.toDigits 10 n).foldl (fun n c => n * 10 + (c.toNat - '0'.toNat)) 0 = n := by
    simp only [Nat.mul_comm _ 10]
    exact Nat.ofDigitChars_ten_toDigits
  rw [digitsValue?, hvalue, List.isEmpty_eq_false_iff.2 Nat.toDigits_ne_nil, List.all_eq_true.2 hdigits]
  rfl

theorem not_mem_toDigits
    {c : Char}
    (h : c.isDigit = false)
    (n : Nat) :
    c ∉ Nat.toDigits 10 n := by
  intro hmem
  rw [Nat.isDigit_of_mem_toDigits (by decide) (by decide) hmem] at h
  cases h

/-- Digits stay as they are. -/
theorem bare_append_of_digits
    {front : List Char}
    (h : ∀ c ∈ front, c.isDigit = true)
    (rest : List Char) :
    bare false (front ++ rest) = front ++ bare false rest := by
  induction front with
  | nil => rfl
  | cons c front ih =>
    rw [List.forall_mem_cons] at h
    have hc : c ≠ '\x1b' ∧ c ≠ '(' ∧ c ≠ ')' ∧ c ≠ ',' := by
      refine ⟨?_, ?_, ?_, ?_⟩ <;> (rintro rfl; exact absurd h.1 (by decide))
    simp [bare, hc, ih h.2]

@[simp] theorem bare_toDigits
    (n : Nat) (rest : List Char) :
    bare false (Nat.toDigits 10 n ++ rest) = Nat.toDigits 10 n ++ bare false rest :=
  bare_append_of_digits (fun _ => Nat.isDigit_of_mem_toDigits (by decide) (by decide)) rest

/-- The line of the totals, without its end. -/
def totalsText (s : Summary) : List Char :=
  bold.toList ++ (Nat.toDigits 10 s.files ++ (" file".toList ++ ((if s.files = 1 then [] else ['s']) ++
    ((if s.failed = 0 then []
      else ", ".toList ++ (red.toList ++ (Nat.toDigits 10 s.failed ++ (" failed".toList ++
        (plain.toList ++ bold.toList))))) ++
    (" (".toList ++ (Nat.toDigits 10 s.linesIn ++ (" -> ".toList ++ (Nat.toDigits 10 s.linesOut ++
    (" lines, ".toList ++ (Nat.toDigits 10 s.deleted ++ (" deleted, ".toList ++
    (Nat.toDigits 10 s.modified ++ (" modified)".toList ++ plain.toList)))))))))))))

theorem toList_summaryLine
    (s : Summary) :
    (summaryLine s).toList = totalsText s ++ ['\n'] := by
  simp only [summaryLine, totalsText, Nat.toString_eq_repr, String.toList_append, Nat.toList_repr,
    List.append_assoc]
  split_ifs <;> simp

/-- The words of the line of the totals. -/
def totalsWords (s : Summary) : List (List Char) :=
  [Nat.toDigits 10 s.files, if s.files = 1 then "file".toList else "files".toList] ++
    (if s.failed = 0 then [] else [Nat.toDigits 10 s.failed, "failed".toList]) ++
    [Nat.toDigits 10 s.linesIn, "->".toList, Nat.toDigits 10 s.linesOut, "lines".toList,
      Nat.toDigits 10 s.deleted, "deleted".toList, Nat.toDigits 10 s.modified, "modified".toList]

theorem bare_totalsText
    (s : Summary) :
    bare false (totalsText s) = [' '].intercalate (totalsWords s) := by
  unfold totalsText totalsWords
  split_ifs <;> simp [bare, bold, red, plain, List.intercalate]

theorem splitOn_bare_totalsText
    (s : Summary) :
    (bare false (totalsText s)).splitOn ' ' = totalsWords s := by
  have hdigits (n : Nat) : ' ' ∉ Nat.toDigits 10 n := not_mem_toDigits (by decide) n
  rw [bare_totalsText, List.splitOn_intercalate]
  · unfold totalsWords
    split_ifs <;> simp [hdigits]
  · simp [totalsWords]

@[simp] theorem number?_cons
    (label : String) (word number : List Char) (shown : List (List Char × List Char)) :
    number? label ((word, number) :: shown) =
      if label.toList = word then digitsValue? number else number? label shown := by
  rw [number?, lookup_cons_eq_ite]
  split_ifs <;> rfl

@[simp] theorem number?_nil
    (label : String) :
    number? label [] = none := rfl

/-- The totals can be read off the line that shows them. -/
theorem shownTotals?_totalsText
    (s : Summary) :
    shownTotals? (totalsText s) = some s := by
  obtain ⟨files, failed, linesIn, linesOut, deleted, modified⟩ := s
  rw [shownTotals?, splitOn_bare_totalsText, totalsWords]
  by_cases hfiles : files = 1 <;> by_cases hfailed : failed = 0 <;>
    simp [hfiles, hfailed, labelled]

theorem not_mem_totalsText
    {c : Char}
    (h : c = '\r' ∨ c = '\n')
    (s : Summary) :
    c ∉ totalsText s := by
  have hdigits (n : Nat) : c ∉ Nat.toDigits 10 n :=
    not_mem_toDigits (by rcases h with rfl | rfl <;> decide) n
  rcases h with rfl | rfl <;> unfold totalsText <;> split_ifs <;> simp [bold, red, plain, hdigits]

/-- A report ends with the line of the totals, whatever stands before. -/
theorem lastTotals?_pretty
    (results : List TimedResult) :
    lastTotals? (pretty results).toList = some (summary results) := by
  rw [pretty]
  generalize summary results = s
  generalize String.join (results.map fileLine) = front
  have htext : (front ++ "\n" ++ summaryLine s).toList =
      (front.toList ++ ['\n']) ++ (totalsText s ++ LineEnding.lf.text) := by
    rw [String.toList_append, String.toList_append, toList_summaryLine]
    rfl
  have hcut : Text.CleanCut (front.toList ++ ['\n']) (totalsText s ++ LineEnding.lf.text) :=
    .inr (.inr (.inl List.getLast?_concat))
  have hlast : Text.lines (totalsText s ++ LineEnding.lf.text) = [⟨totalsText s, .lf⟩] :=
    Text.lines_text_append_ending (not_mem_totalsText (.inl rfl) s) (not_mem_totalsText (.inr rfl) s)
      (fun hmissing => by cases hmissing)
  rw [lastTotals?, htext, Text.lines_append hcut, hlast, List.getLast?_concat]
  exact shownTotals?_totalsText s

/-- The document, the report for a terminal and the exit status of the run agree on the totals of the
results.  The totals add up from the entries of the document, and neither the division of the results into
batches nor their order matters to them. -/
theorem reports_agree
    (results : List TimedResult) :
    (∃ entries totals, (document results).field? "files" = some (.array entries) ∧
      (document results).field? "summary" = some totals ∧
      totals.summary? = some (summary results) ∧ Tallies entries (summary results)) ∧
    lastTotals? (pretty results).toList = some (summary results) ∧
    (summary results).linesIn = (summary results).linesOut + (summary results).deleted ∧
    (summary results).modified ≤ (summary results).linesOut ∧
    (∀ more, summary (results ++ more) = summary results + summary more) ∧
    (∀ others, others.Perm results → summary others = summary results) ∧
    ∀ startPool fs arguments format batch time,
      (run startPool fs arguments).2 = .reported format batch →
        results = batch.mapIdx (fun i r => ⟨r, time i⟩) →
          (run startPool fs arguments).2.text time = format.report results ∧
            (run startPool fs arguments).2.exitStatus =
              if 0 < (summary results).failed then 1 else 0 := by
  refine ⟨⟨results.map fileDocument, summaryDocument (summary results), by simp [document],
      by simp [document], summary?_summaryDocument _, tallies_fileDocument results⟩,
    lastTotals?_pretty results, Summary.linesIn_ofResults _, Summary.modified_le_linesOut_ofResults _,
    fun more => ?_, fun others hperm => Summary.ofResults_perm (hperm.map _), ?_⟩
  · rw [summary, List.map_append, Summary.ofResults_append]
    rfl
  · intro startPool fs arguments format batch time hrun hresults
    have hbatch : results.map (·.result) = batch := by
      refine List.ext_getElem? fun i => ?_
      rw [hresults, List.getElem?_map, List.getElem?_mapIdx, Option.map_map]
      exact Option.map_id'
    rw [hrun, summary, hbatch]
    subst hresults
    refine ⟨rfl, ?_⟩
    simp only [Outcome.exitStatus, Summary.failed_ofResults_pos_iff]

/-- A rules file that deletes lines with a hash sign, a file with one such line, and a file with a byte
behind such a line that is no text. -/
def halfReadable : FileSystem :=
  ((FileSystem.empty.put [['c']]
      (.file "[[rule]]\naction = \"delete\"\nmatch = \"#\"\n".toUTF8.toList 0o644)).put
    [['a']] (.file "#\ny".toUTF8.toList 0o644)).put [['b']] (.file [35, 10, 255] 0o644)

theorem reports_agree_half_readable :
    let arguments := ["run", "--config=c", "--in-place", "a", "b"].map String.toList
    let startPool : Nat → Path → PoolStart := fun _ _ => .ok ()
    let results : List TimedResult :=
      [⟨⟨⟨['a']⟩, some ⟨['a']⟩, none, ⟨1, 1, 0⟩⟩, 4⟩,
        ⟨⟨⟨['b']⟩, some ⟨['b']⟩, some (.io ⟨['b']⟩ (.invalidText ⟨0, some 1⟩)), ⟨0, 1, 0⟩⟩, 5⟩]
    (run startPool halfReadable arguments).2 = .reported .pretty (results.map (·.result)) ∧
      lastTotals? ((run startPool halfReadable arguments).2.text fun i => 4 + i).toList =
        some ⟨2, 1, 3, 1, 2, 0⟩ ∧
      (run startPool halfReadable arguments).2.exitStatus = 1 ∧
      results.reverse.Perm results ∧ summary results.reverse = ⟨2, 1, 3, 1, 2, 0⟩ := by
  intro arguments startPool results
  have hrun : (run startPool halfReadable arguments).2 = .reported .pretty (results.map (·.result)) := by
    decide +kernel
  have htotals : summary results = ⟨2, 1, 3, 1, 2, 0⟩ := by decide
  obtain ⟨-, hshown, -, -, -, hperm, hexit⟩ := reports_agree results
  rw [htotals] at hshown hperm hexit
  obtain ⟨htext, hstatus⟩ := hexit startPool halfReadable arguments .pretty _ (fun i => 4 + i) hrun rfl
  have hreverse : results.reverse.Perm results := List.reverse_perm results
  refine ⟨hrun, ?_, hstatus, hreverse, hperm _ hreverse⟩
  rw [htext]
  exact hshown

end Report
end LineSieve
