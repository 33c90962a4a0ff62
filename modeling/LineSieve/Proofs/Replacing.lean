import Mathlib
import LineSieve.Proofs.Identity
import LineSieve.Proofs.Leftmost

/-!
# Replacing matches

The matches of an expression in a line follow one another (`Successive`).  Each is the first one from
where the one before it ends; where this is empty and stands at the end of the one before it, the search
goes on behind the next character.  They cut the line into what they cover and what stands between them.
A replacement puts the expansion of the template in the place of each match and leaves what stands
between them as it is (`exists_replaceAll_eq`).

A rule that modifies a line has been chosen because its expression matches the line, so there is a match
to replace.
-/

namespace LineSieve
namespace Regex

variable {re : Regex} {source line text front : List Char} {place : Nat} {afterMatch : Bool}

/-! ## Successive matches -/

/-- The next match from a place on, at which a match may have ended. -/
inductive IsNext (re : Regex) (afterMatch : Bool) (place : Nat) (m : Match line) : Prop
  | first
      (h : re.IsFirstFrom place m)
      (hmoves : afterMatch = true → place < m.stop)
  | past
      {idle : Match line}
      (hafter : afterMatch = true)
      (hidle : re.IsFirstFrom place idle)
      (hstop : idle.stop = place)
      (h : re.IsFirstFrom (place + 1) m)

/-- All matches from a place on, one after the other. -/
inductive Successive (re : Regex) : Bool → Nat → List (Match line) → Prop
  | done
      {afterMatch : Bool} {place : Nat}
      (h : ∀ m : Match line, ¬ re.IsNext afterMatch place m) :
      Successive re afterMatch place []
  | next
      {afterMatch : Bool} {place : Nat} {m : Match line} {others : List (Match line)}
      (h : re.IsNext afterMatch place m)
      (hothers : Successive re true m.stop others) :
      Successive re afterMatch place (m :: others)

theorem IsNext.from_le
    {m : Match line}
    (h : re.IsNext afterMatch place m) :
    place ≤ m.start := by
  cases h with
  | first h => exact h.from_le
  | past _ _ _ h => exact (Nat.le_succ place).trans h.from_le

/-- An empty match is not taken where the one before it ends. -/
theorem IsNext.lt_stop
    {m : Match line}
    (h : re.IsNext true place m) :
    place < m.stop := by
  cases h with
  | first h hmoves => exact hmoves rfl
  | past _ _ _ h => exact (Nat.lt_of_succ_le h.from_le).trans_le (Nat.le_add_right _ _)

theorem isNext_false_iff
    {m : Match line} :
    re.IsNext false place m ↔ re.IsFirstFrom place m := by
  constructor
  · rintro (⟨h, -⟩ | ⟨hafter, -⟩)
    · exact h
    · cases hafter
  · exact fun h => .first h (by simp)

theorem IsNext.exists_isFirstFrom
    {m : Match line}
    (h : re.IsNext afterMatch place m) :
    ∃ found : Match line, re.IsFirstFrom place found := by
  cases h with
  | first h => exact ⟨m, h⟩
  | past _ hidle => exact ⟨_, hidle⟩

/-- After a match it depends on the first one whether it is the next one. -/
theorem isNext_true_iff
    {found m : Match line}
    (hcompile : compile? source = some re)
    (hfound : re.IsFirstFrom place found) :
    re.IsNext true place m ↔
      if found.stop = place then re.IsFirstFrom (place + 1) m else found = m := by
  have hstop : place ≤ found.stop := hfound.from_le.trans (Nat.le_add_right _ _)
  constructor
  · rintro (⟨h, hmoves⟩ | ⟨-, hidle, hidleStop, h⟩)
    · obtain rfl := hfound.unique hcompile h
      rw [if_neg (hmoves rfl).ne']
    · obtain rfl := hfound.unique hcompile hidle
      rwa [if_pos hidleStop]
  · intro h
    split_ifs at h with heq
    · exact .past rfl hfound heq h
    · subst h
      exact .first hfound fun _ => lt_of_le_of_ne hstop (Ne.symm heq)

theorem IsNext.unique
    {m m' : Match line}
    (hcompile : compile? source = some re)
    (h : re.IsNext afterMatch place m)
    (h' : re.IsNext afterMatch place m') :
    m = m' := by
  cases afterMatch with
  | false => exact (isNext_false_iff.1 h).unique hcompile (isNext_false_iff.1 h')
  | true =>
    obtain ⟨found, hfound⟩ := h.exists_isFirstFrom
    rw [isNext_true_iff hcompile hfound] at h h'
    split_ifs at h h'
    · exact h.unique hcompile h'
    · exact h.symm.trans h'

theorem Successive.bounds
    {ms : List (Match line)} {m : Match line}
    (h : re.Successive afterMatch place ms)
    (hmem : m ∈ ms) :
    place ≤ m.start ∧ (afterMatch = true → place < m.stop) := by
  induction h with
  | done => cases hmem
  | @next afterMatch place first others hnext hothers ih =>
    rcases List.mem_cons.1 hmem with rfl | hlater
    · refine ⟨hnext.from_le, ?_⟩
      rintro rfl
      exact hnext.lt_stop
    · have hfirst : place ≤ first.stop := hnext.from_le.trans (Nat.le_add_right _ _)
      obtain ⟨hstart, hstop⟩ := ih hlater
      exact ⟨hfirst.trans hstart, fun _ => hfirst.trans_lt (hstop rfl)⟩

/-- Successive matches do not overlap, and each ends further behind than those before it. -/
theorem Successive.pairwise
    {ms : List (Match line)}
    (h : re.Successive afterMatch place ms) :
    ms.Pairwise fun m later => m.stop ≤ later.start ∧ m.stop < later.stop := by
  induction h with
  | done => exact List.Pairwise.nil
  | next hnext hothers ih =>
    refine List.pairwise_cons.2 ⟨fun later hmem => ?_, ih⟩
    obtain ⟨hstart, hstop⟩ := hothers.bounds hmem
    exact ⟨hstart, hstop rfl⟩

theorem Successive.unique
    {ms ms' : List (Match line)}
    (hcompile : compile? source = some re)
    (h : re.Successive afterMatch place ms)
    (h' : re.Successive afterMatch place ms') :
    ms = ms' := by
  induction h generalizing ms' with
  | done hnone =>
    cases h' with
    | done => rfl
    | next hnext => exact absurd hnext (hnone _)
  | next hnext hothers ih =>
    cases h' with
    | done hnone => exact absurd hnext (hnone _)
    | next hnext' hothers' =>
      obtain rfl := hnext.unique hcompile hnext'
      rw [ih hothers']

/-! ## What the next match is -/

theorem isIdle_iff
    (hline : front ++ text = line)
    (m : Match text) :
    m.isIdle = true ↔ (m.behind front hline).stop = front.length := by
  simp only [Match.isIdle, Bool.and_eq_true, List.isEmpty_iff, ← List.length_eq_zero_iff, Match.stop,
    Match.behind, List.length_append]
  omega

theorem not_isFirstFrom_of_length_lt
    (h : line.length < place)
    (m : Match line) :
    ¬ re.IsFirstFrom place m := by
  intro hfirst
  have hstart : m.start ≤ m.stop := Nat.le_add_right _ _
  have hle := hfirst.from_le
  have hstop := m.stop_le
  omega

/-- The first match behind the next character. -/
def findPast? (re : Regex) : (text : List Char) → Option (Match text)
  | [] => none
  | c :: rest => (re.find? (some c) rest).map (Match.cons c)

theorem next?_eq
    (re : Regex) (prev : Option Char) (afterMatch : Bool) (text : List Char) :
    re.next? prev afterMatch text = (re.find? prev text).bind fun m =>
      if afterMatch && m.isIdle then re.findPast? text else some m := by
  cases text with
  | nil =>
    rw [next?]
    cases re.find? prev [] <;> rfl
  | cons c rest =>
    rw [next?]
    cases re.find? prev (c :: rest) <;> rfl

theorem isFirstFrom_succ_iff
    {m : Match line}
    (hcompile : compile? source = some re)
    (hline : front ++ text = line) :
    re.IsFirstFrom (front.length + 1) m ↔
      (re.findPast? text).map (Match.behind front hline) = some m := by
  cases text with
  | nil =>
    have hlength : line.length < front.length + 1 := by
      rw [← hline, List.append_nil]
      exact Nat.lt_succ_self _
    simp [findPast?, not_isFirstFrom_of_length_lt hlength m]
  | cons c rest =>
    have hmore : (front ++ [c]) ++ rest = line := by
      rw [List.append_assoc, List.singleton_append, hline]
    have hlength : (front ++ [c]).length = front.length + 1 := by simp
    have hlast : (front ++ [c]).getLast? = some c := by simp
    have hbehind : Match.behind front hline ∘ Match.cons c = Match.behind (front ++ [c]) hmore := by
      funext found
      simp [Match.behind, Match.cons]
    rw [← hlength, isFirstFrom_iff_find? hcompile hmore, hlast, findPast?, Option.map_map, hbehind]

theorem isNext_iff_next?
    {m : Match line}
    (hcompile : compile? source = some re)
    (hline : front ++ text = line) :
    re.IsNext afterMatch front.length m ↔
      (re.next? front.getLast? afterMatch text).map (Match.behind front hline) = some m := by
  have hfirst := fun m => @isFirstFrom_iff_find? _ _ _ _ _ m hcompile hline
  rw [next?_eq]
  cases hfind : re.find? front.getLast? text with
  | none =>
    simp only [Option.bind_none, Option.map_none, reduceCtorEq, iff_false]
    intro h
    obtain ⟨found, hfound⟩ := h.exists_isFirstFrom
    rw [hfirst, hfind] at hfound
    cases hfound
  | some found =>
    have hfound : re.IsFirstFrom front.length (found.behind front hline) := by
      rw [hfirst, hfind, Option.map_some]
    rw [Option.bind_some]
    cases afterMatch with
    | false => rw [isNext_false_iff, hfirst, hfind, Bool.false_and, if_neg Bool.false_ne_true]
    | true =>
      rw [isNext_true_iff hcompile hfound, Bool.true_and]
      by_cases hidle : found.isIdle = true
      · rw [if_pos ((isIdle_iff hline found).1 hidle), if_pos hidle,
          isFirstFrom_succ_iff hcompile hline]
      · rw [if_neg fun hstop => hidle ((isIdle_iff hline found).2 hstop), if_neg hidle,
          Option.map_some, Option.some.injEq]

/-! ## Weaving -/

/-- What stands between the matches from a place on, with a text in the place of each of them. -/
def weave (fill : Match line → List Char) : Nat → List (Match line) → List Char
  | place, [] => line.drop place
  | place, m :: others => slice line place m.start ++ (fill m ++ weave fill m.stop others)

/-- What the template becomes for a match. -/
def expansion (re : Regex) (template : List Char) (m : Match line) : List Char :=
  re.expand template ⟨m.before, m.matched, m.groups⟩

theorem drop_eq_slice_append
    {start : Nat}
    (line : List Char)
    (h : place ≤ start) :
    line.drop place = slice line place start ++ line.drop start := by
  have hstart : place + (start - place) = start := Nat.add_sub_cancel' h
  calc line.drop place
      = (line.drop place).take (start - place) ++ (line.drop place).drop (start - place) :=
        (List.take_append_drop _ _).symm
    _ = slice line place start ++ line.drop start := by rw [List.drop_drop, hstart, slice]

theorem Match.drop_stop
    (m : Match line) :
    line.drop m.stop = m.after := by
  calc line.drop m.stop
      = (m.before ++ m.matched ++ m.after).drop (m.before ++ m.matched).length := by
        rw [List.append_assoc, m.text_eq, List.length_append, stop]
    _ = m.after := List.drop_left

theorem Match.drop_start
    (m : Match line) :
    line.drop m.start = m.matched ++ line.drop m.stop := by
  calc line.drop m.start
      = (m.before ++ (m.matched ++ m.after)).drop m.before.length := by rw [m.text_eq, start]
    _ = m.matched ++ m.after := List.drop_left
    _ = m.matched ++ line.drop m.stop := by rw [m.drop_stop]

/-- The matches and what stands between them make up the line. -/
theorem Successive.weave_matched
    {ms : List (Match line)}
    (h : re.Successive afterMatch place ms) :
    weave Match.matched place ms = line.drop place := by
  induction h with
  | done => rfl
  | next hnext hothers ih =>
    rw [weave, ih, ← Match.drop_start, ← drop_eq_slice_append line hnext.from_le]

theorem expand_eq_expansion
    (re : Regex) (template : List Char)
    (hline : front ++ text = line)
    (m : Match text) :
    re.expand template ⟨m.before, m.matched, m.groups⟩ =
      re.expansion template (m.behind front hline) :=
  List.flatMap_congr fun part _ => by cases part <;> rfl

/-- The pieces of the rest of a line are its successive matches. -/
theorem exists_pieces_eq
    (hcompile : compile? source = some re)
    (hline : front ++ text = line)
    (afterMatch : Bool) :
    ∃ ms : List (Match line), re.Successive afterMatch front.length ms ∧
      ∀ template : List Char,
        ((re.pieces front.getLast? afterMatch text).1.flatMap fun piece =>
            piece.skipped ++ re.expand template piece) ++
          (re.pieces front.getLast? afterMatch text).2 =
        weave (re.expansion template) front.length ms := by
  generalize hprev : front.getLast? = prev
  fun_induction pieces re prev afterMatch text generalizing front with
  | case1 prev afterMatch text hnone =>
    subst hprev
    refine ⟨[], .done fun m hnext => ?_, fun template => ?_⟩
    · rw [isNext_iff_next? hcompile hline, hnone] at hnext
      cases hnext
    · rw [weave, ← hline, List.drop_left]
      rfl
  | case2 prev afterMatch text m hnext others last hrest ih =>
    subst hprev
    have hmore : (front ++ m.before ++ m.matched) ++ m.after = line := by
      rw [List.append_assoc, List.append_assoc, m.text_eq, hline]
    have hlast : (front ++ m.before ++ m.matched).getLast? = m.lastChar front.getLast? := by
      rw [List.getLast?_append, List.getLast?_append, Match.lastChar, Option.or_assoc]
    have hstop : (front ++ m.before ++ m.matched).length = (m.behind front hline).stop := by
      simp [Match.stop, Match.behind, Nat.add_assoc]
    obtain ⟨ms, hsuccessive, hweave⟩ := ih hmore hlast
    rw [hstop] at hsuccessive hweave
    refine ⟨m.behind front hline :: ms, .next ?_ hsuccessive, fun template => ?_⟩
    · rw [isNext_iff_next? hcompile hline, hnext, Option.map_some]
    · have hskipped : slice line front.length (m.behind front hline).start = m.before := by
        calc slice line front.length (front ++ m.before).length
            = slice line (0 + front.length) (m.before.length + front.length) := by
              rw [List.length_append, Nat.zero_add, Nat.add_comm]
          _ = slice text 0 m.before.length := slice_behind hline 0 m.before.length
          _ = (m.before ++ (m.matched ++ m.after)).take m.before.length := by rw [m.text_eq]; rfl
          _ = m.before := List.take_left
      rw [weave, hskipped, ← hweave template, ← expand_eq_expansion re template hline, hrest]
      simp only [List.flatMap_cons, List.append_assoc]

/-- A replacement puts the expansion of the template in the place of each match. -/
theorem exists_replaceAll_eq
    (hcompile : compile? source = some re)
    (line : List Char) :
    ∃ ms : List (Match line), re.Successive false 0 ms ∧
      ∀ template : List Char, re.replaceAll template line = weave (re.expansion template) 0 ms :=
  exists_pieces_eq hcompile (List.nil_append line) false

/-- There is a match to replace exactly if the expression matches the line. -/
theorem Successive.ne_nil_iff
    {ms : List (Match line)}
    (hcompile : compile? source = some re)
    (h : re.Successive false 0 ms) :
    ms ≠ [] ↔ re.isMatch line = true := by
  have hfirst : ∀ m : Match line, re.IsNext false 0 m ↔
      (re.find? none line).map (Match.behind [] (List.nil_append line)) = some m := by
    intro m
    rw [isNext_false_iff]
    exact isFirstFrom_iff_find? hcompile (List.nil_append line)
  rw [isMatch]
  cases h with
  | done hnone =>
    cases hfind : re.find? none line with
    | none => simp
    | some found => exact absurd ((hfirst _).2 (by rw [hfind, Option.map_some])) (hnone _)
  | next hnext =>
    obtain ⟨found, hfind, -⟩ := Option.map_eq_some_iff.1 ((hfirst _).1 hnext)
    simp [hfind]

theorem isMatch_iff_exists_successive
    (hcompile : compile? source = some re)
    (line : List Char) :
    re.isMatch line = true ↔ ∃ ms : List (Match line), ms ≠ [] ∧ re.Successive false 0 ms := by
  obtain ⟨ms, hsuccessive, -⟩ := exists_replaceAll_eq hcompile line
  constructor
  · exact fun h => ⟨ms, (hsuccessive.ne_nil_iff hcompile).2 h, hsuccessive⟩
  · rintro ⟨others, hne, hothers⟩
    exact (hothers.ne_nil_iff hcompile).1 hne

/-- A line that the expression does not match stays as it is. -/
theorem replaceAll_eq_self_of_not_isMatch
    (hcompile : compile? source = some re)
    (template : List Char)
    (h : re.isMatch line = false) :
    re.replaceAll template line = line := by
  obtain ⟨ms, hsuccessive, hreplace⟩ := exists_replaceAll_eq hcompile line
  have hnil : ms = [] := by
    by_contra hne
    rw [(hsuccessive.ne_nil_iff hcompile).1 hne] at h
    cases h
  rw [hreplace, hnil]
  rfl

end Regex

namespace Rule

variable {rules : List Rule} {rule : Rule} {re : Regex} {source line template : List Char}

theorem isMatch_of_appliesTo
    (hpositive : rule.positive = some re)
    (h : rule.appliesTo line = true) :
    re.isMatch line = true := by
  rw [appliesTo, hpositive, Bool.and_eq_true] at h
  exact h.1

/-- A rule that modifies a line puts the expansions of its template in the place of the successive matches
of its expression, of which there is at least one.  Whether the expression matches is the same for the
choice of the rule and for the replacement. -/
theorem evaluate_replaces_matches
    (hfind : rules.find? (·.appliesTo line) = some rule)
    (haction : rule.action = .modify template)
    (hpositive : rule.positive = some re)
    (hcompile : Regex.compile? source = some re) :
    (∃ ms : List (Regex.Match line),
      ms ≠ [] ∧
      re.Successive false 0 ms ∧
      (∀ others : List (Regex.Match line), re.Successive false 0 others → others = ms) ∧
      (ms.Pairwise fun m later => m.stop ≤ later.start ∧ m.stop < later.stop) ∧
      line = Regex.weave Regex.Match.matched 0 ms ∧
      evaluate rules line = ⟨.modify, some (Regex.weave (re.expansion template) 0 ms)⟩) ∧
    (∀ text : List Char,
      (re.isMatch text = true ↔
        ∃ start stop, start ≤ text.length ∧ re.pattern.Covers text start stop) ∧
      (re.isMatch text = true ↔
        ∃ ms : List (Regex.Match text), ms ≠ [] ∧ re.Successive false 0 ms) ∧
      (re.isMatch text = false → re.replaceAll template text = text)) ∧
    (template = ['$', '0'] → evaluate rules line = ⟨.modify, some line⟩) := by
  have hevaluate : evaluate rules line = ⟨.modify, some (re.replaceAll template line)⟩ := by
    rw [evaluate, hfind]
    simp only [apply, haction, hpositive, RuleAction.lineAction]
  refine ⟨?_, fun text => ⟨Regex.isMatch_iff hcompile text, ?_, ?_⟩, ?_⟩
  · obtain ⟨ms, hsuccessive, hreplace⟩ := Regex.exists_replaceAll_eq hcompile line
    have happlies : rule.appliesTo line = true := by simpa using List.find?_some hfind
    refine ⟨ms, (hsuccessive.ne_nil_iff hcompile).2 (isMatch_of_appliesTo hpositive happlies),
      hsuccessive, fun others hothers => hothers.unique hcompile hsuccessive, hsuccessive.pairwise,
      hsuccessive.weave_matched.symm, ?_⟩
    rw [hevaluate, hreplace]
  · exact Regex.isMatch_iff_exists_successive hcompile text
  · exact Regex.replaceAll_eq_self_of_not_isMatch hcompile template
  · rintro rfl
    rw [hevaluate, Regex.replaceAll_wholeMatch .bare hcompile]

/-- The empty text behind the two letters is not replaced, since a match ends there. -/
theorem evaluate_replaces_matches_stars :
    ∃ (re : Regex) (ms : List (Regex.Match ['b', 'a', 'a', 'c'])),
      Regex.compile? ['a', '*'] = some re ∧ ms ≠ [] ∧ re.Successive false 0 ms ∧
        evaluate [⟨.modify ['<', '$', '0', '>'], some re, none⟩] ['b', 'a', 'a', 'c'] =
          ⟨.modify, some (Regex.weave (re.expansion ['<', '$', '0', '>']) 0 ms)⟩ ∧
        Regex.weave (re.expansion ['<', '$', '0', '>']) 0 ms =
          ['<', '>', 'b', '<', 'a', 'a', '>', 'c', '<', '>'] := by
  have happlies : (Regex.compile? ['a', '*']).map (fun re =>
      (⟨.modify ['<', '$', '0', '>'], some re, none⟩ : Rule).appliesTo ['b', 'a', 'a', 'c']) =
        some true := by decide +kernel
  have hresult : (Regex.compile? ['a', '*']).map (fun re =>
      re.replaceAll ['<', '$', '0', '>'] ['b', 'a', 'a', 'c']) =
        some ['<', '>', 'b', '<', 'a', 'a', '>', 'c', '<', '>'] := by cbv
  obtain ⟨re, hcompile, happlies⟩ := Option.map_eq_some_iff.1 happlies
  rw [hcompile, Option.map_some, Option.some.injEq] at hresult
  have hfind : [(⟨.modify ['<', '$', '0', '>'], some re, none⟩ : Rule)].find?
      (·.appliesTo ['b', 'a', 'a', 'c']) =
        some ⟨.modify ['<', '$', '0', '>'], some re, none⟩ := by
    rw [List.find?_cons, happlies]
  obtain ⟨⟨ms, hne, hsuccessive, -, -, -, hevaluate⟩, -, -⟩ :=
    evaluate_replaces_matches hfind rfl rfl hcompile
  have htext : evaluate [⟨.modify ['<', '$', '0', '>'], some re, none⟩] ['b', 'a', 'a', 'c'] =
      ⟨.modify, some (re.replaceAll ['<', '$', '0', '>'] ['b', 'a', 'a', 'c'])⟩ := by
    rw [evaluate, hfind]
    rfl
  rw [hresult, hevaluate] at htext
  exact ⟨re, ms, hcompile, hne, hsuccessive, hevaluate,
    Option.some.inj (congrArg LineOutcome.text htext)⟩

end Rule
end LineSieve
