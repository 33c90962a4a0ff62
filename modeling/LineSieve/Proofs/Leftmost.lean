import LineSieve.Proofs.Matches
import LineSieve.Proofs.Numbering
import LineSieve.Proofs.Searching

/-!
# Leftmost matches

A way through a program follows moves to a place where the program accepts, and notes nothing under the
slots of the whole match until it is there.  Where the program accepts at all there is a way.  So the ways
that begin at a place of a line are the matches of the pattern that begin there, and a search, which gives
the first of all ways, gives the preferred one of the leftmost matches.

The rest of a line is searched on its own, given the character in front of it, and its places are counted
from its start.  `find?_eq` says that this is a search of the line from there on.
-/

namespace LineSieve
namespace Regex

theorem charBefore_succ
    {text : List Char} {place : Nat} {c : Char}
    (h : text[place]? = some c) :
    charBefore text (place + 1) = some c := by
  rw [charBefore, List.take_add_one, h]
  simp

theorem getElem?_eq_and_eq_drop_of_cons
    {text rest : List Char} {place : Nat} {c : Char}
    (h : c :: rest = text.drop place) :
    text[place]? = some c ∧ rest = text.drop (place + 1) := by
  constructor
  · rw [← List.head?_drop, ← h, List.head?_cons]
  · rw [← List.tail_drop, ← h, List.tail_cons]

namespace Program

variable {program : Program} {text : List Char} {place : Nat} {entered : Finset Nat} {thread : Thread}

/-! ## Ways and moves -/

/-- A way leads along moves to where it ends.  It is the last thing to note the end of the match. -/
theorem exists_accepts_of_mem_ways
    {prev : Option Char} {rest : List Char} {marks : Marks}
    (hcode : LeavesWhole program.code)
    (hprev : prev = charBefore text place)
    (hrest : rest = text.drop place)
    (h : marks ∈ program.ways prev rest place entered thread) :
    ∃ moves stop noted, marks = (1, stop) :: (noted ++ thread.marks) ∧
      (∀ mark ∈ noted, 2 ≤ mark.1) ∧ Accepts program.code text moves thread.state place stop := by
  fun_induction ways program prev rest place entered thread with
  | case1 => cases h
  | case2 => cases h
  | case3 prev rest place entered thread hnew haccept =>
    obtain rfl := List.mem_singleton.1 h
    exact ⟨0, place, [], rfl, by simp, .accept place haccept⟩
  | case4 => cases h
  | case5 prev place entered thread hnew set target hchars c rest hset ih =>
    obtain ⟨hc, hlater⟩ := getElem?_eq_and_eq_drop_of_cons hrest
    obtain ⟨moves, stop, noted, rfl, hnoted, haccepts⟩ := ih (charBefore_succ hc).symm hlater h
    exact ⟨moves + 1, stop, noted, rfl, hnoted, .move hchars (.chars hc hset) haccepts⟩
  | case6 => cases h
  | case7 prev rest place entered thread hnew condition target hassertion hholds ih =>
    subst hprev hrest
    rw [List.head?_drop] at hholds
    obtain ⟨moves, stop, noted, rfl, hnoted, haccepts⟩ := ih rfl rfl h
    exact ⟨moves + 1, stop, noted, rfl, hnoted, .move hassertion (.assertion hholds) haccepts⟩
  | case8 => cases h
  | case9 prev rest place entered thread hnew slot target hmark ih =>
    obtain ⟨moves, stop, noted, rfl, hnoted, haccepts⟩ := ih hprev hrest h
    refine ⟨moves + 1, stop, noted ++ [(slot, place)], ?_, ?_, .move hmark (.mark _ _ _) haccepts⟩
    · rw [List.append_assoc]
      rfl
    · intro mark hmem
      rcases List.mem_append.1 hmem with hlater | hhere
      · exact hnoted mark hlater
      · rw [List.mem_singleton.1 hhere]
        exact hcode _ _ _ hmark
  | case10 prev rest place entered thread hnew preferred other hsplit ih ih' =>
    rcases List.mem_append.1 h with hfirst | hsecond
    · obtain ⟨moves, stop, noted, rfl, hnoted, haccepts⟩ := ih hprev hrest hfirst
      exact ⟨moves + 1, stop, noted, rfl, hnoted, .move hsplit (.preferred _ _ _) haccepts⟩
    · obtain ⟨moves, stop, noted, rfl, hnoted, haccepts⟩ := ih' hprev hrest hsecond
      exact ⟨moves + 1, stop, noted, rfl, hnoted, .move hsplit (.other _ _ _) haccepts⟩

/-- Where a program accepts there is a way, which need not be the one along which it has been seen to
accept. -/
theorem ways_ne_nil_of_accepts
    {moves state stop : Nat}
    (h : Accepts program.code text moves state place stop)
    (marks : Marks) :
    program.ways (charBefore text place) (text.drop place) place ∅ ⟨state, marks⟩ ≠ [] := by
  induction h generalizing marks with
  | accept place hcode =>
    rw [ways_ne_nil_iff (Finset.notMem_empty _)]
    exact Or.inl (by simp [ends, hcode])
  | @move moves state place target later stop instruction hcode hmove haccepts ih =>
    have hnext : (text.drop place).head? = text[place]? := List.head?_drop
    cases hmove with
    | @chars set _ _ c hc hset =>
      have hdrop : text.drop place = c :: text.drop (place + 1) := by
        obtain ⟨hlt, hget⟩ := List.getElem?_eq_some_iff.1 hc
        rw [List.drop_eq_getElem_cons hlt, hget]
      have hadvance : program.advance? c ⟨state, marks⟩ = some ⟨target, marks⟩ := by
        simp [advance?, hcode, hset]
      rw [ways_ne_nil_iff (Finset.notMem_empty _), hdrop]
      refine Or.inr (Or.inl ?_)
      rw [onward, hadvance, ← charBefore_succ hc]
      exact ih marks
    | assertion hholds =>
      refine ways_ne_nil_of_mem_follow ?_ (ih marks)
      rw [hnext]
      simp [follow, hcode, hholds]
    | mark slot =>
      refine ways_ne_nil_of_mem_follow ?_ (ih ((slot, place) :: marks))
      simp [follow, hcode]
    | preferred =>
      refine ways_ne_nil_of_mem_follow ?_ (ih marks)
      simp [follow, hcode]
    | other =>
      refine ways_ne_nil_of_mem_follow ?_ (ih marks)
      simp [follow, hcode]

theorem Moves.bounds
    {instruction : Instruction} {target later : Nat}
    (h : Moves text instruction place target later) :
    place ≤ later ∧ (place ≤ text.length → later ≤ text.length) := by
  cases h with
  | chars hc =>
    obtain ⟨hlt, -⟩ := List.getElem?_eq_some_iff.1 hc
    exact ⟨Nat.le_succ place, fun _ => hlt⟩
  | _ => exact ⟨le_rfl, id⟩

/-- A program accepts behind where it has started, and inside the text. -/
theorem Accepts.bounds
    {code : Array Instruction} {moves state stop : Nat}
    (h : Accepts code text moves state place stop) :
    place ≤ stop ∧ (place ≤ text.length → stop ≤ text.length) := by
  induction h with
  | accept => exact ⟨le_rfl, id⟩
  | move hcode hmove hrest ih =>
    obtain ⟨hle, hinside⟩ := hmove.bounds
    exact ⟨hle.trans ih.1, fun h => ih.2 (hinside h)⟩

/-! ## Ways of a line -/

/-- The ways through a program from a place of a line. -/
def waysAt (program : Program) (line : List Char) (place : Nat) : List Marks :=
  program.ways (charBefore line place) (line.drop place) place ∅ ⟨program.start, [(0, place)]⟩

variable {p : Pattern} {line : List Char}

theorem exists_covers_of_mem_waysAt
    {marks : Marks}
    (hp : p.Numbered)
    (h : marks ∈ (compile p).waysAt line place) :
    ∃ stop, placeOf? marks 0 = some place ∧ placeOf? marks 1 = some stop ∧ place ≤ stop ∧
      (place ≤ line.length → stop ≤ line.length) ∧ p.Covers line place stop := by
  obtain ⟨moves, stop, noted, rfl, hnoted, haccepts⟩ :=
    exists_accepts_of_mem_ways (leavesWhole_compile hp) rfl rfl h
  refine ⟨stop, ?_, rfl, haccepts.bounds.1, haccepts.bounds.2,
    (accepts_compile_iff hp line place stop).1 ⟨moves, haccepts⟩⟩
  have hnone : noted.find? (fun mark => mark.1 == 0) = none := by
    rw [List.find?_eq_none]
    intro mark hmem hzero
    have hslot := hnoted mark hmem
    rw [beq_iff_eq] at hzero
    omega
  simp [placeOf?, List.find?_append, hnone]

theorem waysAt_ne_nil_iff
    (hp : p.Numbered) :
    (compile p).waysAt line place ≠ [] ↔ ∃ stop, p.Covers line place stop := by
  constructor
  · intro h
    obtain ⟨marks, hmarks⟩ := List.exists_mem_of_ne_nil _ h
    obtain ⟨stop, -, -, -, -, hcovers⟩ := exists_covers_of_mem_waysAt hp hmarks
    exact ⟨stop, hcovers⟩
  · rintro ⟨stop, hcovers⟩
    obtain ⟨moves, haccepts⟩ := (accepts_compile_iff hp line place stop).2 hcovers
    exact ways_ne_nil_of_accepts haccepts [(0, place)]

/-! ## The rest of a line -/

/-- The marks of a text, when `ahead` characters stand in front of it. -/
def shifted (ahead : Nat) (marks : Marks) : Marks := marks.map fun mark => (mark.1, mark.2 + ahead)

theorem map_shifted_ways
    (program : Program) (line : List Char) (ahead place : Nat) :
    (program.ways (charBefore line (place + ahead)) (line.drop (place + ahead)) place ∅
        ⟨program.start, [(0, place)]⟩).map (shifted ahead) =
      program.waysAt line (place + ahead) := by
  have hmark : ∀ slot place marks,
      shifted ahead ((slot, place) :: marks) = (slot, place + ahead) :: shifted ahead marks :=
    fun _ _ _ => rfl
  exact (ways_withMarks hmark (fun place => Nat.add_right_comm place 1 ahead) _ _ place ∅
    ⟨program.start, [(0, place)]⟩).symm

/-- A search of the rest of a line goes through the ways of the line from there on. -/
theorem map_shifted_allWays
    (program : Program) (line : List Char) (ahead place : Nat)
    (h : place + ahead ≤ line.length) :
    (program.allWays (charBefore line (place + ahead)) place (line.drop (place + ahead))).map
        (shifted ahead) =
      (List.range' (place + ahead) (line.length + 1 - (place + ahead))).flatMap
        (program.waysAt line) := by
  have hways := program.map_shifted_ways line ahead place
  generalize hrest : line.drop (place + ahead) = rest
  induction rest generalizing place with
  | nil =>
    have hlast : line.length + 1 - (place + ahead) = 1 := by
      have hle := List.drop_eq_nil_iff.1 hrest
      omega
    rw [allWays, ← hrest, hways, hlast, List.range'_one, List.flatMap_singleton]
  | cons c rest ih =>
    obtain ⟨hc, hlater⟩ := getElem?_eq_and_eq_drop_of_cons hrest.symm
    obtain ⟨hlt, -⟩ := List.getElem?_eq_some_iff.1 hc
    have hsucc : place + 1 + ahead = place + ahead + 1 := Nat.add_right_comm place 1 ahead
    have hmore : line.length + 1 - (place + ahead) = line.length + 1 - (place + ahead + 1) + 1 := by
      omega
    have hothers := ih (place + 1) (by omega) (program.map_shifted_ways line ahead (place + 1))
    rw [hsucc, charBefore_succ hc] at hothers
    rw [allWays, List.map_append, hothers hlater.symm, ← hrest, hways, hmore, List.range'_succ,
      List.flatMap_cons]

end Program

/-! ## Matches in a line -/

variable {line text front : List Char} {place : Nat} {marks : Marks}

namespace Match

/-- The place where a match begins. -/
def start (m : Match line) : Nat := m.before.length

/-- The place where a match ends. -/
def stop (m : Match line) : Nat := m.before.length + m.matched.length

/-- A match in the rest of a line, as a match in the line. -/
def behind (front : List Char) (hline : front ++ text = line) (m : Match text) : Match line :=
  ⟨front ++ m.before, m.matched, m.after, m.groups, by rw [List.append_assoc, m.text_eq, hline]⟩

theorem stop_le
    (m : Match line) :
    m.stop ≤ line.length := by
  have hlength := congrArg List.length m.text_eq
  simp only [List.length_append] at hlength
  rw [stop]
  omega

end Match

theorem placeOf?_shifted
    (ahead slot : Nat) (marks : Marks) :
    placeOf? (Program.shifted ahead marks) slot = (placeOf? marks slot).map (· + ahead) := by
  simp [placeOf?, Program.shifted, List.find?_map, Function.comp_def]

theorem slice_behind
    (hline : front ++ text = line)
    (start stop : Nat) :
    slice line (start + front.length) (stop + front.length) = slice text start stop := by
  rw [slice, slice, ← hline, Nat.add_sub_add_right, Nat.add_comm start,
    List.drop_length_add_append]

theorem groupText?_shifted
    (hline : front ++ text = line)
    (marks : Marks) (group : Nat) :
    groupText? line (Program.shifted front.length marks) group = groupText? text marks group := by
  simp only [groupText?, placeOf?_shifted]
  cases placeOf? marks (2 * group) <;> cases placeOf? marks (2 * group + 1) <;>
    simp [slice_behind hline]

theorem behind_matchOf
    (hline : front ++ text = line)
    (groups : Nat)
    (h : IsMatched marks) :
    (matchOf text groups marks).behind front hline =
      matchOf line groups (Program.shifted front.length marks) := by
  obtain ⟨start, hstart⟩ := Option.isSome_iff_exists.1 h.start
  obtain ⟨stop, hstop⟩ := Option.isSome_iff_exists.1 h.stop
  have hgroups : (List.range groups).map (groupText? line (Program.shifted front.length marks)) =
      (List.range groups).map (groupText? text marks) :=
    List.map_congr_left fun group _ => groupText?_shifted hline marks group
  subst hline
  have htake : (front ++ text).take (start + front.length) = front ++ text.take start := by
    rw [Nat.add_comm, List.take_length_add_append]
  have hdrop : (front ++ text).drop (start + front.length) = text.drop start := by
    rw [Nat.add_comm, List.drop_length_add_append]
  have hlength : stop + front.length - (start + front.length) = stop - start :=
    Nat.add_sub_add_right _ _ _
  simp only [matchOf, Match.behind, placeOf?_shifted, hstart, hstop, Option.map_some,
    Option.getD_some, htake, hdrop, hlength, hgroups]

/-- The matches that begin at a place of a line, preferred ones first. -/
def matchesAt (re : Regex) (line : List Char) (place : Nat) : List (Match line) :=
  (re.program.waysAt line place).map (matchOf line re.groupNames.length)

/-- The first match in the rest of a line is the first one in the line from there on. -/
theorem map_behind_find?
    (re : Regex)
    (hline : front ++ text = line) :
    (re.find? front.getLast? text).map (Match.behind front hline) =
      ((List.range' front.length (line.length + 1 - front.length)).flatMap
        (re.matchesAt line)).head? := by
  have hprev : charBefore line (0 + front.length) = front.getLast? := by
    rw [charBefore, ← hline, Nat.zero_add, List.take_left]
  have htext : line.drop (0 + front.length) = text := by
    rw [← hline, Nat.zero_add, List.drop_left]
  have hle : 0 + front.length ≤ line.length := by
    rw [← hline, List.length_append]
    omega
  have hall := re.program.map_shifted_allWays line front.length 0 hle
  rw [hprev, htext, Nat.zero_add] at hall
  have hmatches : (List.range' front.length (line.length + 1 - front.length)).flatMap
        (re.matchesAt line) =
      ((re.program.allWays front.getLast? 0 text).map (Program.shifted front.length)).map
        (matchOf line re.groupNames.length) := by
    rw [hall, List.map_flatMap]
    rfl
  rw [hmatches, List.head?_map, List.head?_map, ← Program.search_eq, find?, Option.map_map,
    Option.map_map]
  cases hsearch : re.program.search front.getLast? text with
  | none => rfl
  | some marks =>
    exact congrArg some (behind_matchOf hline _ (re.program.isMatched_of_search hsearch))

/-! ## First matches -/

variable {re : Regex} {source : List Char}

theorem start_stop_of_mem_matchesAt
    {m : Match line}
    (hcompile : compile? source = some re)
    (hplace : place ≤ line.length)
    (h : m ∈ re.matchesAt line place) :
    m.start = place ∧ re.pattern.Covers line m.start m.stop := by
  obtain ⟨hprogram, hnumbered⟩ := program_eq_of_compile? hcompile
  obtain ⟨marks, hmarks, rfl⟩ := List.mem_map.1 h
  rw [hprogram] at hmarks
  obtain ⟨stop, hstart, hstop, hle, hinside, hcovers⟩ :=
    Program.exists_covers_of_mem_waysAt hnumbered hmarks
  have hlength := hinside hplace
  have hat : (matchOf line re.groupNames.length marks).start = place := by
    simp [Match.start, matchOf, hstart, hplace]
  have hend : (matchOf line re.groupNames.length marks).stop = stop := by
    simp only [Match.stop, matchOf, hstart, hstop, Option.getD_some, List.length_take,
      List.length_drop]
    omega
  exact ⟨hat, by rwa [hat, hend]⟩

theorem matchesAt_ne_nil_iff
    (hcompile : compile? source = some re) :
    re.matchesAt line place ≠ [] ↔ ∃ stop, re.pattern.Covers line place stop := by
  obtain ⟨hprogram, hnumbered⟩ := program_eq_of_compile? hcompile
  rw [← Program.waysAt_ne_nil_iff hnumbered, ← hprogram, matchesAt, ne_eq, List.map_eq_nil_iff]

/-- The match that begins leftmost from a place on, and the preferred one of those that begin there. -/
structure IsFirstFrom (re : Regex) (place : Nat) (m : Match line) : Prop where
  from_le : place ≤ m.start
  covers : re.pattern.Covers line m.start m.stop
  leftmost : ∀ start stop, place ≤ start → start < m.start → ¬ re.pattern.Covers line start stop
  preferred : (re.matchesAt line m.start).head? = some m

theorem head?_flatMap_range'_eq_some_iff
    {α : Type} {f : Nat → List α} {first count : Nat} {a : α} :
    ((List.range' first count).flatMap f).head? = some a ↔
      ∃ number, first ≤ number ∧ number < first + count ∧
        (∀ earlier, first ≤ earlier → earlier < number → f earlier = []) ∧
        (f number).head? = some a := by
  induction count generalizing first with
  | zero =>
    simp only [List.range'_zero, List.flatMap_nil, List.head?_nil, reduceCtorEq, false_iff]
    rintro ⟨number, hle, hlt, -⟩
    omega
  | succ count ih =>
    rw [List.range'_succ, List.flatMap_cons, List.head?_append]
    cases hfirst : f first with
    | nil =>
      rw [List.head?_nil, Option.none_or, ih]
      constructor
      · rintro ⟨number, hle, hlt, hnone, hhead⟩
        refine ⟨number, by omega, by omega, fun earlier hearlier hbefore => ?_, hhead⟩
        rcases hearlier.eq_or_lt with rfl | hlater
        · exact hfirst
        · exact hnone earlier hlater hbefore
      · rintro ⟨number, hle, hlt, hnone, hhead⟩
        have hne : first ≠ number := by
          rintro rfl
          simp [hfirst] at hhead
        exact ⟨number, by omega, by omega, fun earlier hearlier => hnone earlier (by omega), hhead⟩
    | cons b others =>
      rw [List.head?_cons, Option.some_or]
      constructor
      · intro hhead
        refine ⟨first, le_rfl, by omega, fun earlier hearlier hbefore => ?_, ?_⟩
        · omega
        · rw [hfirst]
          exact hhead
      · rintro ⟨number, hle, hlt, hnone, hhead⟩
        rcases hle.eq_or_lt with rfl | hlater
        · rw [hfirst] at hhead
          exact hhead
        · rw [hnone first le_rfl hlater] at hfirst
          cases hfirst

theorem isFirstFrom_iff_head?
    {m : Match line}
    (hcompile : compile? source = some re) :
    re.IsFirstFrom place m ↔
      ((List.range' place (line.length + 1 - place)).flatMap (re.matchesAt line)).head? = some m := by
  rw [head?_flatMap_range'_eq_some_iff]
  have hnil : ∀ start, re.matchesAt line start = [] ↔ ∀ stop, ¬ re.pattern.Covers line start stop :=
    fun start => by rw [← not_iff_not, ← ne_eq, matchesAt_ne_nil_iff hcompile, not_forall_not]
  constructor
  · intro h
    have hstop := m.stop_le
    have hstart : m.start ≤ m.stop := Nat.le_add_right _ _
    have hle := h.from_le
    exact ⟨m.start, hle, by omega,
      fun start hplace hbefore => (hnil start).2 fun stop => h.leftmost start stop hplace hbefore,
      h.preferred⟩
  · rintro ⟨start, hle, hlt, hnone, hhead⟩
    obtain ⟨rfl, hcovers⟩ :=
      start_stop_of_mem_matchesAt hcompile (by omega) (List.mem_of_head? hhead)
    exact ⟨hle, hcovers,
      fun start stop hplace hbefore => (hnil start).1 (hnone start hplace hbefore) stop, hhead⟩

/-- A search of the rest of a line gives its first match. -/
theorem isFirstFrom_iff_find?
    {m : Match line}
    (hcompile : compile? source = some re)
    (hline : front ++ text = line) :
    re.IsFirstFrom front.length m ↔
      (re.find? front.getLast? text).map (Match.behind front hline) = some m := by
  rw [isFirstFrom_iff_head? hcompile, map_behind_find? re hline]

theorem IsFirstFrom.unique
    {m m' : Match line}
    (hcompile : compile? source = some re)
    (h : re.IsFirstFrom place m)
    (h' : re.IsFirstFrom place m') :
    m = m' := by
  rw [isFirstFrom_iff_head? hcompile] at h h'
  exact Option.some.inj (h.symm.trans h')

/-- An expression matches somewhere in a line exactly if its pattern covers a part of it. -/
theorem isMatch_iff
    (hcompile : compile? source = some re)
    (line : List Char) :
    re.isMatch line = true ↔
      ∃ start stop, start ≤ line.length ∧ re.pattern.Covers line start stop := by
  have hsome := congrArg Option.isSome (map_behind_find? re (List.nil_append line))
  rw [Option.isSome_map] at hsome
  show (re.find? ([] : List Char).getLast? line).isSome = true ↔ _
  rw [hsome, Option.isSome_iff_ne_none, ne_eq, List.head?_eq_none_iff, List.flatMap_eq_nil_iff,
    not_forall]
  refine exists_congr fun start => ?_
  rw [Classical.not_imp, ← ne_eq, matchesAt_ne_nil_iff hcompile, List.mem_range'_1, exists_and_left]
  simp only [List.length_nil]
  refine and_congr_left fun _ => ?_
  omega

end Regex
end LineSieve
