import LineSieve.Regex.Template
import Mathlib.Tactic

/-!
# The matches in a text

Group 0 covers the whole match.  A thread notes the place where it starts under slot 0 before it takes
its first step, marks are only ever added, and a thread that accepts notes the place under slot 1; so
the marks that a search gives hold both slots.  A match has a text, perhaps an absent one, for every
group of its expression.

The pieces of a text, with what is skipped between them and what is left, make up the text.  So a
replacement in which every match stands for itself leaves a text as it is.
-/

namespace LineSieve
namespace Regex

/-! ## The marks of a search -/

/-- A place has been noted under a slot. -/
def HasMark (slot : Nat) (marks : Marks) : Prop := (placeOf? marks slot).isSome = true

theorem HasMark.cons
    {slot : Nat} {marks : Marks}
    (mark : Nat × Nat)
    (h : HasMark slot marks) :
    HasMark slot (mark :: marks) := by
  unfold HasMark placeOf? at h ⊢
  rw [List.find?_cons]
  split
  · rfl
  · exact h

theorem hasMark_cons_self
    (slot place : Nat) (marks : Marks) :
    HasMark slot ((slot, place) :: marks) := by
  simp [HasMark, placeOf?]

/-- The place where the thread has started is noted. -/
def Thread.Started (thread : Thread) : Prop := HasMark 0 thread.marks

/-- The marks of a match: its start and its end are noted. -/
structure IsMatched (marks : Marks) : Prop where
  start : HasMark 0 marks
  stop : HasMark 1 marks

namespace Program

variable (program : Program)

/-- Threads that have started lead to threads that have, and one that accepts gives a match. -/
theorem started_of_explore
    (prev next : Option Char) (place steps : Nat)
    {stack : List Thread} {entered : Array Bool} {found : List Thread}
    (hstack : ∀ thread ∈ stack, thread.Started)
    (hfound : ∀ thread ∈ found, thread.Started) :
    (∀ thread ∈ (program.explore prev next place steps stack entered found).1, thread.Started) ∧
      ∀ marks, (program.explore prev next place steps stack entered found).2 = some marks →
        IsMatched marks := by
  have hstop : ∀ {found : List Thread}, (∀ thread ∈ found, thread.Started) →
      ∀ thread ∈ found.reverse, thread.Started := by
    intro found hfound thread hmem
    exact hfound thread (List.mem_reverse.1 hmem)
  -- on the steps that are left; a thread that is put on the stack has the marks of the one taken off
  induction steps generalizing stack entered found with
  | zero => exact ⟨hstop hfound, nofun⟩
  | succ steps ih =>
    cases stack with
    | nil => exact ⟨hstop hfound, nofun⟩
    | cons thread stack =>
      obtain ⟨hthread, hstack⟩ := List.forall_mem_cons.1 hstack
      rw [explore]
      split_ifs
      · exact ih hstack hfound
      · simp only
        split
        · exact ih hstack hfound
        · exact ih hstack (List.forall_mem_cons.2 ⟨hthread, hfound⟩)
        · split_ifs
          · exact ih (List.forall_mem_cons.2 ⟨hthread, hstack⟩) hfound
          · exact ih hstack hfound
        · exact ih (List.forall_mem_cons.2 ⟨hthread.cons _, hstack⟩) hfound
        · exact ih (List.forall_mem_cons.2 ⟨hthread, List.forall_mem_cons.2 ⟨hthread, hstack⟩⟩) hfound
        · refine ⟨hstop hfound, ?_⟩
          rintro marks ⟨⟩
          exact ⟨hthread.cons _, hasMark_cons_self 1 place _⟩

theorem started_of_settle
    (prev next : Option Char) (place : Nat)
    {threads : List Thread}
    (h : ∀ thread ∈ threads, thread.Started) :
    (∀ thread ∈ (program.settle prev next place threads).1, thread.Started) ∧
      ∀ marks, (program.settle prev next place threads).2 = some marks → IsMatched marks :=
  program.started_of_explore prev next place _ h (by simp)

theorem started_of_advance?
    {c : Char} {thread later : Thread}
    (h : thread.Started)
    (hlater : program.advance? c thread = some later) :
    later.Started := by
  unfold advance? at hlater
  split at hlater
  · split_ifs at hlater
    cases hlater
    exact h
  · cases hlater

/-- The threads at a place, with a new one if there is no match yet, have all started. -/
theorem started_of_joined
    (best : Option Marks) (place : Nat)
    {threads : List Thread}
    (h : ∀ thread ∈ threads, thread.Started) :
    ∀ thread ∈ (if best.isNone then threads ++ [⟨program.start, [(0, place)]⟩] else threads),
      thread.Started := by
  intro thread hmem
  split_ifs at hmem
  · rcases List.mem_append.1 hmem with hold | hnew
    · exact h thread hold
    · rw [List.mem_singleton.1 hnew]
      exact hasMark_cons_self 0 place []
  · exact h thread hmem

theorem isMatched_of_or
    {accepted best : Option Marks} {marks : Marks}
    (haccepted : ∀ marks, accepted = some marks → IsMatched marks)
    (hbest : ∀ marks, best = some marks → IsMatched marks)
    (h : accepted.or best = some marks) :
    IsMatched marks := by
  rcases Option.or_eq_some_iff.1 h with hfirst | ⟨-, hsecond⟩
  · exact haccepted marks hfirst
  · exact hbest marks hsecond

theorem isMatched_of_run
    {prev : Option Char} {place : Nat} {threads : List Thread} {best : Option Marks}
    {text : List Char} {marks : Marks}
    (hthreads : ∀ thread ∈ threads, thread.Started)
    (hbest : ∀ marks, best = some marks → IsMatched marks)
    (h : program.run prev place threads best text = some marks) :
    IsMatched marks := by
  induction text generalizing prev place threads best with
  | nil =>
    have hjoined := program.started_of_joined best place hthreads
    simp only [run] at h
    generalize (if best.isNone then _ else threads) = joined at h hjoined
    exact isMatched_of_or (program.started_of_settle prev none place hjoined).2 hbest h
  | cons c rest ih =>
    have hjoined := program.started_of_joined best place hthreads
    simp only [run] at h
    generalize (if best.isNone then _ else threads) = joined at h hjoined
    obtain ⟨hactive, haccepted⟩ := program.started_of_settle prev (some c) place hjoined
    split_ifs at h
    · exact isMatched_of_or haccepted hbest h
    · refine ih ?_ (fun marks hor => isMatched_of_or haccepted hbest hor) h
      intro thread hmem
      obtain ⟨before, hbefore, hadvance⟩ := List.mem_filterMap.1 hmem
      exact program.started_of_advance? (hactive before hbefore) hadvance

/-- What a search gives is a match. -/
theorem isMatched_of_search
    {prev : Option Char} {text : List Char} {marks : Marks}
    (h : program.search prev text = some marks) :
    IsMatched marks :=
  program.isMatched_of_run (by simp) (by simp) h

end Program

/-! ## The groups of a match -/

variable {re : Regex} {prev : Option Char} {afterMatch : Bool} {text template : List Char}

/-- There is a text, perhaps an absent one, for every group of an expression, and group 0 is the whole
match. -/
structure FitsGroups (re : Regex) (matched : List Char) (groups : List (Option (List Char))) : Prop
    where
  length_eq : groups.length = re.groupNames.length
  whole : re.groupNames ≠ [] → groups[0]? = some (some matched)

theorem fitsGroups_of_find?
    {m : Match text}
    (h : re.find? prev text = some m) :
    re.FitsGroups m.matched m.groups := by
  obtain ⟨marks, hsearch, rfl⟩ := Option.map_eq_some_iff.1 h
  obtain ⟨hstart, hstop⟩ := re.program.isMatched_of_search hsearch
  obtain ⟨start, hstart⟩ := Option.isSome_iff_exists.1 hstart
  obtain ⟨stop, hstop⟩ := Option.isSome_iff_exists.1 hstop
  refine ⟨by simp [matchOf], fun hne => ?_⟩
  have hpos : 0 < re.groupNames.length := List.length_pos_iff.2 hne
  simp [matchOf, hpos, groupText?, hstart, hstop, slice]

theorem fitsGroups_of_next?
    {m : Match text}
    (h : re.next? prev afterMatch text = some m) :
    re.FitsGroups m.matched m.groups := by
  cases text with
  | nil =>
    simp only [next?] at h
    split at h
    · cases h
    next found hfound =>
      split_ifs at h
      cases h
      exact fitsGroups_of_find? hfound
  | cons c rest =>
    simp only [next?] at h
    split at h
    · cases h
    next found hfound =>
      split_ifs at h
      · -- one more character in front changes neither the match nor its groups
        obtain ⟨later, hlater, rfl⟩ := Option.map_eq_some_iff.1 h
        have hfits := fitsGroups_of_find? hlater
        exact hfits
      · cases h
        exact fitsGroups_of_find? hfound

/-! ## The pieces of a text -/

theorem fitsGroups_of_mem_pieces
    {piece : Piece}
    (h : piece ∈ (re.pieces prev afterMatch text).1) :
    re.FitsGroups piece.matched piece.groups := by
  fun_induction pieces re prev afterMatch text with
  | case1 => cases h
  | case2 prev afterMatch text m hnext others last hrest ih =>
    rcases List.mem_cons.1 h with rfl | hmem
    · exact fitsGroups_of_next? hnext
    · exact ih (by rwa [hrest])

/-- The pieces of a text lose nothing of it. -/
theorem flatMap_pieces
    (re : Regex) (prev : Option Char) (afterMatch : Bool) (text : List Char) :
    ((re.pieces prev afterMatch text).1.flatMap fun piece => piece.skipped ++ piece.matched) ++
      (re.pieces prev afterMatch text).2 = text := by
  fun_induction pieces re prev afterMatch text with
  | case1 => rfl
  | case2 prev afterMatch text m hnext others last hrest ih =>
    rw [hrest] at ih
    rw [List.flatMap_cons, List.append_assoc, ih, List.append_assoc, m.text_eq]

/-- A template that stands for the whole match changes nothing. -/
theorem replaceAll_eq_self
    (hexpand : ∀ piece : Piece, re.FitsGroups piece.matched piece.groups →
      re.expand template piece = piece.matched)
    (text : List Char) :
    re.replaceAll template text = text := by
  have hpieces : ((re.pieces none false text).1.flatMap fun piece =>
        piece.skipped ++ re.expand template piece) =
      (re.pieces none false text).1.flatMap fun piece => piece.skipped ++ piece.matched := by
    apply List.flatMap_congr
    intro piece hmem
    rw [hexpand piece (fitsGroups_of_mem_pieces hmem)]
  simp only [replaceAll]
  rw [hpieces, flatMap_pieces]

/-! ## Expressions that have been compiled -/

/-- A compiled expression has group 0. -/
theorem groupNames_ne_nil_of_compile?
    {source : List Char}
    (h : compile? source = some re) :
    re.groupNames ≠ [] := by
  unfold compile? at h
  split at h
  · cases h
  · split_ifs at h
    cases h
    simp [namesOf]

end Regex
end LineSieve
