import LineSieve.Proofs.Rendering

/-!
# Texts one behind the other

Sifting carries nothing from one line to the next but the knowledge that the file has begun.  So where
a text can be cut without parting an ending, and what stands behind the cut does not begin like a file,
both parts can be sifted for themselves.  Such a cut need not be one between chunks: behind a lone `\r`
the chunk goes on.

`processFile_append` says that a file which holds two such texts is published as what would be
published for the first and for the second, and that their counts add up.
-/

namespace LineSieve

open FileSystem

/-! ## Texts -/

namespace Text

variable {front back : List Char}

theorem markOf_append
    (hne : front ≠ [])
    (back : List Char) :
    markOf (front ++ back) = markOf front := by
  cases front with
  | nil => exact absurd rfl hne
  | cons c front => rfl

theorem withoutMark_append
    (hne : front ≠ [])
    (back : List Char) :
    withoutMark (front ++ back) = withoutMark front ++ back := by
  cases front with
  | nil => exact absurd rfl hne
  | cons c front =>
    rw [List.cons_append, withoutMark, withoutMark]
    split_ifs <;> rfl

/-- A text that begins with another character has no byte order mark. -/
theorem markOf_eq_nil_of_head?_ne
    (h : back.head? ≠ some byteOrderMark) :
    markOf back = [] := by
  cases back with
  | nil => rfl
  | cons c back =>
    have hc : c ≠ byteOrderMark := by simpa using h
    rw [markOf, if_neg hc]

theorem CleanCut.withoutMark
    (h : CleanCut front back) :
    CleanCut (withoutMark front) back := by
  cases front with
  | nil => exact h
  | cons c front =>
    rw [Text.withoutMark]
    split_ifs
    · exact h.tail
    · exact h

/-- Behind the first text there is an end of a line, and the second does not begin like a file. -/
structure Joins (front back : List Char) : Prop where
  ends : front.getLast? = some '\n' ∨ front.getLast? = some '\r' ∧ back.head? ≠ some '\n'
  unmarked : back.head? ≠ some byteOrderMark

namespace Joins

variable (h : Joins front back) (rules : List Rule)

include h

theorem ne_nil :
    front ≠ [] := by
  rintro rfl
  rcases h.ends with hend | ⟨hend, -⟩ <;> cases hend

theorem cleanCut :
    CleanCut front back := Or.inr (Or.inr h.ends)

theorem lines_append :
    lines (withoutMark (front ++ back)) =
      lines (withoutMark front) ++ lines (withoutMark back) := by
  rw [withoutMark_append h.ne_nil, Text.lines_append h.cleanCut.withoutMark,
    withoutMark_of_markOf_eq_nil (markOf_eq_nil_of_head?_ne h.unmarked)]

theorem outcomes_append :
    outcomes rules (front ++ back) = outcomes rules front ++ outcomes rules back := by
  rw [outcomes, h.lines_append, List.map_append]
  rfl

theorem rewritten_append :
    rewritten rules (front ++ back) = rewritten rules front ++ rewritten rules back := by
  rw [rewritten, rewritten, rewritten, h.lines_append, List.flatMap_append, markOf_append h.ne_nil,
    markOf_eq_nil_of_head?_ne h.unmarked, List.nil_append, List.append_assoc]

/-- Reading the second text after the first is reading it for itself. -/
theorem sift_append :
    sift rules (Utf8.encode (front ++ back)) =
      (sift rules (Utf8.encode front)).append (sift rules (Utf8.encode back)) := by
  have hback : Sifting.ofFirstText rules back = Sifting.ofText rules back := by
    rw [Sifting.ofFirstText_eq, markOf_eq_nil_of_head?_ne h.unmarked,
      withoutMark_of_markOf_eq_nil (markOf_eq_nil_of_head?_ne h.unmarked)]
    exact Sifting.append_of_no_fault _ rfl
  rw [sift_encode, sift_encode, sift_encode, hback]
  exact Sifting.ofFirstText_append rules h.ne_nil h.cleanCut

theorem sift_get_append
    (action : LineAction) :
    (sift rules (Utf8.encode (front ++ back))).counts.get action =
      (sift rules (Utf8.encode front)).counts.get action +
        (sift rules (Utf8.encode back)).counts.get action := by
  simp only [sift_encode_get_eq_count]
  rw [h.outcomes_append, List.map_append, List.count_append]

end Joins
end Text

/-! ## Files -/

/-- Where the counts of two texts add up to those of a third one, so do the counts of runs over them that
take the same course. -/
theorem Process.SameCourse.get_add
    {counts first second : ActionCounts} {result result' result'' : FileResult} {action : LineAction}
    (hfirst : SameCourse counts first result result')
    (hsecond : SameCourse counts second result result'')
    (hsum : counts.get action = first.get action + second.get action) :
    result.counts.get action = result'.counts.get action + result''.counts.get action := by
  rcases hfirst.counts with ⟨hresult, hresult'⟩ | ⟨hresult, hresult'⟩
  · rcases hsecond.counts with ⟨-, hresult''⟩ | ⟨hcounts, hresult''⟩
    · rw [hresult, hresult', hresult'', ActionCounts.get_zero]
    · -- the third text has no lines that count, so neither have the others
      have hzero : counts.get action = 0 := by rw [← hcounts, hresult, ActionCounts.get_zero]
      rw [hresult, hresult', hresult'', ActionCounts.get_zero]
      omega
  · rcases hsecond.counts with ⟨hcounts, hresult''⟩ | ⟨-, hresult''⟩
    · have hzero : counts.get action = 0 := by rw [← hresult, hcounts, ActionCounts.get_zero]
      rw [hresult, hresult', hresult'', ActionCounts.get_zero]
      omega
    · rw [hresult, hresult', hresult'', hsum]

section Append

open Process Text

variable {config : Config} {fs : FileSystem} {path : Path} {location : Location}
  {content : List UInt8} {mode : Nat} {front back : List Char}

/-- A file that holds one text behind another is processed as both texts would be: with the outcomes of
the first and then those of the second, with the sum of the counts, and so that both of what would be
published is published, one behind the other. -/
theorem processFile_append
    (hfs : fs.WellFormed)
    (hfree : fs.scratch[0]? = none)
    (hfile : fs.lookup path = .ok (location, .file content mode))
    (hjoins : Joins front back) :
    outcomes config.rules (front ++ back) =
        outcomes config.rules front ++ outcomes config.rules back ∧
      sift config.rules (Utf8.encode (front ++ back)) =
        (sift config.rules (Utf8.encode front)).append (sift config.rules (Utf8.encode back)) ∧
      (∀ text, Renders config (fs.withText location mode text) path text) ∧
      (CanReplace config fs path →
        (processFile config (fs.withText location mode (front ++ back)) path).2.success = true) ∧
      (processFile config (fs.withText location mode front) path).2.success =
        (processFile config (fs.withText location mode (front ++ back)) path).2.success ∧
      (processFile config (fs.withText location mode back) path).2.success =
        (processFile config (fs.withText location mode (front ++ back)) path).2.success ∧
      (∀ action,
        (processFile config (fs.withText location mode (front ++ back)) path).2.counts.get action =
          (processFile config (fs.withText location mode front) path).2.counts.get action +
            (processFile config (fs.withText location mode back) path).2.counts.get action) ∧
      ((processFile config (fs.withText location mode (front ++ back)) path).2.success = true →
        ∃ first second, Publishes config (fs.withText location mode front) path first ∧
          Publishes config (fs.withText location mode back) path second ∧
          Publishes config (fs.withText location mode (front ++ back)) path (first ++ second)) := by
  have hfront := sameCourse_withText hfs hfile config (front ++ back) front
  have hback := sameCourse_withText hfs hfile config (front ++ back) back
  have hrenders := renders_withText hfs hfile config hfree
  refine ⟨hjoins.outcomes_append config.rules, hjoins.sift_append config.rules, hrenders,
    fun hcan => ?_, hfront.success, hback.success, fun action => ?_, fun hsuccess => ?_⟩
  · exact (hrenders (front ++ back)).succeeds (hcan.of_sameShape (sameShape_withText_self hfile _))
  · exact hfront.get_add hback (hjoins.sift_get_append config.rules action)
  · refine ⟨_, _, (hrenders front).publishes (hfront.success.trans hsuccess),
      (hrenders back).publishes (hback.success.trans hsuccess), ?_⟩
    have hwhole := (hrenders (front ++ back)).publishes hsuccess
    rwa [← rewritten_eq_unlines, hjoins.rewritten_append, rewritten_eq_unlines,
      rewritten_eq_unlines] at hwhole

theorem processFile_append_lone_return :
    (withFile ['a'] [] 0o644).WellFormed ∧ Joins [byteOrderMark, 'x', '\r'] ['y', '\n', 'x'] ∧
      Publishes ⟨[⟨.delete, Regex.compile? ['y'], none⟩], .inPlace, .sequential, true⟩
        ((withFile ['a'] [] 0o644).withText [['a']] 0o644
          ([byteOrderMark, 'x', '\r'] ++ ['y', '\n', 'x'])) ⟨['a']⟩
        [byteOrderMark, 'x', '\r', 'x'] := by
  have hfs : (withFile ['a'] [] 0o644).WellFormed :=
    wellFormed_withFile _ ⟨by decide, by decide, by decide⟩ (by decide) (by decide) (by decide)
  have hjoins : Joins [byteOrderMark, 'x', '\r'] ['y', '\n', 'x'] := ⟨by decide, by decide⟩
  have hfirst : publishedLines [⟨.delete, Regex.compile? ['y'], none⟩] [byteOrderMark, 'x', '\r'] =
      [⟨['x'], .cr⟩] := by
    decide +kernel
  have hsecond : publishedLines [⟨.delete, Regex.compile? ['y'], none⟩] ['y', '\n', 'x'] =
      [⟨['x'], .missing⟩] := by
    decide +kernel
  obtain ⟨-, -, hrenders, hsucceeds, hfront, hback, -, happend⟩ :=
    @processFile_append ⟨[⟨.delete, Regex.compile? ['y'], none⟩], .inPlace, .sequential, true⟩
      _ ⟨['a']⟩ [['a']] [] 0o644 _ _ hfs (scratch_withFile ['a'] _ 0o644 0) (by decide) hjoins
  have hsuccess := hsucceeds ⟨rfl, by decide, ⟨['a']⟩, by decide⟩
  obtain ⟨first, second, hpublishes, hpublishes', hboth⟩ := happend hsuccess
  have hpublished := (hrenders _).publishes (hfront.trans hsuccess)
  have hpublished' := (hrenders _).publishes (hback.trans hsuccess)
  rw [hfirst] at hpublished
  rw [hsecond] at hpublished'
  rw [hpublishes.unique hpublished, hpublishes'.unique hpublished'] at hboth
  exact ⟨hfs, hjoins, hboth⟩

end Append

end LineSieve
