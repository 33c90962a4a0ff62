import LineSieve.Path
import Mathlib.Tactic

/-!
# The trail of a path

What a path leads to depends on its steps, and of those on the ones that go somewhere: a step that
stays where it is only asks for a directory.  `Path.trail` is the list of the other steps.  Joining
a name to a path puts one step at the end of its trail, and taking the parent of a path that ends in
a name takes that step off.
-/

namespace LineSieve
namespace Path

/-! ## Segments -/

theorem segmentsOf_cons_slash
    (rest : List Char) :
    segmentsOf ('/' :: rest) = ([], (segmentsOf rest).1 :: (segmentsOf rest).2) := by
  simp [segmentsOf]

theorem segmentsOf_cons
    {c : Char}
    (hc : c ≠ '/')
    (rest : List Char) :
    segmentsOf (c :: rest) = (c :: (segmentsOf rest).1, (segmentsOf rest).2) := by
  simp [segmentsOf, hc]

theorem segmentsOf_of_not_mem
    {text : List Char}
    (h : '/' ∉ text) :
    segmentsOf text = (text, []) := by
  induction text with
  | nil => rfl
  | cons c rest ih =>
    have hc : c ≠ '/' := fun he => h (by simp [he])
    have hrest : '/' ∉ rest := fun hm => h (by simp [hm])
    rw [segmentsOf_cons hc, ih hrest]

/-- A slash ends a segment of the text before it. -/
theorem segmentsOf_append_slash
    (front back : List Char) :
    segmentsOf (front ++ '/' :: back) =
      ((segmentsOf front).1,
        (segmentsOf front).2 ++ (segmentsOf back).1 :: (segmentsOf back).2) := by
  induction front with
  | nil => exact segmentsOf_cons_slash back
  | cons c front ih =>
    by_cases hc : c = '/'
    · subst hc
      rw [List.cons_append, segmentsOf_cons_slash, segmentsOf_cons_slash, ih, List.cons_append]
    · rw [List.cons_append, segmentsOf_cons hc, segmentsOf_cons hc, ih]

theorem slash_not_mem_segmentsOf
    (text : List Char) :
    '/' ∉ (segmentsOf text).1 ∧ ∀ segment ∈ (segmentsOf text).2, '/' ∉ segment := by
  induction text with
  | nil => simp [segmentsOf]
  | cons c rest ih =>
    by_cases hc : c = '/'
    · subst hc
      rw [segmentsOf_cons_slash]
      refine ⟨by simp, ?_⟩
      intro segment hmem
      rcases List.mem_cons.1 hmem with rfl | hmem
      · exact ih.1
      · exact ih.2 segment hmem
    · rw [segmentsOf_cons hc]
      refine ⟨?_, ih.2⟩
      rw [List.mem_cons, not_or]
      exact ⟨fun he => hc he.symm, ih.1⟩

/-- Segments without slashes are found again in the text that they make up. -/
theorem segmentsOf_ofSegments
    {first : List Char} {others : List (List Char)}
    (hfirst : '/' ∉ first)
    (hothers : ∀ segment ∈ others, '/' ∉ segment) :
    segmentsOf (ofSegments first others) = (first, others) := by
  induction others using List.reverseRecOn with
  | nil => simpa [ofSegments] using segmentsOf_of_not_mem hfirst
  | append_singleton init last ih =>
    have hinit := ih fun segment hmem => hothers segment (List.mem_append_left _ hmem)
    have hlast : '/' ∉ last := hothers last (by simp)
    rw [show ofSegments first (init ++ [last]) = ofSegments first init ++ '/' :: last by
      simp [ofSegments]]
    rw [segmentsOf_append_slash, hinit, segmentsOf_of_not_mem hlast]

/-! ## Steps and trails -/

/-- The steps of a path that go somewhere. -/
def trail (path : Path) : List Component := path.steps.filter (· ≠ .here)

/-- The step at which a path begins. -/
def firstStep (path : Path) : Component :=
  if path.isAbsolute then .root else stepOf (segmentsOf path.text).1

theorem steps_eq
    (path : Path) :
    path.steps = path.firstStep :: (segmentsOf path.text).2.map stepOf := rfl

theorem eq_of_text_eq
    {a b : Path}
    (h : a.text = b.text) :
    a = b := by
  cases a
  cases b
  simpa using h

@[simp] theorem stepOf_nil : stepOf [] = .here := rfl

/-- A text that can be the name of an entry. -/
structure IsName (name : List Char) : Prop where
  not_idle : isIdle name = false
  not_up : name ≠ ['.', '.']
  no_slash : '/' ∉ name

theorem IsName.stepOf_eq
    {name : List Char}
    (h : IsName name) :
    stepOf name = .name name := by
  rw [stepOf, h.not_idle, if_neg h.not_up]
  rfl

theorem IsName.ne_nil
    {name : List Char}
    (h : IsName name) :
    name ≠ [] := by
  rintro rfl
  exact absurd h.not_idle (by decide)

/-- A step is a name only if the segment is that name. -/
theorem eq_of_stepOf_eq_name
    {segment name : List Char}
    (h : stepOf segment = .name name) :
    segment = name ∧ isIdle name = false ∧ name ≠ ['.', '.'] := by
  unfold stepOf at h
  split_ifs at h with hidle hup
  cases h
  exact ⟨rfl, by simpa using hidle, hup⟩

theorem subset_of_segmentsOf
    (text : List Char) :
    (segmentsOf text).1 ⊆ text ∧ ∀ segment ∈ (segmentsOf text).2, segment ⊆ text := by
  have htext := ofSegments_segmentsOf text
  constructor
  · intro c hc
    rw [← htext]
    exact List.mem_append_left _ hc
  · intro segment hmem c hc
    rw [← htext]
    exact List.mem_append_right _ (List.mem_flatMap.2 ⟨segment, hmem, List.mem_cons_of_mem _ hc⟩)

/-- A step that is a name comes from a segment of the text. -/
theorem isName_of_mem_steps
    {path : Path} {name : List Char}
    (h : .name name ∈ path.steps) :
    IsName name ∧ name ⊆ path.text := by
  have hslash := slash_not_mem_segmentsOf path.text
  have hsubset := subset_of_segmentsOf path.text
  rw [steps_eq, List.mem_cons] at h
  rcases h with hfirst | hothers
  · rw [firstStep] at hfirst
    split_ifs at hfirst
    obtain ⟨hname, hidle, hup⟩ := eq_of_stepOf_eq_name hfirst.symm
    rw [hname] at hslash hsubset
    exact ⟨⟨hidle, hup, hslash.1⟩, hsubset.1⟩
  · obtain ⟨segment, hmem, hstep⟩ := List.mem_map.1 hothers
    obtain ⟨rfl, hidle, hup⟩ := eq_of_stepOf_eq_name hstep
    exact ⟨⟨hidle, hup, hslash.2 segment hmem⟩, hsubset.2 segment hmem⟩

theorem isAbsolute_append
    {front : List Char}
    (hne : front ≠ [])
    (back : List Char) :
    isAbsolute ⟨front ++ back⟩ = isAbsolute ⟨front⟩ := by
  cases front with
  | nil => exact absurd rfl hne
  | cons c front => rfl

theorem isAbsolute_of_not_mem
    {name : List Char}
    (h : '/' ∉ name) :
    isAbsolute ⟨name⟩ = false := by
  cases name with
  | nil => rfl
  | cons c rest =>
    have hc : c ≠ '/' := fun he => h (by simp [he])
    simpa [isAbsolute] using hc

/-- A path that is not absolute and goes on behind a slash begins with a segment. -/
theorem first_ne_nil
    {path : Path}
    (habs : path.isAbsolute = false)
    (hothers : (segmentsOf path.text).2 ≠ []) :
    (segmentsOf path.text).1 ≠ [] := by
  cases path with
  | mk text =>
    cases text with
    | nil => exact absurd rfl hothers
    | cons c rest =>
      have hc : c ≠ '/' := by simpa [isAbsolute] using habs
      simp [segmentsOf_cons hc]

/-- The text of a path with a name joined to it goes on behind the text of the path. -/
theorem join_name_text
    (path : Path) {name : List Char}
    (hname : IsName name) :
    ∃ gap, (path.join ⟨name⟩).text = path.text ++ gap ++ name ∧
      (gap = [] ∧ (path.text = [] ∨ path.text.getLast? = some '/') ∨
        gap = ['/'] ∧ path.text ≠ [] ∧ path.text.getLast? ≠ some '/') := by
  unfold join
  rw [isAbsolute_of_not_mem hname.no_slash]
  simp only [Bool.false_eq_true, if_false]
  split_ifs with h
  · refine ⟨[], by simp, Or.inl ⟨rfl, ?_⟩⟩
    simpa using h
  · refine ⟨['/'], by simp, Or.inr ⟨rfl, ?_⟩⟩
    simpa using h

/-- A text that has something in it, and no slash at either end. -/
structure IsInner (text : List Char) : Prop where
  ne_nil : text ≠ []
  isAbsolute : isAbsolute ⟨text⟩ = false
  last : text.getLast? ≠ some '/'

theorem IsName.isInner
    {name : List Char}
    (h : IsName name) :
    IsInner name :=
  ⟨h.ne_nil, isAbsolute_of_not_mem h.no_slash, fun hslash => h.no_slash (List.mem_of_getLast? hslash)⟩

/-- Behind an inner text there is no slash at the end. -/
theorem getLast?_append_ne_slash
    (front : List Char) {back : List Char}
    (hback : IsInner back) :
    (front ++ back).getLast? ≠ some '/' := by
  rw [List.getLast?_append]
  cases hend : back.getLast? with
  | none => exact absurd (List.getLast?_eq_none_iff.1 hend) hback.ne_nil
  | some c =>
    have hlast := hback.last
    rw [hend] at hlast
    exact hlast

theorem IsInner.append
    {front back : List Char}
    (hfront : IsInner front)
    (hback : IsInner back) :
    IsInner (front ++ '/' :: back) := by
  refine ⟨by simp, ?_, ?_⟩
  · rw [isAbsolute_append hfront.ne_nil]
    exact hfront.isAbsolute
  · simpa using getLast?_append_ne_slash (front ++ ['/']) hback

/-- Joining a path that ends in a name is joining the rest of it and then the name. -/
theorem join_append_name
    (path : Path) {front name : List Char}
    (hfront : IsInner front)
    (hname : IsName name) :
    path.join ⟨front ++ '/' :: name⟩ = (path.join ⟨front⟩).join ⟨name⟩ := by
  have hlast : ((path.text ++ '/' :: front).getLast? == some '/') = false := by
    have hne := getLast?_append_ne_slash (path.text ++ ['/']) hfront
    simpa using hne
  have hlast' : ((path.text ++ front).getLast? == some '/') = false := by
    simpa using getLast?_append_ne_slash path.text hfront
  unfold join
  rw [(hfront.append hname.isInner).isAbsolute, hfront.isAbsolute, hname.isInner.isAbsolute]
  simp only [Bool.false_eq_true, if_false]
  split_ifs with h <;> simp_all [hfront.ne_nil]

theorem trail_eq
    (path : Path) :
    path.trail =
      [path.firstStep].filter (· ≠ .here) ++
        ((segmentsOf path.text).2.map stepOf).filter (· ≠ .here) := by
  rw [trail, steps_eq, ← List.filter_append]
  rfl

@[simp] theorem trail_empty : trail ⟨[]⟩ = [] := rfl

@[simp] theorem trail_root : trail ⟨['/']⟩ = [.root] := rfl

/-- The first step depends on the beginning of the text only. -/
theorem firstStep_eq
    {a b : Path}
    (habs : a.isAbsolute = b.isAbsolute)
    (hfirst : (segmentsOf a.text).1 = (segmentsOf b.text).1) :
    a.firstStep = b.firstStep := by
  rw [firstStep, firstStep, habs, hfirst]

/-- Joining a name puts one step at the end. -/
theorem trail_join_name
    (path : Path) {name : List Char}
    (hname : IsName name) :
    (path.join ⟨name⟩).trail = path.trail ++ [.name name] ∧
      (path.join ⟨name⟩).steps.getLast? = some (.name name) := by
  obtain ⟨gap, htext, hgap⟩ := join_name_text path hname
  have hsegments := segmentsOf_of_not_mem hname.no_slash
  have hstep := hname.stepOf_eq
  rcases path with ⟨text⟩
  simp only at htext hgap
  rcases hgap with ⟨rfl, rfl | hslash⟩ | ⟨rfl, hne, -⟩
  · have hjoin : join ⟨[]⟩ ⟨name⟩ = ⟨name⟩ := eq_of_text_eq (by simpa using htext)
    rw [hjoin, trail, trail, steps_eq, firstStep, isAbsolute_of_not_mem hname.no_slash, hsegments]
    simp [hstep, steps_eq, firstStep, isAbsolute, segmentsOf]
  · obtain ⟨front, rfl⟩ := List.getLast?_eq_some_iff.1 hslash
    have htext' : (join ⟨front ++ ['/']⟩ ⟨name⟩).text = front ++ '/' :: name := by
      simpa using htext
    have hfirst : firstStep (join ⟨front ++ ['/']⟩ ⟨name⟩) = firstStep ⟨front ++ ['/']⟩ := by
      apply firstStep_eq
      · rw [← isAbsolute_append (by simp : front ++ ['/'] ≠ []) name]
        simp [isAbsolute, htext']
      · rw [htext', segmentsOf_append_slash, segmentsOf_append_slash]
    constructor
    · rw [trail_eq, trail_eq, hfirst, htext', segmentsOf_append_slash, segmentsOf_append_slash,
        hsegments]
      simp [segmentsOf, hstep]
    · rw [steps_eq, htext', segmentsOf_append_slash, hsegments, List.map_append,
        List.map_singleton, hstep, ← List.cons_append, List.getLast?_concat]
  · have htext' : (join ⟨text⟩ ⟨name⟩).text = text ++ '/' :: name := by
      simpa using htext
    have hfirst : firstStep (join ⟨text⟩ ⟨name⟩) = firstStep ⟨text⟩ := by
      apply firstStep_eq
      · rw [← isAbsolute_append hne ('/' :: name)]
        simp [isAbsolute, htext']
      · rw [htext', segmentsOf_append_slash]
    constructor
    · rw [trail_eq, trail_eq, hfirst, htext', segmentsOf_append_slash, hsegments]
      simp [hstep]
    · rw [steps_eq, htext', segmentsOf_append_slash, hsegments, List.map_append,
        List.map_singleton, hstep, ← List.cons_append, List.getLast?_concat]

/-! ## Parents -/

theorem ofSegments_eq_nil_iff
    {first : List Char} {others : List (List Char)} :
    ofSegments first others = [] ↔ first = [] ∧ others = [] := by
  cases others <;> simp [ofSegments]


theorem trimEnd_append_of_not_idle
    {segment : List Char}
    (h : isIdle segment = false)
    (init : List (List Char)) :
    trimEnd (init ++ [segment]) = init ++ [segment] := by
  simp [trimEnd, h]

/-- What is trimmed off the end of segments is idle. -/
theorem exists_idle_of_trimEnd
    (segments : List (List Char)) :
    ∃ idle, segments = trimEnd segments ++ idle ∧ ∀ segment ∈ idle, isIdle segment = true := by
  refine ⟨(segments.reverse.takeWhile isIdle).reverse, ?_, ?_⟩
  · rw [trimEnd, ← List.reverse_append, List.takeWhile_append_dropWhile, List.reverse_reverse]
  · intro segment hmem
    exact List.all_eq_true.1 List.all_takeWhile _ (List.mem_reverse.1 hmem)

theorem filter_stepOf_idle
    {segments : List (List Char)}
    (h : ∀ segment ∈ segments, isIdle segment = true) :
    (segments.map stepOf).filter (· ≠ .here) = [] := by
  rw [List.filter_eq_nil_iff]
  intro step hmem
  obtain ⟨segment, hsegment, rfl⟩ := List.mem_map.1 hmem
  simp [stepOf, h segment hsegment]

theorem filter_stepOf_trimEnd
    (segments : List (List Char)) :
    ((trimEnd segments).map stepOf).filter (· ≠ .here) =
      (segments.map stepOf).filter (· ≠ .here) := by
  obtain ⟨idle, heq, hidle⟩ := exists_idle_of_trimEnd segments
  conv_rhs => rw [heq]
  rw [List.map_append, List.filter_append, filter_stepOf_idle hidle, List.append_nil]

/-- A path that ends in a name has a parent: a beginning of its text, and its trail without the last
step. -/
theorem exists_parent
    {path : Path} {name : List Char}
    (h : path.steps.getLast? = some (.name name)) :
    ∃ parent : Path, path.parent? = some parent ∧ path.trail = parent.trail ++ [.name name] ∧
      parent.text <+: path.text ∧ parent.text.length < path.text.length := by
  have hslash := slash_not_mem_segmentsOf path.text
  have htext := ofSegments_segmentsOf path.text
  have hfirst := @first_ne_nil path
  rw [steps_eq] at h
  rw [trail_eq, parent?]
  unfold firstStep at h ⊢
  generalize segmentsOf path.text = segments at h hslash htext hfirst ⊢
  rcases segments with ⟨first, others⟩
  rcases List.eq_nil_or_concat others with rfl | ⟨init, last, rfl⟩
  · -- the path is a single segment, and its parent is the empty path
    simp only [List.map_nil, List.getLast?_singleton, Option.some.injEq] at h
    split_ifs at h with habs
    obtain ⟨rfl, hidle, -⟩ := eq_of_stepOf_eq_name h
    have hne : first ≠ [] := by
      rintro rfl
      cases hidle
    refine ⟨⟨[]⟩, by simp [trimEnd, hne], ?_, List.nil_prefix, ?_⟩
    · simp [habs, h]
    · rw [← htext]
      simpa [ofSegments, List.length_pos_iff] using hne
  · simp only [List.concat_eq_append] at h hslash htext hfirst ⊢
    rw [List.map_append, List.map_singleton, ← List.cons_append, List.getLast?_concat,
      Option.some.injEq] at h
    obtain ⟨rfl, hidle, -⟩ := eq_of_stepOf_eq_name h
    obtain ⟨idle, hinit, -⟩ := exists_idle_of_trimEnd init
    have hfilter := filter_stepOf_trimEnd init
    rw [trimEnd_append_of_not_idle hidle, if_neg (by simp), List.dropLast_concat, List.map_append,
      List.filter_append, ← hfilter]
    generalize trimEnd init = kept at hinit hfilter
    subst hinit
    have hne : last ≠ [] := by
      rintro rfl
      cases hidle
    have hsplit : path.text = ofSegments first kept ++ (idle ++ [last]).flatMap ('/' :: ·) := by
      rw [← htext]
      simp [ofSegments]
    have hshort : (ofSegments first kept).length + 2 ≤ path.text.length := by
      have hlast := List.length_pos_iff.2 hne
      rw [hsplit, List.flatMap_append]
      simp only [List.length_append, List.flatMap_singleton, List.length_cons]
      omega
    by_cases hroot : path.isAbsolute = true ∧ kept = []
    · -- the parent is the root
      obtain ⟨habs, rfl⟩ := hroot
      have hhead : path.text.head? = some '/' := by simpa [isAbsolute] using habs
      obtain ⟨tail, htail⟩ := List.head?_eq_some_iff.1 hhead
      refine ⟨⟨['/']⟩, by simp [habs], by simp [habs, h], ⟨tail, by simp [htail]⟩, ?_⟩
      simp only [List.length_singleton]
      omega
    · have hkept : ofSegments first kept ≠ [] := by
        intro hempty
        obtain ⟨hnil, hkept⟩ := ofSegments_eq_nil_iff.1 hempty
        have habs : path.isAbsolute = false := by simpa [hkept] using hroot
        exact hfirst habs (by simp) hnil
      have habs : isAbsolute ⟨ofSegments first kept⟩ = path.isAbsolute := by
        rw [show path.isAbsolute = isAbsolute ⟨path.text⟩ from rfl, hsplit, isAbsolute_append hkept]
      have hsegments : segmentsOf (ofSegments first kept) = (first, kept) :=
        segmentsOf_ofSegments hslash.1 fun segment hmem => hslash.2 segment (by simp [hmem])
      refine ⟨⟨ofSegments first kept⟩, ?_, ?_, ⟨_, hsplit.symm⟩, by simp only; omega⟩
      · rw [if_neg (by simpa using hroot)]
      · rw [trail_eq, firstStep, habs, hsegments, List.append_assoc, List.map_singleton, h]
        rfl

/-- The name that is joined to a path is a segment of its own, behind those of the path. -/
theorem exists_segmentsOf_join_name
    {path : Path} {name : List Char}
    (hname : IsName name)
    (hne : path.text ≠ []) :
    ∃ first others, segmentsOf (path.join ⟨name⟩).text = (first, others ++ [name]) ∧
      ∀ last, path.steps.getLast? = some (.name last) →
        segmentsOf path.text = (first, others) := by
  obtain ⟨gap, htext, hgap⟩ := join_name_text path hname
  have hlone := segmentsOf_of_not_mem hname.no_slash
  rcases hgap with ⟨rfl, hempty | hslash⟩ | ⟨rfl, -, -⟩
  · exact absurd hempty hne
  · obtain ⟨front, hfront⟩ := List.getLast?_eq_some_iff.1 hslash
    refine ⟨(segmentsOf front).1, (segmentsOf front).2, ?_, ?_⟩
    · rw [htext, hfront, List.append_nil, List.append_assoc, List.singleton_append,
        segmentsOf_append_slash, hlone]
    · intro last hlast
      rw [steps_eq, hfront, segmentsOf_append_slash, List.map_append, ← List.cons_append,
        List.getLast?_append] at hlast
      simp [segmentsOf] at hlast
  · refine ⟨(segmentsOf path.text).1, (segmentsOf path.text).2, ?_, fun _ _ => rfl⟩
    rw [htext, List.append_assoc, List.singleton_append, segmentsOf_append_slash, hlone]

/-- Segments that end in a name are not idle at the end. -/
theorem trimEnd_of_getLast?
    {step : Component} {segments : List (List Char)} {last : List Char}
    (h : (step :: segments.map stepOf).getLast? = some (.name last)) :
    trimEnd segments = segments := by
  rcases List.eq_nil_or_concat segments with rfl | ⟨init, segment, rfl⟩
  · rfl
  · rw [List.concat_eq_append, List.map_append, List.map_singleton, ← List.cons_append,
      List.getLast?_concat, Option.some.injEq] at h
    obtain ⟨rfl, hidle, -⟩ := eq_of_stepOf_eq_name h
    rw [List.concat_eq_append, trimEnd_append_of_not_idle hidle]

/-- The parent of a path with a name joined to it is the path itself, up to idle segments at its
end. -/
theorem exists_parent?_join_name
    {path : Path} {name : List Char}
    (hname : IsName name)
    (hne : path.text ≠ []) :
    ∃ parent : Path, (path.join ⟨name⟩).parent? = some parent ∧ parent.text ≠ [] ∧
      ∀ last, path.steps.getLast? = some (.name last) → parent = path := by
  obtain ⟨first, others, hsegments, hpath⟩ := exists_segmentsOf_join_name hname hne
  have htrim : ∀ last, path.steps.getLast? = some (.name last) → trimEnd others = others := by
    intro last hlast
    rw [steps_eq, hpath last hlast] at hlast
    exact trimEnd_of_getLast? hlast
  have hothers : others ++ [name] ≠ [] := by simp
  have hnofirst := @first_ne_nil (path.join ⟨name⟩)
  rw [hsegments] at hnofirst
  rw [parent?, hsegments]
  simp only [trimEnd_append_of_not_idle hname.not_idle, if_neg hothers, List.dropLast_concat]
  split_ifs with hroot
  · -- a path with a name at its end is not the root
    refine ⟨_, rfl, by simp, fun last hlast => ?_⟩
    obtain ⟨habs, hkept⟩ : (path.join ⟨name⟩).isAbsolute = true ∧ trimEnd others = [] := by
      simpa using hroot
    have hsame := hpath last hlast
    rw [htrim last hlast] at hkept
    have habs' : path.isAbsolute = true := by
      obtain ⟨gap, htext, -⟩ := join_name_text path hname
      rw [← habs, show (path.join ⟨name⟩).isAbsolute = isAbsolute ⟨(path.join ⟨name⟩).text⟩ from rfl,
        htext, List.append_assoc, isAbsolute_append hne]
    obtain ⟨rest, hrest⟩ := List.head?_eq_some_iff.1 (by simpa [isAbsolute] using habs' :
      path.text.head? = some '/')
    rw [hrest, segmentsOf_cons_slash, hkept] at hsame
    simp at hsame
  · refine ⟨_, rfl, ?_, fun last hlast => ?_⟩
    · intro hempty
      obtain ⟨hfirst, hkept⟩ := ofSegments_eq_nil_iff.1 hempty
      have habs : (path.join ⟨name⟩).isAbsolute = false := by simpa [hkept] using hroot
      exact hnofirst habs hothers hfirst
    · apply eq_of_text_eq
      have hback := ofSegments_segmentsOf path.text
      rw [hpath last hlast] at hback
      simpa [htrim last hlast] using hback

/-- The parent of a path with a name joined to it is a beginning of the path. -/
theorem isPrefix_of_parent?_join_name
    {path parent : Path} {name : List Char}
    (hname : IsName name)
    (hne : path.text ≠ [])
    (h : (path.join ⟨name⟩).parent? = some parent) :
    parent.text <+: path.text := by
  obtain ⟨front, hfront, htext⟩ : ∃ front : List Char, front <+: path.text ∧
      (path.join ⟨name⟩).text = front ++ '/' :: name := by
    obtain ⟨gap, htext, ⟨rfl, hempty | hslash⟩ | ⟨rfl, -, -⟩⟩ := join_name_text path hname
    · exact absurd hempty hne
    · obtain ⟨front, hfront⟩ := List.getLast?_eq_some_iff.1 hslash
      exact ⟨front, ⟨['/'], hfront.symm⟩, by rw [htext, hfront]; simp⟩
    · exact ⟨path.text, List.prefix_rfl, by rw [htext]; simp⟩
  have habs : (path.join ⟨name⟩).isAbsolute = path.isAbsolute := by
    obtain ⟨gap, hjoin, -⟩ := join_name_text path hname
    rw [show (path.join ⟨name⟩).isAbsolute = isAbsolute ⟨(path.join ⟨name⟩).text⟩ from rfl, hjoin,
      List.append_assoc, isAbsolute_append hne]
  have hothers : (segmentsOf front).2 ++ [name] ≠ [] := by simp
  rw [parent?, htext, segmentsOf_append_slash, segmentsOf_of_not_mem hname.no_slash, habs] at h
  simp only [trimEnd_append_of_not_idle hname.not_idle, if_neg hothers, List.dropLast_concat] at h
  split_ifs at h with hroot
  · -- the parent is the root, and so the path begins there
    cases h
    rw [Bool.and_eq_true] at hroot
    obtain ⟨rest, hrest⟩ := List.head?_eq_some_iff.1 (by simpa [isAbsolute] using hroot.1 :
      path.text.head? = some '/')
    exact ⟨rest, by rw [hrest]; rfl⟩
  · cases h
    obtain ⟨idle, hidle, -⟩ := exists_idle_of_trimEnd (segmentsOf front).2
    refine List.IsPrefix.trans ⟨idle.flatMap ('/' :: ·), ?_⟩ hfront
    conv_rhs => rw [← ofSegments_segmentsOf front, hidle]
    simp [ofSegments]

/-- A path that goes somewhere in the end ends with the last step of its trail. -/
def Trimmed (path : Path) : Prop :=
  ∀ name, path.trail.getLast? = some (.name name) → path.steps.getLast? = some (.name name)

theorem trimmed_of_ne_here
    {path : Path} {step : Component}
    (h : path.steps.getLast? = some step)
    (hne : step ≠ .here) :
    Trimmed path := by
  obtain ⟨init, hinit⟩ := List.getLast?_eq_some_iff.1 h
  intro name hname
  rw [trail, hinit, List.filter_append, List.filter_cons_of_pos (by simpa using hne),
    List.filter_nil, List.getLast?_concat] at hname
  rw [h, hname]

theorem trimmed_of_trail_eq_nil
    {path : Path}
    (h : path.trail = []) :
    Trimmed path := by
  intro name hname
  rw [h] at hname
  cases hname

theorem getLast?_trimEnd_ne_idle
    {segments : List (List Char)} {last : List Char}
    (h : (trimEnd segments).getLast? = some last) :
    isIdle last = false := by
  rw [trimEnd, List.getLast?_reverse] at h
  have hhead := List.head?_dropWhile_not isIdle segments.reverse
  rw [h] at hhead
  simpa using hhead

/-- A parent is trimmed. -/
theorem trimmed_parent
    {path parent : Path}
    (h : path.parent? = some parent) :
    Trimmed parent := by
  have hslash := slash_not_mem_segmentsOf path.text
  rw [parent?] at h
  generalize segmentsOf path.text = segments at h hslash
  rcases segments with ⟨first, others⟩
  simp only at h hslash
  split_ifs at h with hothers hfirst hroot
  · cases h
    exact trimmed_of_trail_eq_nil rfl
  · cases h
    intro name hname
    rw [trail_root] at hname
    cases hname
  · cases h
    obtain ⟨idle, heq, -⟩ := exists_idle_of_trimEnd (trimEnd others).dropLast
    obtain ⟨idle', heq', -⟩ := exists_idle_of_trimEnd others
    have hkept : ∀ segment ∈ trimEnd (trimEnd others).dropLast, '/' ∉ segment := by
      intro segment hmem
      apply hslash.2
      rw [heq']
      exact List.mem_append_left _ (List.mem_of_mem_dropLast (heq ▸ List.mem_append_left _ hmem))
    have hlast := @getLast?_trimEnd_ne_idle (trimEnd others).dropLast
    generalize trimEnd (trimEnd others).dropLast = kept at hkept hlast
    have hsegments := segmentsOf_ofSegments hslash.1 hkept
    rcases List.eq_nil_or_concat kept with rfl | ⟨init, last, rfl⟩
    · -- a single segment
      by_cases hhere : firstStep ⟨ofSegments first []⟩ = .here
      · apply trimmed_of_trail_eq_nil
        rw [trail_eq, hsegments, hhere]
        rfl
      · exact trimmed_of_ne_here (by rw [steps_eq, hsegments]; rfl) hhere
    · rw [List.concat_eq_append] at hlast hsegments ⊢
      have hidle := hlast List.getLast?_concat
      refine @trimmed_of_ne_here _ (stepOf last) ?_ ?_
      · rw [steps_eq, hsegments, List.map_append, List.map_singleton, ← List.cons_append,
          List.getLast?_concat]
      · rw [stepOf, hidle, if_neg (by simp)]
        split_ifs <;> simp

end Path
end LineSieve
