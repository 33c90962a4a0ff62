import LineSieve.Proofs.Path

/-!
# The order of paths

Components are ordered by their kind and names by their text, which is a linear order; so paths that
come before each other both ways have the same components.  Joining a name puts one component at the
end.
-/

namespace LineSieve

namespace Component

/-- The kind of a component, and its text if it is a name. -/
def key : Component → Nat × List Char
  | root => (0, [])
  | here => (1, [])
  | up => (2, [])
  | name text => (3, text)

theorem key_injective :
    Function.Injective key := by
  intro a b h
  cases a <;> cases b <;> simp_all [key]

theorem compare_eq_key
    (a b : Component) :
    compare a b = compareLex (compareOn Prod.fst) (compareOn Prod.snd) a.key b.key := by
  cases a with
  | name x =>
    cases b with
    | name y => exact Ordering.then_eq
    | _ => rfl
  | _ => cases b <;> rfl

instance : Std.TransOrd Component where
  eq_swap := by
    intro a b
    rw [compare_eq_key, compare_eq_key]
    exact Std.OrientedCmp.eq_swap
  isLE_trans := by
    intro a b c
    rw [compare_eq_key, compare_eq_key, compare_eq_key]
    exact Std.TransCmp.isLE_trans

instance : Std.LawfulEqOrd Component where
  compare_self := Std.ReflCmp.compare_self
  eq_of_compare := by
    intro a b h
    rw [compare_eq_key, compareLex, Ordering.then_eq_eq] at h
    exact key_injective (Prod.ext (Std.LawfulEqCmp.eq_of_compare h.1)
      (Std.LawfulEqCmp.eq_of_compare h.2))

end Component

namespace Path

theorem before_trans
    {a b c : Path}
    (hab : a.before b = true)
    (hbc : b.before c = true) :
    a.before c = true :=
  Std.TransCmp.isLE_trans hab hbc

theorem before_total
    (a b : Path) :
    (a.before b || b.before a) = true := by
  have hswap : compare b.components a.components = (compare a.components b.components).swap :=
    Std.OrientedCmp.eq_swap
  rw [before, before, hswap]
  cases compare a.components b.components <;> rfl

theorem components_eq_of_before
    {a b : Path}
    (hab : a.before b = true)
    (hba : b.before a = true) :
    a.components = b.components :=
  Std.LawfulEqCmp.eq_of_compare (Std.OrientedCmp.isLE_antisymm hab hba)

/-! ## Components and trails -/

theorem first_eq_nil_of_isAbsolute
    {path : Path}
    (h : path.isAbsolute = true) :
    (segmentsOf path.text).1 = [] := by
  obtain ⟨rest, hrest⟩ := List.head?_eq_some_iff.1 (by simpa [isAbsolute] using h :
    path.text.head? = some '/')
  rw [hrest, segmentsOf_cons_slash]

theorem filterMap_bodyComponent?
    (segments : List (List Char)) :
    segments.filterMap bodyComponent? = (segments.map stepOf).filter (· ≠ .here) := by
  induction segments with
  | nil => rfl
  | cons segment rest ih =>
    rw [List.filterMap_cons, List.map_cons, List.filter_cons, ih, bodyComponent?, stepOf]
    split_ifs <;> simp_all

/-- The components are the steps that go somewhere, and `.` at the very start. -/
theorem components_eq
    (path : Path) :
    path.components =
      (if (segmentsOf path.text).1 = ['.'] then [.here] else []) ++ path.trail := by
  have hsplit : path.components = (path.firstComponent? (segmentsOf path.text).1).toList ++
      (segmentsOf path.text).2.filterMap bodyComponent? := rfl
  rw [trail_eq, hsplit, filterMap_bodyComponent?, ← List.append_assoc, List.append_left_inj,
    firstComponent?, firstStep]
  by_cases habs : path.isAbsolute = true
  · simp [habs, first_eq_nil_of_isAbsolute habs]
  · by_cases hempty : (segmentsOf path.text).1 = []
    · simp [habs, hempty]
    by_cases hdot : (segmentsOf path.text).1 = ['.']
    · simp [habs, hdot, stepOf, isIdle]
    · rw [bodyComponent?, stepOf]
      split_ifs <;> simp_all [isIdle]

/-- Joining a name puts one component at the end. -/
theorem components_join_name
    (path : Path) {name : List Char}
    (hname : IsName name) :
    (path.join ⟨name⟩).components = path.components ++ [.name name] := by
  have hfirst : ((segmentsOf (path.join ⟨name⟩).text).1 = ['.']) =
      ((segmentsOf path.text).1 = ['.']) := by
    obtain ⟨gap, htext, hgap⟩ := join_name_text path hname
    rw [htext]
    rcases hgap with ⟨rfl, hempty | hslash⟩ | ⟨rfl, -, -⟩
    · have hdot : name ≠ ['.'] := by
        rintro rfl
        exact absurd hname.not_idle (by decide)
      rw [hempty, List.append_nil, List.nil_append, segmentsOf_of_not_mem hname.no_slash]
      simp [segmentsOf, hdot]
    · obtain ⟨front, hfront⟩ := List.getLast?_eq_some_iff.1 hslash
      rw [hfront, List.append_nil, List.append_assoc, List.singleton_append,
        segmentsOf_append_slash, segmentsOf_append_slash]
    · rw [List.append_assoc, List.singleton_append, segmentsOf_append_slash]
  rw [components_eq, components_eq, (trail_join_name path hname).1, List.append_assoc]
  simp only [hfirst]

end Path
end LineSieve
