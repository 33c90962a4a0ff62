import LineSieve.Proofs.Language
import LineSieve.Regex.Basic
import Mathlib.Data.List.SplitBy

/-!
# The numbers of groups

A pattern is built by constructors that rearrange it: they take repetitions of the empty text away, put
what alternatives begin with in front of the choice, and make sets out of characters.  None of them makes
a group that has not been there before.  While an expression is read, every open group that captures has
a number above zero, which the counter of groups gives it.  So each group of a pattern that has been read
has one too (`numbered_of_parse?`), and the marks of a group cannot be taken for those of a whole match.
-/

namespace LineSieve
namespace Regex

/-! ## Constructors -/

namespace Pattern

theorem flatMap_groups_parts
    (p : Pattern) :
    p.parts.flatMap groups = p.groups := by
  induction p with
  | empty => rfl
  | seq first second ih ih' => rw [parts, List.flatMap_append, ih, ih', groups]
  | _ => simp [parts]

theorem flatMap_groups_branches
    (p : Pattern) :
    p.branches.flatMap groups = p.groups := by
  induction p with
  | either preferred other ih ih' => rw [branches, List.flatMap_append, ih, ih', groups]
  | _ => simp [branches]

theorem flatMap_groups_flatMap_branches
    (patterns : List Pattern) :
    (patterns.flatMap branches).flatMap groups = patterns.flatMap groups := by
  rw [List.flatMap_assoc]
  exact List.flatMap_congr fun p _ => p.flatMap_groups_branches

theorem groups_chain
    (patterns : List Pattern) :
    (chain patterns).groups = patterns.flatMap groups := by
  fun_induction chain patterns with
  | case1 => rfl
  | case2 p => simp
  | case3 p rest _ ih => rw [groups, ih, List.flatMap_cons]

theorem groups_choice
    (patterns : List Pattern) :
    (choice patterns).groups = patterns.flatMap groups := by
  fun_induction choice patterns with
  | case1 => rfl
  | case2 p => simp
  | case3 p rest _ ih => rw [groups, ih, List.flatMap_cons]

theorem groups_sequence
    (patterns : List Pattern) :
    (sequence patterns).groups = patterns.flatMap groups := by
  rw [sequence, groups_chain, List.flatMap_assoc]
  exact List.flatMap_congr fun p _ => p.flatMap_groups_parts

theorem groups_choose_subset
    (patterns : List Pattern) :
    (choose patterns).groups ⊆ patterns.flatMap groups := by
  rw [← flatMap_groups_flatMap_branches, choose]
  split
  · exact List.nil_subset _
  next p heq => simp [heq]
  · split
    · exact List.nil_subset _
    · rw [groups_choice]
      exact List.Subset.refl _

theorem groups_repeated'_subset
    (body : Pattern) (min : Nat) (max : Option Nat) (greedy : Bool) :
    (repeated' body min max greedy).groups ⊆ body.groups := by
  simp only [repeated']
  generalize (if body.alwaysEmpty then _ else min) = min
  generalize (if body.alwaysEmpty then _ else max) = max
  split_ifs
  · exact List.nil_subset _
  · exact List.Subset.refl _
  · exact List.Subset.refl _

/-! ### What alternatives begin with -/

theorem flatten_words
    (p : Pattern) :
    p.words.flatten = p.parts :=
  List.flatten_splitBy _ _

theorem flatMap_groups_words_subset
    {p : Pattern} {words : List (List Pattern)}
    (h : words ⊆ p.words) :
    words.flatten.flatMap groups ⊆ p.groups := by
  intro group hmem
  obtain ⟨part, hpart, hgroup⟩ := List.mem_flatMap.1 hmem
  obtain ⟨word, hword, hinside⟩ := List.mem_flatten.1 hpart
  have hparts : part ∈ p.parts := p.flatten_words ▸ List.mem_flatten_of_mem (h hword) hinside
  rw [← p.flatMap_groups_parts]
  exact List.mem_flatMap.2 ⟨part, hparts, hgroup⟩

theorem commonStart_subset
    {α : Type} [BEq α]
    (as bs : List α) :
    commonStart as bs ⊆ as := by
  fun_induction commonStart as bs with
  | case1 a as b bs hsame ih => exact List.cons_subset_cons a ih
  | case2 => exact List.nil_subset _
  | case3 => exact List.nil_subset _

theorem sharedWords_subset
    (first : Pattern) (others : List Pattern) :
    sharedWords (first :: others) ⊆ first.words := by
  have hfold : ∀ (others : List Pattern) (shared : List (List Pattern)),
      others.foldl (fun shared p => commonStart shared p.words) shared ⊆ shared := by
    intro others
    induction others with
    | nil => exact fun shared => List.Subset.refl shared
    | cons p others ih => exact fun shared => List.Subset.trans (ih _) (commonStart_subset shared p.words)
  rw [sharedWords]
  split_ifs
  · exact hfold others first.words
  · exact List.nil_subset _

theorem flatMap_groups_sharedWords_subset
    (patterns : List Pattern) :
    (sharedWords patterns).flatten.flatMap groups ⊆ patterns.flatMap groups := by
  cases patterns with
  | nil => exact List.nil_subset _
  | cons first others =>
    rw [List.flatMap_cons]
    exact List.Subset.trans (flatMap_groups_words_subset (sharedWords_subset first others))
      (List.subset_append_left _ _)

theorem groups_chain_drop_words_subset
    (p : Pattern) (count : Nat) :
    (chain (p.words.drop count).flatten).groups ⊆ p.groups := by
  rw [groups_chain]
  exact flatMap_groups_words_subset (List.drop_subset count p.words)

theorem groups_alternatives_subset
    (patterns : List Pattern) :
    (alternatives patterns).groups ⊆ patterns.flatMap groups := by
  have hbranches := flatMap_groups_flatMap_branches patterns
  rw [alternatives.eq_def]
  split
  · exact List.nil_subset _
  next p => simp
  · simp only
    split
    next word words _ hwords =>
      rw [groups_sequence, List.flatMap_append, List.flatMap_singleton, ← hwords]
      refine List.append_subset.2 ⟨hbranches ▸ flatMap_groups_sharedWords_subset _, ?_⟩
      refine List.Subset.trans (groups_choose_subset _) fun group hmem => ?_
      obtain ⟨rest, hrest, hgroup⟩ := List.mem_flatMap.1 hmem
      obtain ⟨p, hp, rfl⟩ := List.mem_map.1 hrest
      rw [← hbranches]
      exact List.mem_flatMap.2 ⟨p, hp, groups_chain_drop_words_subset p _ hgroup⟩
    · exact hbranches ▸ groups_choose_subset _

/-! ### Numbers -/

variable {p : Pattern} {patterns : List Pattern}

theorem Numbered.of_subset
    (hsubset : p.groups ⊆ patterns.flatMap groups)
    (h : ∀ q ∈ patterns, q.Numbered) :
    p.Numbered := by
  intro group hmem
  obtain ⟨q, hq, hgroup⟩ := List.mem_flatMap.1 (hsubset hmem)
  exact h q hq group hgroup

theorem numbered_of_groups_eq_nil
    (h : p.groups = []) :
    p.Numbered := by
  intro group hmem
  rw [h] at hmem
  cases hmem

end Pattern

/-! ## Open groups -/

/-- What stands in the group has numbered groups, and it will itself have a number if it captures. -/
structure OpenGroup.Numbered (g : OpenGroup) : Prop where
  kind : ∀ index name, g.kind = .capturing index name → 1 ≤ index
  branches : ∀ element ∈ g.branches, element.pattern.Numbered
  elements : ∀ element ∈ g.elements, element.pattern.Numbered

namespace OpenGroup

variable {g : OpenGroup} {element : Element}

theorem Numbered.add
    (h : g.Numbered)
    (helement : element.pattern.Numbered) :
    (g.add element).Numbered :=
  ⟨h.kind, h.branches, List.forall_mem_cons.2 ⟨helement, h.elements⟩⟩

theorem Numbered.finishBranch
    (h : g.Numbered) :
    g.finishBranch.Numbered := by
  have hbranch : (concatenate g.elements.reverse).pattern.Numbered := by
    have hgroups : (concatenate g.elements.reverse).pattern.groups ⊆
        (g.elements.reverse.map (·.pattern)).flatMap Pattern.groups := by
      rw [concatenate, Pattern.groups_sequence]
      exact List.Subset.refl _
    refine Pattern.Numbered.of_subset hgroups fun p hmem => ?_
    obtain ⟨element, helement, rfl⟩ := List.mem_map.1 hmem
    exact h.elements element (List.mem_reverse.1 helement)
  exact ⟨h.kind, List.forall_mem_cons.2 ⟨hbranch, h.branches⟩, by simp [OpenGroup.finishBranch]⟩

theorem Numbered.contents
    (h : g.Numbered) :
    g.contents.pattern.Numbered := by
  refine Pattern.Numbered.of_subset (Pattern.groups_alternatives_subset _) fun p hmem => ?_
  obtain ⟨element, helement, rfl⟩ := List.mem_map.1 hmem
  exact h.finishBranch.branches element (List.mem_reverse.1 helement)

theorem Numbered.close
    (h : g.Numbered) :
    g.close.pattern.Numbered := by
  simp only [OpenGroup.close]
  split
  next index name hkind => exact List.forall_mem_cons.2 ⟨h.kind index name hkind, h.contents⟩
  · exact h.contents

end OpenGroup

/-! ## Reading -/

/-- All groups that are open are numbered. -/
structure Reading.Numbered (r : Reading) : Prop where
  current : r.current.Numbered
  enclosing : ∀ g ∈ r.enclosing, g.Numbered

namespace Reading

variable {r later : Reading} {rest left : List Char}

theorem numbered_initial :
    initial.Numbered :=
  ⟨⟨by simp [initial], by simp [initial], by simp [initial]⟩, by simp [initial]⟩

theorem Numbered.add
    {element : Element}
    (h : r.Numbered)
    (helement : element.pattern.Numbered) :
    (r.add element).Numbered :=
  ⟨h.current.add helement, h.enclosing⟩

theorem Numbered.openGroup
    {kind : GroupKind}
    (h : r.Numbered)
    (hkind : ∀ index name, kind = .capturing index name → 1 ≤ index)
    (flags : Flags) :
    (r.openGroup kind flags).Numbered :=
  ⟨⟨hkind, by simp [Reading.openGroup], by simp [Reading.openGroup]⟩,
    List.forall_mem_cons.2 ⟨h.current, h.enclosing⟩⟩

theorem Numbered.closeGroup?
    (h : r.Numbered)
    (hlater : r.closeGroup? = some later) :
    later.Numbered := by
  unfold Reading.closeGroup? at hlater
  split at hlater
  · cases hlater
  next outer more hmore =>
    cases hlater
    have henclosing := h.enclosing
    rw [hmore, List.forall_mem_cons] at henclosing
    exact ⟨henclosing.1.add h.current.close, henclosing.2⟩

theorem Numbered.repeat?
    {min : Nat} {max : Option Nat} {greedy : Bool}
    (h : r.Numbered)
    (hlater : r.repeat? min max greedy = some later) :
    later.Numbered := by
  unfold Reading.repeat? at hlater
  split at hlater
  · cases hlater
  next operand before helements =>
    split_ifs at hlater
    cases hlater
    have hpatterns := h.current.elements
    rw [helements, List.forall_mem_cons] at hpatterns
    refine ⟨⟨h.current.kind, h.current.branches, List.forall_mem_cons.2 ⟨?_, hpatterns.2⟩⟩,
      h.enclosing⟩
    exact fun group hmem => hpatterns.1 group (Pattern.groups_repeated'_subset _ _ _ _ hmem)

/-- A group that captures gets the next number. -/
theorem Numbered.openCapturing
    (h : r.Numbered)
    (names : List (List Char)) (name : Option (List Char)) :
    ({ r with captures := r.captures + 1, names := names }.openGroup
      (.capturing (r.captures + 1) name) r.flags).Numbered := by
  have hcounted : ({ r with captures := r.captures + 1, names := names } : Reading).Numbered :=
    ⟨h.current, h.enclosing⟩
  refine hcounted.openGroup (fun index name' hkind => ?_) r.flags
  cases hkind
  exact Nat.le_add_left 1 _

/-- A name is new, and the group that it opens captures. -/
theorem Numbered.openNamed
    {text : List Char}
    (h : r.Numbered)
    (hlater : (do
      let (name, left) ← groupName? text
      if r.names.contains name then none
      else
        let index := r.captures + 1
        pure ({ r with captures := index, names := name :: r.names }.openGroup
          (.capturing index (some name)) r.flags, left)) = some (later, left)) :
    later.Numbered := by
  obtain ⟨⟨name, after⟩, -, hname⟩ := Option.bind_eq_some_iff.1 hlater
  simp only at hname
  split_ifs at hname
  cases hname
  exact h.openCapturing (name :: r.names) (some name)

theorem Numbered.opening?
    (h : r.Numbered)
    (hlater : Regex.opening? r rest = some (later, left)) :
    later.Numbered := by
  simp only [Regex.opening?] at hlater
  split at hlater
  · cases hlater
  · cases hlater
  · cases hlater
  · cases hlater
  · exact h.openNamed hlater
  · exact h.openNamed hlater
  · split at hlater
    · split_ifs at hlater
      cases hlater
      have hflags : ∀ flags, ({ r with flags := flags } : Reading).Numbered :=
        fun flags => ⟨h.current, h.enclosing⟩
      exact (hflags _).add (Pattern.numbered_of_groups_eq_nil rfl)
    · cases hlater
      exact h.openGroup (by simp) _
    · cases hlater
  · cases hlater
    exact h.openCapturing r.names none

theorem groups_of_literalPattern?
    {flags : Flags} {c : Char} {asByte : Bool} {p : Pattern}
    (h : literalPattern? flags c asByte = some p) :
    p.groups = [] := by
  unfold literalPattern? at h
  split_ifs at h <;> cases h <;> rfl

theorem groups_of_dotPattern?
    {flags : Flags} {p : Pattern}
    (h : dotPattern? flags = some p) :
    p.groups = [] := by
  unfold dotPattern? at h
  split_ifs at h <;> cases h <;> rfl

theorem groups_of_atomPattern?
    {flags : Flags} {atom : Atom} {p : Pattern}
    (h : atomPattern? flags atom = some p) :
    p.groups = [] := by
  cases atom with
  | literal c asByte => exact groups_of_literalPattern? h
  | set chars | assertion condition =>
    cases h
    rfl

theorem Numbered.construct?
    {c : Char}
    (h : r.Numbered)
    (hlater : Regex.construct? r c rest = some (later, left)) :
    later.Numbered := by
  have hplain : ∀ {p : Pattern}, p.groups = [] → (r.add (.plain p)).Numbered :=
    fun hgroups => h.add (Pattern.numbered_of_groups_eq_nil hgroups)
  have hrepeated : ∀ {min : Nat} {max : Option Nat} {greedy : Bool} {after : List Char},
      (r.repeat? min max greedy).map (·, after) = some (later, left) → later.Numbered := by
    intro min max greedy after hmap
    obtain ⟨repeated, hrepeat, heq⟩ := Option.map_eq_some_iff.1 hmap
    cases heq
    exact h.repeat? hrepeat
  unfold Regex.construct? at hlater
  split at hlater
  · exact h.opening? hlater
  · obtain ⟨closed, hclosed, heq⟩ := Option.map_eq_some_iff.1 hlater
    cases heq
    exact h.closeGroup? hclosed
  · cases hlater
    exact ⟨h.current.finishBranch, h.enclosing⟩
  · obtain ⟨⟨item, after⟩, -, heq⟩ := Option.bind_eq_some_iff.1 hlater
    cases heq
    exact h.add (Pattern.numbered_of_groups_eq_nil rfl)
  · exact hrepeated hlater
  · exact hrepeated hlater
  · exact hrepeated hlater
  · obtain ⟨⟨min, max, greedy, after⟩, -, hbody⟩ := Option.bind_eq_some_iff.1 hlater
    obtain ⟨repeated, hrepeat, heq⟩ := Option.bind_eq_some_iff.1 hbody
    cases heq
    exact h.repeat? hrepeat
  · obtain ⟨⟨atom, after⟩, -, hbody⟩ := Option.bind_eq_some_iff.1 hlater
    obtain ⟨p, hp, heq⟩ := Option.bind_eq_some_iff.1 hbody
    cases heq
    exact hplain (groups_of_atomPattern? hp)
  · obtain ⟨p, hp, heq⟩ := Option.map_eq_some_iff.1 hlater
    cases heq
    exact hplain (groups_of_dotPattern? hp)
  · cases hlater
    exact hplain rfl
  · cases hlater
    exact hplain rfl
  · obtain ⟨p, hp, heq⟩ := Option.map_eq_some_iff.1 hlater
    cases heq
    exact hplain (groups_of_literalPattern? hp)

theorem Numbered.constructs?
    {steps : Nat} {text : List Char}
    (h : r.Numbered)
    (hlater : Regex.constructs? steps r text = some later) :
    later.Numbered := by
  induction steps generalizing r text with
  | zero => cases hlater
  | succ steps ih =>
    rw [Regex.constructs?] at hlater
    split at hlater
    · cases hlater
      exact h
    · obtain ⟨⟨next, left⟩, hnext, hrest⟩ := Option.bind_eq_some_iff.1 hlater
      exact ih (h.construct? hnext) hrest

end Reading

/-! ## Expressions -/

theorem numbered_of_parse?
    {text : List Char} {p : Pattern}
    (h : parse? text = some p) :
    p.Numbered := by
  obtain ⟨r, hread, hwhole⟩ := Option.bind_eq_some_iff.1 h
  simp only at hwhole
  split_ifs at hwhole
  cases hwhole
  exact (Reading.numbered_initial.constructs? hread).current.contents

/-- The program of an expression comes from its pattern, and the groups of the pattern are numbered. -/
theorem program_eq_of_compile?
    {source : List Char} {re : Regex}
    (h : compile? source = some re) :
    re.program = Program.compile re.pattern ∧ re.pattern.Numbered := by
  unfold compile? at h
  split at h
  · cases h
  next p hparse =>
    split_ifs at h
    cases h
    exact ⟨rfl, numbered_of_parse? hparse⟩

end Regex
end LineSieve
