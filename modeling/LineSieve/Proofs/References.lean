import Mathlib
import LineSieve.Proofs.Building
import LineSieve.Proofs.Matches

/-!
# The references of a template

A template is read twice.  When a rule is built, `Template.references` lists the groups that the template
refers to, and each of them is looked for among the groups of the expression; when a line is rewritten,
`Template.parts` cuts the template into plain text and references, and each reference is expanded.  Both
read the same references in the same order, but the list leaves out the empty one, which is written as a
pair of braces with nothing in between.

So a rule that has been built expands each of its references from a group that exists, with that one
exception, and `build_unknownGroup_iff` says so.  The exception is real: `build_drops_empty_reference`.
-/

namespace LineSieve
namespace Template

/-- The text of a part that is a reference. -/
def Part.reference? : Part → Option (List Char)
  | plain _ => none
  | reference text => some text

/-- The references that are met when a template is expanded, in order. -/
def met (template : List Char) : List (List Char) := (parts template).filterMap Part.reference?

/-! ## Reading on after a dollar sign -/

theorem scan_nil :
    scan [] = [] := by
  rw [scan]
  rfl

theorem scan_dollar
    (rest : List Char) :
    scan ('$' :: rest) = (referenceHere rest).1 :: scan (referenceHere rest).2 := by
  rw [scan]
  rfl

theorem scan_of_ne
    {c : Char} {rest : List Char}
    (h : c ≠ '$') :
    scan (c :: rest) = scan rest := by
  have hafter : afterDollar? (c :: rest) = afterDollar? rest := by
    simp [afterDollar?, h]
  rw [scan, scan, hafter]

/-- The text up to the first closing brace, and what follows the brace. -/
theorem closingBrace?_eq
    (text : List Char) :
    closingBrace? text =
      if text.contains '\x7d' then
        some (text.takeWhile (· != '\x7d'), (text.dropWhile (· != '\x7d')).drop 1)
      else none := by
  induction text with
  | nil => rfl
  | cons c rest ih =>
    rw [closingBrace?]
    by_cases hc : c = '\x7d'
    · simp [hc]
    · rw [if_neg hc, ih]
      by_cases hrest : rest.contains '\x7d' = true
      · simp_all
      · simp_all [Ne.symm hc]

theorem referenceHere_brace
    (inner : List Char) :
    referenceHere ('\x7b' :: inner) = (closingBrace? inner).getD ([], '\x7b' :: inner) := by
  rw [referenceHere, closingBrace?_eq]
  split_ifs <;> rfl

theorem referenceHere_of_ne
    {text : List Char}
    (hdollar : ∀ rest, text ≠ '$' :: rest)
    (hbrace : ∀ rest, text ≠ '\x7b' :: rest) :
    referenceHere text = (text.takeWhile isNameChar, text.dropWhile isNameChar) := by
  unfold referenceHere
  split
  · exact absurd rfl (hdollar _)
  · exact absurd rfl (hbrace _)
  · rfl

/-- The list of references of a template is the list of those that are met, without empty ones. -/
theorem references_eq
    (template : List Char) :
    references template = (met template).filter fun reference => !reference.isEmpty := by
  rw [references, met]
  -- on the template as the expansion reads it; plain dollar signs are scanned as empty references
  fun_induction parts template with
  | case1 => rw [scan_nil]; rfl
  | case2 rest ih =>
    rw [scan_dollar, show referenceHere ('$' :: rest) = ([], rest) from rfl]
    exact ih
  | case3 rest inside after h ih =>
    rw [scan_dollar, referenceHere_brace, h]
    simp [Part.reference?, List.filter_cons, ih]
  | case4 rest h ih =>
    rw [scan_dollar, referenceHere_brace, h]
    exact ih
  | case5 rest hdollar hbrace hempty ih =>
    rw [List.isEmpty_iff] at hempty
    have hdrop : rest.dropWhile isNameChar = rest := by
      simpa [hempty] using List.takeWhile_append_dropWhile (p := isNameChar) (l := rest)
    rw [scan_dollar, referenceHere_of_ne hdollar hbrace, hempty, hdrop]
    exact ih
  | case6 rest hdollar hbrace hname ih =>
    rw [scan_dollar, referenceHere_of_ne hdollar hbrace]
    simp only [List.filter_cons, List.filterMap_cons, Part.reference?]
    rw [ih]
  | case7 c rest hdollars hbrace hdollar ih =>
    rw [scan_of_ne hdollar]
    exact ih

end Template

namespace Regex

variable {re : Regex} {reference : List Char} {group : Nat}

theorem hasGroup_iff :
    re.hasGroup reference = true ↔ re.resolve? (.ofText reference) ≠ none := by
  unfold hasGroup resolve?
  cases GroupRef.ofText reference with
  | number n => simp
  | name name => simp [groupIndex?]

/-- A reference means one of the groups that the expression has. -/
theorem lt_length_of_resolve?
    {ref : GroupRef}
    (h : re.resolve? ref = some group) :
    group < re.groupNames.length := by
  cases ref with
  | number n =>
    simp only [resolve?] at h
    split_ifs at h with hlt
    cases h
    exact hlt
  | name name => exact (List.findIdx?_eq_some_iff_findIdx_eq.1 h).1

/-- In every match, a reference that means a group expands to the text of that group, if the group took
part. -/
theorem exists_expandPart_reference
    {line : List Char} {piece : Piece}
    (h : re.resolve? (.ofText reference) ≠ none)
    (hpiece : piece ∈ (re.pieces none false line).1) :
    ∃ group captured, re.resolve? (.ofText reference) = some group ∧
      piece.groups[group]? = some captured ∧
        re.expandPart piece (.reference reference) = captured.getD [] := by
  obtain ⟨group, hgroup⟩ := Option.ne_none_iff_exists'.1 h
  have hlt : group < piece.groups.length := by
    rw [(fitsGroups_of_mem_pieces hpiece).length_eq]
    exact lt_length_of_resolve? hgroup
  exact ⟨group, piece.groups[group], hgroup, List.getElem?_eq_getElem hlt, by
    simp [expandPart, hgroup, hlt]⟩

/-- The check of a template finds the first reference that means no group, but passes over empty ones. -/
theorem find?_references_eq_some_iff
    (re : Regex) (template reference : List Char) :
    (Template.references template).find? (fun reference => !re.hasGroup reference) = some reference ↔
      ∃ before after, Template.met template = before ++ reference :: after ∧ reference ≠ [] ∧
        (∀ earlier ∈ before, earlier = [] ∨ re.resolve? (.ofText earlier) ≠ none) ∧
          re.resolve? (.ofText reference) = none := by
  have hcheck : ∀ text, text.isEmpty = false ∧ re.hasGroup text = false ↔
      text ≠ [] ∧ re.resolve? (.ofText text) = none := by
    intro text
    rw [List.isEmpty_eq_false_iff, ← Bool.not_eq_true, hasGroup_iff, not_not]
  rw [Template.references_eq, List.find?_filter, List.find?_eq_some_iff_append]
  simp only [Bool.not_eq_true', decide_eq_true_eq, decide_eq_false_iff_not, hcheck]
  constructor
  · rintro ⟨⟨hne, hnone⟩, before, after, hmet, hbefore⟩
    refine ⟨before, after, hmet, hne, fun earlier hmem => ?_, hnone⟩
    exact or_iff_not_imp_left.2 fun hwritten hunknown => hbefore earlier hmem ⟨hwritten, hunknown⟩
  · rintro ⟨before, after, hmet, hne, hbefore, hnone⟩
    refine ⟨⟨hne, hnone⟩, before, after, hmet, fun earlier hmem hearlier => ?_⟩
    exact (hbefore earlier hmem).elim hearlier.1 fun hknown => hknown hearlier.2

end Regex

namespace RuleConfig

open Template (met)

variable {index : Nat} {config : RuleConfig} {template source : List Char} {re : Regex}

/-- The check of the groups, for a description that comes as far as that. -/
theorem fault_groups_iff
    {i : Nat} {reference : List Char}
    (hname : config.Names .modify)
    (htemplate : config.replacement = some template)
    (hsource : present? config.positive = some source)
    (hcompile : Regex.compile? source = some re) :
    Fault index config .groups (.unknownGroup i reference) ↔
      i = index ∧ ∃ before after, met template = before ++ reference :: after ∧ reference ≠ [] ∧
        (∀ earlier ∈ before, earlier = [] ∨ re.resolve? (.ofText earlier) ≠ none) ∧
          re.resolve? (.ofText reference) = none := by
  rw [← Regex.find?_references_eq_some_iff]
  constructor
  · intro hfault
    obtain ⟨_, heq, hfind⟩ := hfault.find?_of_groups htemplate hsource hcompile
    cases heq
    exact ⟨rfl, hfind⟩
  · rintro ⟨rfl, hfind⟩
    exact .groups hname htemplate hsource hcompile hfind

theorem build_eq_unknownGroup_iff
    {i : Nat} {reference : List Char}
    (hname : config.Names .modify)
    (htemplate : config.replacement = some template)
    (hsource : present? config.positive = some source)
    (hcompile : Regex.compile? source = some re) :
    config.build index = .error (.unknownGroup i reference) ↔
      Fault index config .groups (.unknownGroup i reference) := by
  rw [build_eq_error_iff]
  constructor
  · rintro ⟨check, hfault, -⟩
    cases hfault with
    | groups hname' htemplate' hsource' hcompile' hfind =>
      exact .groups hname' htemplate' hsource' hcompile' hfind
  · intro hgroups
    refine ⟨.groups, hgroups, fun earlier e hearlier hfault => ?_⟩
    have hthree := (Acts.modify hname htemplate).three_le_rank (.expression hsource hcompile) hfault
    exact absurd hearlier hthree.not_gt

/-- The references of a template that passes all checks mean groups, but for empty ones. -/
theorem Passes.resolve?_ne_none
    {reference : List Char}
    (h : config.Passes)
    (hname : config.Names .modify)
    (htemplate : config.replacement = some template)
    (hsource : present? config.positive = some source)
    (hcompile : Regex.compile? source = some re)
    (hmet : reference ∈ met template)
    (hne : reference ≠ []) :
    re.resolve? (.ofText reference) ≠ none := by
  intro hnone
  have hwritten : reference ∈ Template.references template := by
    rw [Template.references_eq, List.mem_filter]
    exact ⟨hmet, by simpa using hne⟩
  cases hfind : (Template.references template).find? fun reference => !re.hasGroup reference with
  | some first => exact h 0 .groups _ (.groups hname htemplate hsource hcompile hfind)
  | none =>
    have hknown := List.find?_eq_none.1 hfind reference hwritten
    rw [Bool.not_eq_true, Bool.not_eq_false', Regex.hasGroup_iff] at hknown
    exact hknown hnone

/-- Building a rule with a template reports the first reference that means no group, whatever stands
between the braces, unless nothing does.  If the rule is built, each reference that is written out
expands, in every match, to the text of a group of the expression. -/
theorem build_unknownGroup_iff
    (index : Nat)
    (hname : config.Names .modify)
    (htemplate : config.replacement = some template)
    (hsource : config.positive = some source)
    (hne : source ≠ [])
    (hcompile : Regex.compile? source = some re) :
    (∀ i reference, config.build index = .error (.unknownGroup i reference) ↔
      i = index ∧ ∃ before after, met template = before ++ reference :: after ∧ reference ≠ [] ∧
        (∀ earlier ∈ before, earlier = [] ∨ re.resolve? (.ofText earlier) ≠ none) ∧
          re.resolve? (.ofText reference) = none) ∧
    ∀ rule, config.build index = .ok rule → ∀ line,
      rule.apply line = some (re.replaceAll template line) ∧
        ∀ piece ∈ (re.pieces none false line).1, ∀ reference ∈ met template, reference ≠ [] →
          ∃ group captured, re.resolve? (.ofText reference) = some group ∧
            piece.groups[group]? = some captured ∧
              re.expandPart piece (.reference reference) = captured.getD [] := by
  have hpresent : present? config.positive = some source := present?_eq_some_iff.2 ⟨hsource, hne⟩
  refine ⟨fun i reference => ?_,
    fun rule hbuild line => ⟨?_, fun piece hpiece reference hmet hwritten => ?_⟩⟩
  · rw [build_eq_unknownGroup_iff hname htemplate hpresent hcompile,
      fault_groups_iff hname htemplate hpresent hcompile]
  · obtain ⟨hacts, hpositive, -⟩ := (describes_of_build hbuild).2
    have haction := hacts.eq_modify hname htemplate
    have hre := hpositive.eq_some hpresent hcompile
    simp only [Rule.apply, haction, hre]
  · have hpasses := (describes_of_build hbuild).1
    exact Regex.exists_expandPart_reference
      (hpasses.resolve?_ne_none hname htemplate hpresent hcompile hmet hwritten) hpiece

/-- A reference takes all letters, digits and low lines that follow. -/
theorem build_unknownGroup_iff_longest_name :
    let config : RuleConfig := ⟨"modify".toList, some "(a)".toList, none, some "$1_id".toList⟩
    config.build 3 = .error (.unknownGroup 3 "1_id".toList) := by
  intro config
  cases hcompile : Regex.compile? "(a)".toList with
  | none => exact absurd hcompile (by decide +kernel)
  | some re =>
    have hnone : (Regex.compile? "(a)".toList).map (·.resolve? (.ofText "1_id".toList)) = some none := by
      decide +kernel
    rw [hcompile] at hnone
    have hname : config.actionName = "modify".toList := by decide
    exact ((build_unknownGroup_iff 3 hname rfl rfl (by decide) hcompile).1 3 _).2
      ⟨rfl, [], [], by cbv, by decide, by simp, Option.some.inj hnone⟩

/-- A pair of braces with nothing in between is a reference that means no group, but passes all checks: what
it stands for is lost without notice. -/
theorem build_drops_empty_reference :
    let config : RuleConfig := ⟨"modify".toList, some "a".toList, none, some "$\x7b\x7d".toList⟩
    met "$\x7b\x7d".toList = [[]] ∧
      ∃ re rule, Regex.compile? "a".toList = some re ∧ re.resolve? (.ofText []) = none ∧
        config.build 0 = .ok rule ∧ rule.apply "bac".toList = some "bc".toList := by
  intro config
  have hmet : met "$\x7b\x7d".toList = [[]] := by cbv
  have hcaptures : (Regex.compile? "a".toList).map (fun re => (re.resolve? (.ofText []),
      re.replaceAll "$\x7b\x7d".toList "bac".toList)) = some (none, "bc".toList) := by cbv
  cases hcompile : Regex.compile? "a".toList with
  | none => rw [hcompile] at hcaptures; cases hcaptures
  | some re =>
    rw [hcompile] at hcaptures
    obtain ⟨hnone, hreplace⟩ := Prod.mk.inj (Option.some.inj hcaptures)
    have hpositive : expression? 0 config.positive = .ok (some re) := by
      simp only [expression?, show present? config.positive = some "a".toList from rfl, hcompile]
    have hgroups : checkGroups 0 (.modify "$\x7b\x7d".toList) (some re) = .ok () := by
      simp only [checkGroups, Template.references_eq, hmet]
      rfl
    refine ⟨hmet, re, ⟨.modify "$\x7b\x7d".toList, some re, none⟩, rfl, hnone, ?_,
      congrArg some hreplace⟩
    have haction : config.action? 0 = .ok (.modify "$\x7b\x7d".toList) := by decide +kernel
    simp only [build, haction, hpositive, hgroups, bind, Except.bind]
    rfl

end RuleConfig
end LineSieve
