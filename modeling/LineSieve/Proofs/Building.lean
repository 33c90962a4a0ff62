import LineSieve.Rule.Config
import Mathlib.Tactic

/-!
# From descriptions to rules

`Fault` lists what can be wrong with a description, check by check, and `Describes` says which rule a
description without faults stands for.  Building a description gives that rule or the error of the first
check that finds a fault; building a list gives all the rules or the error of the first description with
a fault.
-/

namespace LineSieve

/-- The position of the description that the error is about. -/
def RuleError.index : RuleError → Nat
  | unknownAction index _ => index
  | invalidPattern index _ => index
  | missingReplacement index => index
  | unknownGroup index _ => index

namespace RuleConfig

/-! ## What a description says -/

/-- The description names an action. -/
def Names (config : RuleConfig) : LineAction → Prop
  | .keep => config.actionName = "keep".toList ∨ config.actionName = "maintain".toList
  | .delete => config.actionName = "delete".toList
  | .modify => config.actionName = "modify".toList

/-- The description has an action, with a replacement where it needs one. -/
inductive Acts (config : RuleConfig) : RuleAction → Prop
  | keep
      (h : config.Names .keep) :
      Acts config .keep
  | delete
      (h : config.Names .delete) :
      Acts config .delete
  | modify
      {replacement : List Char}
      (h : config.Names .modify)
      (hreplacement : config.replacement = some replacement) :
      Acts config (.modify replacement)

/-- A pattern stands for an expression, or for none if it is absent or empty. -/
inductive Expresses (pattern : Option (List Char)) : Option Regex → Prop
  | nothing
      (h : present? pattern = none) :
      Expresses pattern none
  | expression
      {source : List Char} {re : Regex}
      (h : present? pattern = some source)
      (hcompile : Regex.compile? source = some re) :
      Expresses pattern (some re)

/-- A description stands for a rule. -/
structure Describes (config : RuleConfig) (rule : Rule) : Prop where
  action : config.Acts rule.action
  positive : Expresses config.positive rule.positive
  negative : Expresses config.negative rule.negative

/-! ## What can be wrong with a description -/

/-- The checks of a description. -/
inductive Check
  | action
  | replacement
  | positive
  | groups
  | negative
  deriving Repr, DecidableEq

/-- The place of a check among the others. -/
def Check.rank : Check → Nat
  | action => 0
  | replacement => 1
  | positive => 2
  | groups => 3
  | negative => 4

/-- A check finds a fault in the description at a position, and reports an error. -/
inductive Fault (index : Nat) (config : RuleConfig) : Check → RuleError → Prop
  | action
      (h : ∀ action, ¬config.Names action) :
      Fault index config .action (.unknownAction index config.action)
  | replacement
      (hname : config.Names .modify)
      (h : config.replacement = none) :
      Fault index config .replacement (.missingReplacement index)
  | positive
      {source : List Char}
      (hsource : present? config.positive = some source)
      (h : Regex.compile? source = none) :
      Fault index config .positive (.invalidPattern index source)
  | groups
      {template source reference : List Char} {re : Regex}
      (hname : config.Names .modify)
      (htemplate : config.replacement = some template)
      (hsource : present? config.positive = some source)
      (hcompile : Regex.compile? source = some re)
      (h : (Template.references template).find? (fun reference => !re.hasGroup reference) =
        some reference) :
      Fault index config .groups (.unknownGroup index reference)
  | negative
      {source : List Char}
      (hsource : present? config.negative = some source)
      (h : Regex.compile? source = none) :
      Fault index config .negative (.invalidPattern index source)

/-- No check finds a fault. -/
def Passes (config : RuleConfig) : Prop := ∀ index check e, ¬Fault index config check e

/-- A check finds a fault, and none before it does. -/
structure FirstFault (index : Nat) (config : RuleConfig) (check : Check) (e : RuleError) : Prop where
  fault : Fault index config check e
  first : ∀ earlier e', earlier.rank < check.rank → ¬Fault index config earlier e'

variable {index : Nat} {config : RuleConfig} {rule : Rule} {check : Check} {e : RuleError}

theorem present?_eq_some_iff
    {pattern : Option (List Char)} {source : List Char} :
    present? pattern = some source ↔ pattern = some source ∧ source ≠ [] := by
  simp [present?, Option.filter_eq_some_iff]

/-- A description names at most one action. -/
theorem names_unique
    {a b : LineAction}
    (ha : config.Names a)
    (hb : config.Names b) :
    a = b := by
  cases a <;> cases b <;> first | rfl | (simp only [Names] at ha hb; simp_all)

theorem Check.eq_of_rank_eq
    {a b : Check}
    (h : a.rank = b.rank) :
    a = b := by
  cases a <;> cases b <;> first | rfl | cases h

/-- An error names the position of the description. -/
theorem Fault.index_eq
    (h : Fault index config check e) :
    e.index = index := by
  cases h <;> rfl

/-- The error of the check of the groups, for a description whose template and expression are known. -/
theorem Fault.find?_of_groups
    {template source : List Char} {re : Regex}
    (h : Fault index config .groups e)
    (htemplate : config.replacement = some template)
    (hsource : present? config.positive = some source)
    (hcompile : Regex.compile? source = some re) :
    ∃ reference, e = .unknownGroup index reference ∧
      (Template.references template).find? (fun reference => !re.hasGroup reference) =
        some reference := by
  cases h with
  | groups _ htemplate' hsource' hcompile' hfind =>
    cases htemplate.symm.trans htemplate'
    cases hsource.symm.trans hsource'
    cases hcompile.symm.trans hcompile'
    exact ⟨_, rfl, hfind⟩

/-- A check reports one error. -/
theorem Fault.error_eq
    {e' : RuleError}
    (h : Fault index config check e)
    (h' : Fault index config check e') :
    e = e' := by
  cases h with
  | action => cases h'; rfl
  | replacement => cases h'; rfl
  | positive hsource =>
    cases h' with
    | positive hsource' => rw [Option.some.inj (hsource.symm.trans hsource')]
  | negative hsource =>
    cases h' with
    | negative hsource' => rw [Option.some.inj (hsource.symm.trans hsource')]
  | groups _ htemplate hsource hcompile hfind =>
    obtain ⟨reference, rfl, hfind'⟩ := h'.find?_of_groups htemplate hsource hcompile
    rw [Option.some.inj (hfind.symm.trans hfind')]

theorem FirstFault.unique
    {check' : Check} {e' : RuleError}
    (h : FirstFault index config check e)
    (h' : FirstFault index config check' e') :
    e = e' := by
  rcases Nat.lt_trichotomy check.rank check'.rank with hlt | heq | hlt
  · exact absurd h.fault (h'.first check e hlt)
  · cases Check.eq_of_rank_eq heq
    exact h.fault.error_eq h'.fault
  · exact absurd h'.fault (h.first check' e' hlt)

/-- A fault does not depend on the position of the description. -/
theorem Fault.at
    (h : Fault index config check e)
    (index' : Nat) :
    ∃ e', Fault index' config check e' := by
  cases h with
  | action h => exact ⟨_, .action h⟩
  | replacement hname h => exact ⟨_, .replacement hname h⟩
  | positive hsource h => exact ⟨_, .positive hsource h⟩
  | groups hname htemplate hsource hcompile h => exact ⟨_, .groups hname htemplate hsource hcompile h⟩
  | negative hsource h => exact ⟨_, .negative hsource h⟩

/-- A description that has a replacement to put in has one action. -/
theorem Acts.eq_modify
    {action : RuleAction} {replacement : List Char}
    (h : config.Acts action)
    (hname : config.Names .modify)
    (hreplacement : config.replacement = some replacement) :
    action = .modify replacement := by
  cases h with
  | keep hname' | delete hname' => cases names_unique hname hname'
  | modify _ hreplacement' => rw [Option.some.inj (hreplacement.symm.trans hreplacement')]

theorem Expresses.eq_some
    {pattern : Option (List Char)} {source : List Char} {re : Regex} {positive : Option Regex}
    (h : Expresses pattern positive)
    (hsource : present? pattern = some source)
    (hcompile : Regex.compile? source = some re) :
    positive = some re := by
  cases h with
  | nothing hnone => rw [hnone] at hsource; cases hsource
  | expression hsource' hcompile' =>
    cases hsource.symm.trans hsource'
    exact hcompile'.symm.trans hcompile

/-! ## Building one rule -/

theorem action?_cases
    (index : Nat) (config : RuleConfig) :
    (∃ action, config.action? index = .ok action ∧ config.Acts action) ∨
      ∃ check e, config.action? index = .error e ∧ FirstFault index config check e := by
  simp only [action?]
  split_ifs with hkeep hdelete hmodify
  · exact Or.inl ⟨.keep, rfl, .keep hkeep⟩
  · exact Or.inl ⟨.delete, rfl, .delete hdelete⟩
  · cases hreplacement : config.replacement with
    | some replacement => exact Or.inl ⟨.modify replacement, rfl, .modify hmodify hreplacement⟩
    | none =>
      refine Or.inr ⟨.replacement, _, rfl, .replacement hmodify hreplacement, ?_⟩
      rintro earlier e' hearlier (⟨hnone⟩ | _ | _ | _ | _)
      · exact hnone .modify hmodify
      all_goals simp [Check.rank] at hearlier
  · refine Or.inr ⟨.action, _, rfl, .action fun action => ?_, fun earlier e' hearlier => ?_⟩
    swap
    · simp [Check.rank] at hearlier
    cases action with
    | keep => exact hkeep
    | delete => exact hdelete
    | modify => exact hmodify

theorem expression?_cases
    (index : Nat) (pattern : Option (List Char)) :
    (∃ re, expression? index pattern = .ok re ∧ Expresses pattern re) ∨
      ∃ source, expression? index pattern = .error (.invalidPattern index source) ∧
        present? pattern = some source ∧ Regex.compile? source = none := by
  unfold expression?
  cases hpresent : present? pattern with
  | none => exact Or.inl ⟨none, rfl, .nothing hpresent⟩
  | some source =>
    simp only
    cases hcompile : Regex.compile? source with
    | some re => exact Or.inl ⟨some re, rfl, .expression hpresent hcompile⟩
    | none => exact Or.inr ⟨source, rfl, rfl, hcompile⟩

/-- Where there is an action, neither the first nor the second check finds a fault. -/
theorem Acts.two_le_rank
    {action : RuleAction}
    (h : config.Acts action)
    (hfault : Fault index config check e) :
    2 ≤ check.rank := by
  cases hfault with
  | action hnone =>
    cases h with
    | keep hname => exact absurd hname (hnone .keep)
    | delete hname => exact absurd hname (hnone .delete)
    | modify hname => exact absurd hname (hnone .modify)
  | replacement hname hnone =>
    cases h with
    | keep hname' => cases names_unique hname hname'
    | delete hname' => cases names_unique hname hname'
    | modify _ hsome => rw [hnone] at hsome; cases hsome
  | _ => simp [Check.rank]

theorem Expresses.compile?_ne_none
    {pattern : Option (List Char)} {re : Option Regex} {source : List Char}
    (h : Expresses pattern re)
    (hsource : present? pattern = some source) :
    Regex.compile? source ≠ none := by
  cases h with
  | nothing hnone => rw [hnone] at hsource; cases hsource
  | expression hsome hcompile =>
    cases hsome.symm.trans hsource
    simp [hcompile]

/-- Where there is an action and the positive pattern stands for an expression, the first three checks find
no fault. -/
theorem Acts.three_le_rank
    {action : RuleAction} {positive : Option Regex}
    (h : config.Acts action)
    (hpositive : Expresses config.positive positive)
    (hfault : Fault index config check e) :
    3 ≤ check.rank := by
  have htwo := h.two_le_rank hfault
  cases hfault with
  | positive hsource hcompile => exact absurd hcompile (hpositive.compile?_ne_none hsource)
  | action | replacement => simp [Check.rank] at htwo
  | groups | negative => simp [Check.rank]

theorem checkGroups_cases
    (index : Nat)
    {action : RuleAction} {positive : Option Regex}
    (hacts : config.Acts action)
    (hpositive : Expresses config.positive positive) :
    (checkGroups index action positive = .ok () ∧ ∀ e, ¬Fault index config .groups e) ∨
      ∃ e, checkGroups index action positive = .error e ∧ Fault index config .groups e := by
  cases hacts with
  | keep hname =>
    refine Or.inl ⟨rfl, fun e hfault => ?_⟩
    cases hfault with
    | groups hmodify => cases names_unique hname hmodify
  | delete hname =>
    refine Or.inl ⟨rfl, fun e hfault => ?_⟩
    cases hfault with
    | groups hmodify => cases names_unique hname hmodify
  | @modify template hname htemplate =>
    cases hpositive with
    | nothing hnone =>
      refine Or.inl ⟨rfl, fun e hfault => ?_⟩
      cases hfault with
      | groups _ _ hsource => rw [hnone] at hsource; cases hsource
    | @expression source re hsource hcompile =>
      rw [checkGroups]
      cases hfind : (Template.references template).find? fun reference => !re.hasGroup reference with
      | some reference => exact Or.inr ⟨_, rfl, .groups hname htemplate hsource hcompile hfind⟩
      | none =>
        refine Or.inl ⟨rfl, fun e hfault => ?_⟩
        obtain ⟨reference, -, hfind'⟩ := hfault.find?_of_groups htemplate hsource hcompile
        rw [hfind] at hfind'
        cases hfind'

/-- What comes of building a description. -/
inductive Built (index : Nat) (config : RuleConfig) : Except RuleError Rule → Prop
  | rule
      {rule : Rule}
      (hpasses : config.Passes)
      (h : config.Describes rule) :
      Built index config (.ok rule)
  | error
      {check : Check} {e : RuleError}
      (h : FirstFault index config check e) :
      Built index config (.error e)

theorem built
    (index : Nat) (config : RuleConfig) :
    Built index config (config.build index) := by
  simp only [build, bind, Except.bind]
  rcases action?_cases index config with ⟨action, haction, hacts⟩ | ⟨check, e, haction, hfirst⟩
  swap
  · rw [haction]
    exact .error hfirst
  rcases expression?_cases index config.positive with
    ⟨positive, hpositive, hexpresses⟩ | ⟨source, hpositive, hsource, hcompile⟩
  swap
  · simp only [haction, hpositive]
    refine .error ⟨.positive hsource hcompile, fun earlier e' hearlier hfault => ?_⟩
    exact absurd hearlier (hacts.two_le_rank hfault).not_gt
  have hearly : ∀ {check e}, Fault index config check e → 3 ≤ check.rank :=
    hacts.three_le_rank hexpresses
  rcases checkGroups_cases index hacts hexpresses with ⟨hgroups, hnone⟩ | ⟨e, hgroups, hfault⟩
  swap
  · simp only [haction, hpositive, hgroups]
    refine .error ⟨hfault, fun earlier e' hearlier hfault' => ?_⟩
    exact absurd hearlier (hearly hfault').not_gt
  -- what is left is the last check
  have hlast : ∀ {check e}, Fault index config check e → check = .negative := by
    intro check e hfault
    have hthree := hearly hfault
    cases hfault with
    | action | replacement | positive => simp [Check.rank] at hthree
    | groups hname htemplate hsource hcompile h =>
      exact absurd (.groups hname htemplate hsource hcompile h) (hnone _)
    | negative => rfl
  rcases expression?_cases index config.negative with
    ⟨negative, hnegative, hexpresses'⟩ | ⟨source, hnegative, hsource, hcompile⟩
  swap
  · simp only [haction, hpositive, hgroups, hnegative]
    refine .error ⟨.negative hsource hcompile, fun earlier e' hearlier hfault => ?_⟩
    rw [hlast hfault] at hearlier
    exact absurd hearlier (lt_irrefl _)
  · simp only [haction, hpositive, hgroups, hnegative]
    refine .rule (fun index' check e hfault => ?_) ⟨hacts, hexpresses, hexpresses'⟩
    obtain ⟨e', hfault'⟩ := hfault.at index
    cases hlast hfault'
    cases hfault' with
    | negative hsource hcompile => exact hexpresses'.compile?_ne_none hsource hcompile

theorem build_eq_error_iff :
    config.build index = .error e ↔ ∃ check, FirstFault index config check e := by
  have h := built index config
  constructor
  · intro hbuild
    rw [hbuild] at h
    cases h with
    | error h => exact ⟨_, h⟩
  · rintro ⟨check, hfirst⟩
    generalize config.build index = result at h
    cases h with
    | rule hpasses => exact absurd hfirst.fault (hpasses index check e)
    | error h => rw [h.unique hfirst]

theorem describes_of_build
    (h : config.build index = .ok rule) :
    config.Passes ∧ config.Describes rule := by
  have hbuilt := built index config
  rw [h] at hbuilt
  cases hbuilt with
  | rule hpasses hdescribes => exact ⟨hpasses, hdescribes⟩

/-! ## Building a list of rules -/

variable {configs : List RuleConfig} {rules : List Rule}

/-- The error of a list is that of its first description with a fault. -/
theorem buildFrom_eq_error_iff :
    buildFrom index configs = .error e ↔
      ∃ before config after check, configs = before ++ config :: after ∧
        (∀ earlier ∈ before, earlier.Passes) ∧
          FirstFault (index + before.length) config check e := by
  induction configs generalizing index with
  | nil => simp [buildFrom]
  | cons config rest ih =>
    simp only [buildFrom, bind, Except.bind]
    cases hbuild : config.build index with
    | error e' =>
      obtain ⟨check, hfirst⟩ := build_eq_error_iff.1 hbuild
      constructor
      · rintro ⟨⟩
        exact ⟨[], config, rest, check, rfl, by simp, hfirst⟩
      · rintro ⟨before, config', after, check', hsplit, hbefore, hfirst'⟩
        cases before with
        | nil =>
          cases hsplit
          exact congrArg Except.error (hfirst.unique hfirst')
        | cons earlier before =>
          cases hsplit
          exact absurd hfirst.fault (hbefore config List.mem_cons_self index check e')
    | ok rule =>
      have hpasses := (describes_of_build hbuild).1
      have hrest : (∃ before config' after check, config :: rest = before ++ config' :: after ∧
            (∀ earlier ∈ before, earlier.Passes) ∧
              FirstFault (index + before.length) config' check e) ↔
          buildFrom (index + 1) rest = .error e := by
        rw [ih]
        constructor
        · rintro ⟨before, config', after, check, hsplit, hbefore, hfirst⟩
          cases before with
          | nil =>
            cases hsplit
            exact absurd hfirst.fault (hpasses _ check e)
          | cons earlier before =>
            cases hsplit
            refine ⟨before, config', after, check, rfl, (List.forall_mem_cons.1 hbefore).2, ?_⟩
            rwa [List.length_cons, Nat.add_comm before.length, ← Nat.add_assoc] at hfirst
        · rintro ⟨before, config', after, check, rfl, hbefore, hfirst⟩
          refine ⟨config :: before, config', after, check, rfl,
            List.forall_mem_cons.2 ⟨hpasses, hbefore⟩, ?_⟩
          rwa [List.length_cons, Nat.add_comm before.length, ← Nat.add_assoc]
      rw [hrest]
      cases buildFrom (index + 1) rest <;> simp [pure, Except.pure]

theorem describes_of_buildFrom
    (h : buildFrom index configs = .ok rules) :
    (∀ config ∈ configs, config.Passes) ∧ List.Forall₂ Describes configs rules := by
  induction configs generalizing index rules with
  | nil =>
    cases h
    exact ⟨by simp, .nil⟩
  | cons config rest ih =>
    simp only [buildFrom, bind, Except.bind] at h
    cases hbuild : config.build index with
    | error e => simp [hbuild] at h
    | ok rule =>
      cases hrest : buildFrom (index + 1) rest with
      | error e => simp [hbuild, hrest] at h
      | ok others =>
        simp only [hbuild, hrest] at h
        cases h
        obtain ⟨hpasses, hdescribes⟩ := describes_of_build hbuild
        obtain ⟨hothers, hdescribed⟩ := ih hrest
        exact ⟨List.forall_mem_cons.2 ⟨hpasses, hothers⟩, .cons hdescribes hdescribed⟩

theorem exists_buildFrom_iff
    (index : Nat) (configs : List RuleConfig) :
    (∃ rules, buildFrom index configs = .ok rules) ↔ ∀ config ∈ configs, config.Passes := by
  constructor
  · rintro ⟨rules, h⟩
    exact (describes_of_buildFrom h).1
  · intro hpasses
    cases h : buildFrom index configs with
    | ok rules => exact ⟨rules, rfl⟩
    | error e =>
      obtain ⟨before, config, after, check, rfl, -, hfirst⟩ := buildFrom_eq_error_iff.1 h
      exact absurd hfirst.fault (hpasses config (by simp) _ check e)

end RuleConfig
end LineSieve
