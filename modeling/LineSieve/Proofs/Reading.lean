import LineSieve.Proofs.Building

/-!
# Reading a line by descriptions

`Reads` says what a list of descriptions makes of a line, without any rules: the first description that
selects the line decides.  `buildAll_reads` says when a list of descriptions gives rules, what the error
is if it does not, and that the rules make of every line what the descriptions do.
-/

namespace LineSieve

theorem Rule.evaluate_cons
    (rule : Rule) (rules : List Rule) (line : List Char) :
    evaluate (rule :: rules) line =
      if rule.appliesTo line then ⟨rule.action.lineAction, rule.apply line⟩
      else evaluate rules line := by
  rw [evaluate, List.find?_cons]
  cases rule.appliesTo line <;> rfl

namespace RuleConfig

/-! ## What a list of descriptions makes of a line -/

/-- A pattern that puts no condition on a line. -/
def IsBlank (pattern : Option (List Char)) : Prop := pattern = none ∨ pattern = some []

/-- The expression of a pattern matches somewhere in the line. -/
def IsFound (pattern : Option (List Char)) (line : List Char) : Prop :=
  ∃ source re, pattern = some source ∧ Regex.compile? source = some re ∧ re.isMatch line = true

/-- The description is about the line. -/
structure Selects (config : RuleConfig) (line : List Char) : Prop where
  positive : IsBlank config.positive ∨ IsFound config.positive line
  negative : IsBlank config.negative ∨ ¬IsFound config.negative line

/-- What a description makes of a line that it selects. -/
inductive Makes (config : RuleConfig) (line : List Char) : LineOutcome → Prop
  | keep
      (hname : config.Names .keep) :
      Makes config line ⟨.keep, some line⟩
  | delete
      (hname : config.Names .delete) :
      Makes config line ⟨.delete, none⟩
  /-- Where there is a pattern, the replacement is a template. -/
  | template
      {replacement source : List Char} {re : Regex}
      (hname : config.Names .modify)
      (hreplacement : config.replacement = some replacement)
      (hsource : config.positive = some source)
      (hne : source ≠ [])
      (hcompile : Regex.compile? source = some re) :
      Makes config line ⟨.modify, some (re.replaceAll replacement line)⟩
  /-- Where there is none, the replacement is taken as it stands. -/
  | verbatim
      {replacement : List Char}
      (hname : config.Names .modify)
      (hreplacement : config.replacement = some replacement)
      (hblank : IsBlank config.positive) :
      Makes config line ⟨.modify, some replacement⟩

/-- What the descriptions of a list make of a line: the first one that selects it decides. -/
inductive Reads : List RuleConfig → List Char → LineOutcome → Prop
  | untouched
      {line : List Char} :
      Reads [] line ⟨.keep, some line⟩
  | here
      {config : RuleConfig} {rest : List RuleConfig} {line : List Char} {outcome : LineOutcome}
      (hselects : config.Selects line)
      (h : config.Makes line outcome) :
      Reads (config :: rest) line outcome
  | later
      {config : RuleConfig} {rest : List RuleConfig} {line : List Char} {outcome : LineOutcome}
      (hselects : ¬config.Selects line)
      (h : Reads rest line outcome) :
      Reads (config :: rest) line outcome

variable {config : RuleConfig} {configs : List RuleConfig} {rule : Rule} {rules : List Rule}
variable {pattern : Option (List Char)} {line : List Char} {outcome : LineOutcome}

theorem present?_eq_none_iff :
    present? pattern = none ↔ IsBlank pattern := by
  cases pattern <;> simp [present?, IsBlank, Option.filter_eq_none_iff]

/-- A pattern that is there is found in the lines that its expression matches. -/
theorem isFound_iff
    {source : List Char} {re : Regex}
    (h : present? pattern = some source)
    (hcompile : Regex.compile? source = some re) :
    IsFound pattern line ↔ re.isMatch line = true := by
  obtain ⟨rfl, -⟩ := present?_eq_some_iff.1 h
  constructor
  · rintro ⟨source', re', ⟨⟩, hcompile', hmatch⟩
    rw [hcompile] at hcompile'
    cases hcompile'
    exact hmatch
  · exact fun hmatch => ⟨source, re, rfl, hcompile, hmatch⟩

theorem not_isBlank
    {source : List Char}
    (h : present? pattern = some source) :
    ¬IsBlank pattern := by
  rw [← present?_eq_none_iff, h]
  exact nofun

theorem Expresses.all_iff
    {re : Option Regex}
    (h : Expresses pattern re) :
    re.all (·.isMatch line) = true ↔ IsBlank pattern ∨ IsFound pattern line := by
  cases h with
  | nothing hnone => simp [present?_eq_none_iff.1 hnone]
  | expression hsource hcompile =>
    rw [isFound_iff hsource hcompile, Option.all_some]
    simp [not_isBlank hsource]

theorem Expresses.not_any_iff
    {re : Option Regex}
    (h : Expresses pattern re) :
    (!re.any (·.isMatch line)) = true ↔ IsBlank pattern ∨ ¬IsFound pattern line := by
  cases h with
  | nothing hnone => simp [present?_eq_none_iff.1 hnone]
  | expression hsource hcompile =>
    rw [isFound_iff hsource hcompile, Option.any_some]
    simp [not_isBlank hsource]

/-- The rule applies to the lines that its description selects. -/
theorem Describes.appliesTo_iff
    (h : config.Describes rule) :
    rule.appliesTo line = true ↔ config.Selects line := by
  rw [Rule.appliesTo, Bool.and_eq_true, h.positive.all_iff, h.negative.not_any_iff]
  exact ⟨fun ⟨hpositive, hnegative⟩ => ⟨hpositive, hnegative⟩,
    fun ⟨hpositive, hnegative⟩ => ⟨hpositive, hnegative⟩⟩

/-- A description that is about a line makes one thing of it. -/
theorem Makes.unique
    {outcome' : LineOutcome}
    (h : config.Makes line outcome)
    (h' : config.Makes line outcome') :
    outcome = outcome' := by
  cases h with
  | keep hname =>
    cases h' with
    | keep => rfl
    | delete hname' | template hname' | verbatim hname' => cases names_unique hname hname'
  | delete hname =>
    cases h' with
    | delete => rfl
    | keep hname' | template hname' | verbatim hname' => cases names_unique hname hname'
  | template hname hreplacement hsource hne hcompile =>
    cases h' with
    | keep hname' | delete hname' => cases names_unique hname hname'
    | template _ hreplacement' hsource' _ hcompile' =>
      cases hreplacement.symm.trans hreplacement'
      cases hsource.symm.trans hsource'
      cases hcompile.symm.trans hcompile'
      rfl
    | verbatim _ _ hblank =>
      exact absurd hblank (not_isBlank (present?_eq_some_iff.2 ⟨hsource, hne⟩))
  | verbatim hname hreplacement hblank =>
    cases h' with
    | keep hname' | delete hname' => cases names_unique hname hname'
    | template _ _ hsource hne =>
      exact absurd hblank (not_isBlank (present?_eq_some_iff.2 ⟨hsource, hne⟩))
    | verbatim _ hreplacement' =>
      cases hreplacement.symm.trans hreplacement'
      rfl

/-- The rule makes of a line what its description does. -/
theorem Describes.makes
    (h : config.Describes rule)
    (line : List Char) :
    config.Makes line ⟨rule.action.lineAction, rule.apply line⟩ := by
  obtain ⟨haction, hpositive, -⟩ := h
  obtain ⟨action, positive, negative⟩ := rule
  cases haction with
  | keep hname => exact .keep hname
  | delete hname => exact .delete hname
  | modify hname hreplacement =>
    cases hpositive with
    | nothing hnone => exact .verbatim hname hreplacement (present?_eq_none_iff.1 hnone)
    | expression hsource hcompile =>
      obtain ⟨hpattern, hne⟩ := present?_eq_some_iff.1 hsource
      exact .template hname hreplacement hpattern hne hcompile

/-- Rules make of every line what their descriptions do. -/
theorem reads_iff
    (h : List.Forall₂ Describes configs rules)
    (line : List Char) (outcome : LineOutcome) :
    Reads configs line outcome ↔ Rule.evaluate rules line = outcome := by
  induction h with
  | nil =>
    constructor
    · rintro ⟨⟩
      rfl
    · rintro rfl
      exact .untouched
  | cons hdescribes _ ih =>
    rw [Rule.evaluate_cons]
    constructor
    · rintro (_ | ⟨hselects, hmakes⟩ | ⟨hselects, hreads⟩)
      · rw [if_pos (hdescribes.appliesTo_iff.2 hselects)]
        exact (hdescribes.makes line).unique hmakes
      · rw [if_neg (hdescribes.appliesTo_iff.not.2 hselects)]
        exact ih.1 hreads
    · split_ifs with happlies
      · rintro rfl
        exact .here (hdescribes.appliesTo_iff.1 happlies) (hdescribes.makes line)
      · exact fun heval => .later (hdescribes.appliesTo_iff.not.1 happlies) (ih.2 heval)

/-- Rules are built exactly if no description has a fault.  If one has, the error is that of the first
such description, found by its first check that fails, and names its position.  If there are rules, they
make of every line what the descriptions do. -/
theorem buildAll_reads
    (configs : List RuleConfig) :
    ((∃ rules, buildAll configs = .ok rules) ↔ ∀ config ∈ configs, config.Passes) ∧
      (∀ e, buildAll configs = .error e ↔
        ∃ before config after check, configs = before ++ config :: after ∧
          (∀ earlier ∈ before, earlier.Passes) ∧
            FirstFault before.length config check e ∧ e.index = before.length) ∧
      ∀ rules, buildAll configs = .ok rules → ∀ line outcome,
        Reads configs line outcome ↔ Rule.evaluate rules line = outcome := by
  refine ⟨exists_buildFrom_iff 0 configs, fun e => ?_, fun rules h => ?_⟩
  · rw [buildAll, buildFrom_eq_error_iff]
    simp only [Nat.zero_add]
    constructor
    · rintro ⟨before, config, after, check, hsplit, hbefore, hfirst⟩
      exact ⟨before, config, after, check, hsplit, hbefore, hfirst, hfirst.fault.index_eq⟩
    · rintro ⟨before, config, after, check, hsplit, hbefore, hfirst, -⟩
      exact ⟨before, config, after, check, hsplit, hbefore, hfirst⟩
  · exact reads_iff (describes_of_buildFrom h).2

/-- An empty pattern counts as absent, so the dollar sign of the second description is plain text. -/
theorem buildAll_reads_two_descriptions :
    let configs : List RuleConfig :=
      [⟨"Maintain ".toList, some ['a'], some ['b'], none⟩,
        ⟨"modify".toList, some [], none, some ['$', '1']⟩]
    (∀ config ∈ configs, config.Passes) ∧
      Reads configs ['a'] ⟨.keep, some ['a']⟩ ∧
        Reads configs ['a', 'b'] ⟨.modify, some ['$', '1']⟩ := by
  intro configs
  have hevaluate : (buildAll configs).toOption.map (fun rules => (Rule.evaluate rules ['a'],
      Rule.evaluate rules ['a', 'b'])) = some (⟨.keep, some ['a']⟩, ⟨.modify, some ['$', '1']⟩) := by
    decide +kernel
  obtain ⟨hbuilds, -, hreads⟩ := buildAll_reads configs
  cases hrules : buildAll configs with
  | error e =>
    rw [hrules] at hevaluate
    cases hevaluate
  | ok rules =>
    rw [hrules] at hevaluate
    obtain ⟨hfirst, hsecond⟩ := Prod.mk.inj (Option.some.inj hevaluate)
    exact ⟨hbuilds.1 ⟨rules, hrules⟩, (hreads rules hrules _ _).2 hfirst,
      (hreads rules hrules _ _).2 hsecond⟩

end RuleConfig
end LineSieve
