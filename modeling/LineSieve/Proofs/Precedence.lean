import LineSieve.RunPlan
import Mathlib.Tactic

/-!
# Command line before settings

A value on the command line takes the place of the setting with the same meaning.  One pair of values
is an exception: where the settings ask for files to be processed in place, they are, also if the
command line names an output directory.
-/

namespace LineSieve
namespace RulesFile

variable {file : RulesFile} {overrides : Overrides} {rules : List Rule} {plan : RunPlan}

/-- If the rules can be built, only the output directory can be missing. -/
theorem plan_eq_map_output
    (hrules : RuleConfig.buildAll file.rules = .ok rules)
    (overrides : Overrides) :
    file.plan overrides = (output file.settings overrides).map fun output =>
      { config :=
          { rules
            output
            parallelism := .fromThreadCount (overrides.threads.getD file.settings.threads)
            keepPermissions := file.settings.keepPermissions }
        pattern := overrides.pattern.getD file.settings.pattern
        recursive := file.settings.recursive && !overrides.noRecursion } := by
  rw [RulesFile.plan, hrules]
  cases output file.settings overrides <;> rfl

/-- The plan and the place for processed files exist together. -/
theorem exists_plan_of_output
    (hrules : RuleConfig.buildAll file.rules = .ok rules)
    {place : Output}
    (hplace : output file.settings overrides = .ok place) :
    ∃ plan, file.plan overrides = .ok plan ∧ plan.config.output = place := by
  rw [plan_eq_map_output hrules, hplace]
  exact ⟨_, rfl, rfl⟩

theorem output_eq_inPlace
    (h : overrides.inPlace = true ∨ file.settings.inPlace = true) :
    output file.settings overrides = .ok .inPlace := by
  have hplace : (overrides.inPlace || file.settings.inPlace) = true := by simpa using h
  rw [output, hplace, if_pos rfl]

theorem output_eq_of_not_inPlace
    (h : overrides.inPlace = false)
    (h' : file.settings.inPlace = false) :
    output file.settings overrides =
      match overrides.outputDirectory.or file.settings.outputDirectory with
      | some directory => .ok (.directory directory (overrides.layout.getD file.settings.layout))
      | none => .error .missingOutputDirectory := by
  rw [output, h, h']
  rfl

/-- In every directory that files are written to, the layout is the one that takes precedence. -/
theorem layout_eq_of_output
    {directory : Path} {layout : Layout}
    (h : output file.settings overrides = .ok (.directory directory layout)) :
    layout = overrides.layout.getD file.settings.layout := by
  unfold output at h
  split_ifs at h
  · cases h
  · split at h <;> cases h
    rfl

/-- What the command line says decides, and where it says nothing the settings do; but an output
directory on the command line counts only if the settings do not ask for files to be processed in
place. -/
theorem plan_under_overrides
    (hrules : RuleConfig.buildAll file.rules = .ok rules)
    (hone : overrides.inPlace = true → overrides.outputDirectory = none) :
    (overrides.inPlace = true →
      ∃ plan, file.plan overrides = .ok plan ∧ plan.config.output = .inPlace) ∧
    (∀ directory, overrides.outputDirectory = some directory →
      ∃ plan, file.plan overrides = .ok plan ∧
        (plan.config.output =
            .directory directory (overrides.layout.getD file.settings.layout) ↔
          file.settings.inPlace = false) ∧
        (plan.config.overwritesSource = true ↔ file.settings.inPlace = true)) ∧
    (overrides.inPlace = false → overrides.outputDirectory = none →
      (file.plan overrides = .error .missingOutputDirectory ↔
        file.settings.inPlace = false ∧ file.settings.outputDirectory = none) ∧
      (file.settings.inPlace = true →
        ∃ plan, file.plan overrides = .ok plan ∧ plan.config.output = .inPlace) ∧
      ∀ directory, file.settings.inPlace = false → file.settings.outputDirectory = some directory →
        ∃ plan, file.plan overrides = .ok plan ∧
          plan.config.output =
            .directory directory (overrides.layout.getD file.settings.layout)) ∧
    ∀ plan, file.plan overrides = .ok plan →
      plan.config.rules = rules ∧
      (∀ directory layout, plan.config.output = .directory directory layout →
        layout = overrides.layout.getD file.settings.layout) ∧
      plan.config.parallelism =
        .fromThreadCount (overrides.threads.getD file.settings.threads) ∧
      plan.config.keepPermissions = file.settings.keepPermissions ∧
      plan.pattern = overrides.pattern.getD file.settings.pattern ∧
      plan.recursive = if overrides.noRecursion then false else file.settings.recursive := by
  refine ⟨fun hplace => exists_plan_of_output hrules (output_eq_inPlace (Or.inl hplace)), ?_, ?_, ?_⟩
  · intro directory hdirectory
    have hnot : overrides.inPlace = false := by
      rw [← Bool.not_eq_true]
      intro hplace
      rw [hone hplace] at hdirectory
      cases hdirectory
    cases hsettings : file.settings.inPlace with
    | true =>
      obtain ⟨plan, hplan, houtput⟩ :=
        exists_plan_of_output hrules (output_eq_inPlace (Or.inr hsettings))
      refine ⟨plan, hplan, ?_, ?_⟩
      · simp [houtput]
      · simp [Config.overwritesSource, houtput]
    | false =>
      have houtput := output_eq_of_not_inPlace hnot hsettings
      rw [hdirectory, Option.some_or] at houtput
      obtain ⟨plan, hplan, houtput⟩ := exists_plan_of_output hrules houtput
      refine ⟨plan, hplan, ?_, ?_⟩
      · simp [houtput]
      · simp [Config.overwritesSource, houtput]
  · intro hnot hnone
    refine ⟨?_, fun hsettings => exists_plan_of_output hrules (output_eq_inPlace (Or.inr hsettings)),
      fun directory hsettings hdirectory => ?_⟩
    · rw [plan_eq_map_output hrules]
      cases hsettings : file.settings.inPlace with
      | true => simp [output_eq_inPlace (Or.inr hsettings), Except.map]
      | false =>
        rw [output_eq_of_not_inPlace hnot hsettings, hnone, Option.none_or]
        cases file.settings.outputDirectory <;> simp [Except.map]
    · apply exists_plan_of_output hrules
      rw [output_eq_of_not_inPlace hnot hsettings, hnone, hdirectory, Option.none_or]
  · intro plan hplan
    rw [plan_eq_map_output hrules] at hplan
    cases houtput : output file.settings overrides with
    | error e =>
      rw [houtput] at hplan
      cases hplan
    | ok place =>
      rw [houtput] at hplan
      cases hplan
      refine ⟨rfl, ?_, rfl, rfl, rfl, ?_⟩
      · rintro directory layout rfl
        exact layout_eq_of_output houtput
      · cases overrides.noRecursion <;> simp

theorem plan_under_overrides_directory :
    RuleConfig.buildAll [] = .ok [] ∧
      ∃ plan, RulesFile.plan ⟨.initial, []⟩ ⟨false, some ⟨['o']⟩, none, some 1, none, true⟩ =
          .ok plan ∧
        plan.config.output = .directory ⟨['o']⟩ .flat ∧
        plan.config.parallelism = .fromThreadCount 1 ∧
        plan.recursive = false := by
  have hall := @plan_under_overrides ⟨.initial, []⟩ ⟨false, some ⟨['o']⟩, none, some 1, none, true⟩
    [] rfl (by simp)
  obtain ⟨plan, hplan, houtput, -⟩ := hall.2.1 ⟨['o']⟩ rfl
  obtain ⟨-, -, hparallelism, -, -, hrecursive⟩ := hall.2.2.2 plan hplan
  exact ⟨rfl, plan, hplan, houtput.2 rfl, hparallelism, hrecursive⟩

/-- The settings ask for files to be processed in place, the command line names a directory, and the
originals are overwritten. -/
theorem plan_overwrites_despite_directory :
    (RulesFile.plan ⟨{ Settings.initial with inPlace := true }, []⟩
      ⟨false, some ⟨['o']⟩, none, none, none, false⟩).toOption.map (·.config.output) =
        some .inPlace := rfl

end RulesFile
end LineSieve
