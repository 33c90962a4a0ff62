import LineSieve.FileSystem.Basic
import LineSieve.RulesFile

/-!
# Run plans

A run plan is everything that a run needs to know: the configuration, the file name pattern and
whether directories are walked to any depth.  It comes from a rules file and from what the command line
says, which takes precedence over the settings of the file.
-/

namespace LineSieve

/-- What the command line says about a run. -/
structure Overrides where
  inPlace : Bool
  outputDirectory : Option Path
  layout : Option Layout
  threads : Option Nat
  pattern : Option (List Char)
  noRecursion : Bool
  deriving Repr, DecidableEq

structure RunPlan where
  config : Config
  pattern : List Char
  recursive : Bool

/-- Why there is no plan. -/
inductive LoadError
  | unreadable (cause : IoError)
  /-- The rules file is no TOML, or its values are not of the right kind. -/
  | malformed
  | rule (error : RuleError)
  | missingOutputDirectory
  deriving Repr, DecidableEq

def LoadError.message : LoadError → String
  | unreadable cause => "failed to read config: " ++ cause.message
  | malformed => "failed to parse config: "
  | rule error => "failed to build rule: " ++ error.message
  | missingOutputDirectory =>
    "an output directory is required unless files are rewritten in place"

namespace RulesFile

/-- Where processed files go. -/
def output (settings : Settings) (overrides : Overrides) : Except LoadError Output :=
  if overrides.inPlace || settings.inPlace then .ok .inPlace
  else
    match overrides.outputDirectory.or settings.outputDirectory with
    | some directory => .ok (.directory directory (overrides.layout.getD settings.layout))
    | none => .error .missingOutputDirectory

/-- The plan of a rules file under what the command line says. -/
def plan (file : RulesFile) (overrides : Overrides) : Except LoadError RunPlan := do
  let rules ← (RuleConfig.buildAll file.rules).mapError .rule
  let output ← output file.settings overrides
  let parallelism := Parallelism.fromThreadCount (overrides.threads.getD file.settings.threads)
  let config := ⟨rules, output, parallelism, file.settings.keepPermissions⟩
  return ⟨config, overrides.pattern.getD file.settings.pattern,
    file.settings.recursive && !overrides.noRecursion⟩

end RulesFile

/-- Read a rules file and make a plan. -/
def RunPlan.load (fs : FileSystem) (path : Path) (overrides : Overrides) :
    Except LoadError RunPlan := do
  let text ← (fs.readText path).mapError .unreadable
  match RulesFile.parse? text with
  | some file => file.plan overrides
  | none => .error .malformed

end LineSieve
