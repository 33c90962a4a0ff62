import LineSieve.CommandLine.Parser
import LineSieve.Dispatch
import LineSieve.Report.Basic

/-!
# Running the program

A run reads its rules file, makes a plan, processes its targets and reports the results.  It stops with
a fatal error if there is no plan, the targets are refused or a pool of workers does not start; otherwise
its exit status says whether every file was processed.
-/

namespace LineSieve

/-- Why a run stops without a report. -/
inductive FatalError
  | load (error : LoadError)
  | dispatch (error : DispatchError)
  deriving Repr, DecidableEq

def FatalError.message : FatalError → String
  | load error => error.message
  | dispatch error => error.message

/-- What the program leaves behind. -/
inductive Outcome
  /-- A report is printed. -/
  | reported (format : ReportFormat) (results : List FileResult)
  | failed (error : FatalError)
  /-- The command line did not start a run. -/
  | notStarted (error : UsageError)
  deriving Repr, DecidableEq

namespace CommandLine

/-- Process what a command line asks for.  `startPool` tells what comes of starting a pool of so many
workers for a directory. -/
def process (startPool : Nat → Path → PoolStart) (command : CommandLine) (fs : FileSystem) :
    FileSystem × Except FatalError (List FileResult) :=
  match RunPlan.load fs command.rulesFile command.overrides with
  | .error e => (fs, .error (.load e))
  | .ok plan =>
    match Dispatch.runTargets (startPool plan.config.parallelism.numThreads) plan.config fs
      command.paths plan.pattern plan.recursive with
    | (fs, .ok results) => (fs, .ok results)
    | (fs, .error e) => (fs, .error (.dispatch e))

end CommandLine

/-- The report of results in a format. -/
def ReportFormat.report (results : List TimedResult) : ReportFormat → String
  | .pretty => Report.pretty results
  | .json => Report.json results

namespace Outcome

/-- The exit status of the program. -/
def exitStatus : Outcome → Nat
  | reported _ results => if results.any fun r => !r.success then 1 else 0
  | failed _ => 2
  | notStarted .helpRequested => 0
  | notStarted .versionRequested => 0
  | notStarted _ => 2

/-- What the program prints, given the time in nanoseconds that each result took. -/
def text (time : Nat → Nat) : Outcome → String
  | reported format results => format.report (results.mapIdx fun i r => ⟨r, time i⟩)
  | notStarted .helpRequested => CommandLine.helpText
  | notStarted .versionRequested => CommandLine.versionText
  | _ => ""

/-- The text of the fatal error with which the program stops. -/
def fatalText? : Outcome → Option String
  | failed error => some error.message
  | _ => none

end Outcome

/-- Run the program on its arguments. -/
def run (startPool : Nat → Path → PoolStart) (fs : FileSystem) (arguments : List (List Char)) :
    FileSystem × Outcome :=
  match CommandLine.parse arguments with
  | .error e => (fs, .notStarted e)
  | .ok command =>
    match command.process startPool fs with
    | (fs, .ok results) => (fs, .reported command.format results)
    | (fs, .error e) => (fs, .failed e)

end LineSieve
