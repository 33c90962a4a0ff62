import LineSieve.Path
import LineSieve.Rule.Basic

/-!
# Run configuration

Everything a run needs: the rules, where processed files go, how many files are processed at a time,
and whether a published file takes over the permissions of its source.
-/

namespace LineSieve

/-- How the paths inside an output directory are derived. -/
inductive Layout
  /-- All files directly in the directory, under their own names. -/
  | flat
  /-- Every file under its path relative to the walked root. -/
  | mirrored
  deriving Repr, DecidableEq, Inhabited

def Layout.name : Layout → String
  | .flat => "flat"
  | .mirrored => "mirrored"

/-- Where processed files are published. -/
inductive Output
  /-- Every file is replaced by its processed version. -/
  | inPlace
  | directory (path : Path) (layout : Layout)
  deriving Repr, DecidableEq

/-- How many files are processed at a time. -/
inductive Parallelism
  | sequential
  | threads (count : Nat)
  /-- One worker for every processor. -/
  | auto
  deriving Repr, DecidableEq, Inhabited

namespace Parallelism

/-- The policy for a requested number of workers; zero requests one per processor. -/
def fromThreadCount : Nat → Parallelism
  | 0 => auto
  | 1 => sequential
  | count => threads count

/-- The number of workers to start; zero leaves the choice to the pool. -/
def numThreads : Parallelism → Nat
  | sequential => 1
  | threads count => count
  | auto => 0

def name : Parallelism → String
  | sequential => "sequential"
  | threads _ => "threads"
  | auto => "auto"

@[simp] theorem numThreads_fromThreadCount
    (count : Nat) :
    (fromThreadCount count).numThreads = count := by
  unfold fromThreadCount
  split <;> rfl

end Parallelism

structure Config where
  /-- The first rule that applies to a line decides. -/
  rules : List Rule
  output : Output
  parallelism : Parallelism
  keepPermissions : Bool

/-- Whether processed files replace their sources. -/
def Config.overwritesSource (config : Config) : Bool :=
  match config.output with
  | .inPlace => true
  | .directory _ _ => false

end LineSieve
