import LineSieve.Dispatch
import Mathlib.Logic.Relation

/-!
# Workers and their steps

Processing one file as a sequence of steps, each of which looks at the file system once or changes
it once.  A pool holds the file system and one worker for every file that a walk has found; in each
step of the pool any worker that has not finished may take its next step.

Making the directories of a destination goes upwards first: a directory that cannot be made because
the one above it is missing waits until that one has been made.  In between other workers may make
the same directories, so an attempt that fails for any other reason is followed by a look whether
the directory is there now.
-/

namespace LineSieve
namespace Process

open FileSystem

/-- Where a worker stands with its file. -/
inductive Phase
  | waiting
  /-- About to make the first directory of a list, which is followed by those above it; the missing
  ones lie below it. -/
  | probing (target parent : Path) (directories missing : List Path)
  /-- About to look whether a directory is there, since it could not be made. -/
  | checking (target parent directory : Path) (cause : IoError) (missing : List Path)
  /-- About to make the missing directories, the uppermost one first. -/
  | making (target parent : Path) (missing : List Path)
  | creating (target : Path)
  | opening (target : Path)
  /-- About to write the remaining pieces.  An open file keeps its content when something else takes
  its place. -/
  | writing (target : Path) (sifting : Sifting) (pieces : List (List Char))
  | granting (target : Path) (counts : ActionCounts)
  | publishing (target : Path) (counts : ActionCounts)
  | dropping (target : Path) (cause : FileError) (counts : ActionCounts)
  | finished (result : FileResult)
  deriving Repr, DecidableEq

namespace Phase

def isFinished : Phase → Bool
  | finished _ => true
  | _ => false

/-- Whether the file is being worked on. -/
def isRunning : Phase → Bool
  | waiting => false
  | finished _ => false
  | _ => true

def result? : Phase → Option FileResult
  | finished result => some result
  | _ => none

/-- Whether a worker has a scratch file. -/
def hasScratch : Phase → Bool
  | opening _ | writing _ _ _ | granting _ _ | publishing _ _ | dropping _ _ _ => true
  | _ => false

end Phase

/-- The first step: the path is checked and the destination worked out. -/
def depart (config : Config) (fs : FileSystem) (root path : Path) : Phase :=
  match checkPath fs false path with
  | .error e => .finished ⟨path, none, some e, .zero⟩
  | .ok () =>
    match config.output with
    | .inPlace =>
      match inPlaceTarget fs path with
      | .ok target => .creating target
      | .error e => .finished ⟨path, none, some e, .zero⟩
    | .directory directory layout =>
      match outputPath? directory layout (some root) path with
      | none => .finished ⟨path, none, some (.invalidPath (.noFileName path)), .zero⟩
      | some target =>
        match directoryOf? target with
        | none => .creating target
        | some parent => .probing target parent parent.ancestors []

/-- The next step of a worker with its file. -/
def advance (config : Config) (root : Path) (worker : Nat) (path : Path) (fs : FileSystem) :
    Phase → FileSystem × Phase
  | .waiting => (fs, depart config fs root path)
  | .probing _ parent [] _ => (fs, .finished ⟨path, none, some (.io parent .notFound), .zero⟩)
  | .probing target parent (directory :: above) missing =>
    if directory.text.isEmpty then (fs, .making target parent missing)
    else
      match fs.makeDirectory directory with
      | .ok fs => (fs, .making target parent missing)
      | .error .notFound => (fs, .probing target parent above (directory :: missing))
      | .error cause => (fs, .checking target parent directory cause missing)
  | .checking target parent directory cause missing =>
    if fs.isDirectory directory then (fs, .making target parent missing)
    else (fs, .finished ⟨path, none, some (.io parent cause), .zero⟩)
  | .making target _ [] => (fs, .creating target)
  | .making target parent (directory :: missing) =>
    match fs.makeDirectory directory with
    | .ok fs => (fs, .making target parent missing)
    | .error cause => (fs, .checking target parent directory cause missing)
  | .creating target =>
    match fs.createScratch worker (scratchDirectory target) with
    | .ok fs => (fs, .opening target)
    | .error e => (fs, .finished ⟨path, some target, some (.io (scratchDirectory target) e), .zero⟩)
  | .opening target =>
    match fs.contentOf path with
    | .ok content =>
      (fs, .writing target (sift config.rules content) (sift config.rules content).written)
    | .error e => (fs, .dropping target (.io path e) .zero)
  | .writing target sifting (piece :: pieces) =>
    (fs.appendScratch worker (Utf8.encode piece), .writing target sifting pieces)
  | .writing target sifting [] =>
    match sifting.fault with
    | some fault => (fs, .dropping target (.io path (.invalidText fault)) sifting.counts)
    | none =>
      if config.keepPermissions then (fs, .granting target sifting.counts)
      else (fs, .publishing target sifting.counts)
  | .granting target counts =>
    match fs.modeOf path with
    | .ok mode => (fs.setScratchMode worker mode, .publishing target counts)
    | .error e => (fs, .dropping target (.io path e) counts)
  | .publishing target counts =>
    match fs.publishScratch worker target with
    | .ok fs => (fs, .finished ⟨path, some target, none, counts⟩)
    | .error e => (fs, .dropping target (.io target e) counts)
  | .dropping target cause counts =>
    (fs.discardScratch worker, .finished ⟨path, some target, some cause, counts⟩)
  | .finished result => (fs, .finished result)

/-- What a step of a worker can do to the file system. -/
inductive Does (worker : Nat) (path : Path) (fs : FileSystem) (phase : Phase) :
    FileSystem → Phase → Prop
  | looks
      {next : Phase}
      (hscratch : next.hasScratch = phase.hasScratch) :
      Does worker path fs phase fs next
  | makes
      {later : FileSystem} {next : Phase} {directory : Path}
      (hmake : fs.makeDirectory directory = .ok later)
      (hscratch : next.hasScratch = phase.hasScratch) :
      Does worker path fs phase later next
  | creates
      {later : FileSystem} {next : Phase} {directory : Path}
      (hcreate : fs.createScratch worker directory = .ok later)
      (hscratch : next.hasScratch = true) :
      Does worker path fs phase later next
  | writes
      {next : Phase}
      (bytes : List UInt8)
      (hscratch : next.hasScratch = true) :
      Does worker path fs phase (fs.appendScratch worker bytes) next
  | grants
      {next : Phase}
      (mode : Nat)
      (hscratch : next.hasScratch = true) :
      Does worker path fs phase (fs.setScratchMode worker mode) next
  | publishes
      {later : FileSystem} {target : Path}
      (hpublish : fs.publishScratch worker target = .ok later)
      (counts : ActionCounts) :
      Does worker path fs phase later (.finished ⟨path, some target, none, counts⟩)
  | drops
      (result : FileResult) :
      Does worker path fs phase (fs.discardScratch worker) (.finished result)

theorem hasScratch_depart
    (config : Config) (fs : FileSystem) (root path : Path) :
    (depart config fs root path).hasScratch = false := by
  unfold depart
  repeat' split
  all_goals rfl

theorem does_advance
    (config : Config) (root : Path) (worker : Nat) (path : Path) (fs : FileSystem) (phase : Phase) :
    Does worker path fs phase (advance config root worker path fs phase).1
      (advance config root worker path fs phase).2 := by
  cases phase with
  | waiting => exact .looks (hasScratch_depart config fs root path)
  | finished result => exact .looks rfl
  | probing target parent directories missing =>
    cases directories with
    | nil => exact .looks rfl
    | cons directory above =>
      simp only [advance]
      split
      · exact .looks rfl
      · split
        next hmake => exact .makes hmake rfl
        all_goals exact .looks rfl
  | checking target parent directory cause missing =>
    simp only [advance]
    split <;> exact .looks rfl
  | making target parent missing =>
    cases missing with
    | nil => exact .looks rfl
    | cons directory missing =>
      simp only [advance]
      split
      next hmake => exact .makes hmake rfl
      next => exact .looks rfl
  | creating target =>
    simp only [advance]
    split
    next hcreate => exact .creates hcreate rfl
    next => exact .looks rfl
  | opening target =>
    simp only [advance]
    split <;> exact .looks rfl
  | writing target sifting pieces =>
    cases pieces with
    | cons piece pieces => exact .writes _ rfl
    | nil =>
      simp only [advance]
      split
      · exact .looks rfl
      · split <;> exact .looks rfl
  | granting target counts =>
    simp only [advance]
    split
    · exact .grants _ rfl
    · exact .looks rfl
  | publishing target counts =>
    simp only [advance]
    split
    next hpublish => exact .publishes hpublish counts
    next => exact .looks rfl
  | dropping target cause counts => exact .drops _

/-- A worker that has not finished takes a step while nobody else does anything. -/
def Moves (config : Config) (root : Path) (worker : Nat) (path : Path)
    (before after : FileSystem × Phase) : Prop :=
  before.2.isFinished = false ∧ advance config root worker path before.1 before.2 = after

/-- A worker takes any number of steps while nobody else does anything. -/
abbrev Leads (config : Config) (root : Path) (worker : Nat) (path : Path) :
    FileSystem × Phase → FileSystem × Phase → Prop :=
  Relation.ReflTransGen (Moves config root worker path)

end Process

namespace Dispatch

open Process

/-- A worker with its file. -/
structure Worker where
  path : Path
  phase : Phase
  deriving Repr, DecidableEq

/-- The file system and the workers of a run. -/
structure Pool where
  fs : FileSystem
  workers : List Worker

namespace Pool

/-- No file has been touched. -/
def start (fs : FileSystem) (paths : List Path) : Pool :=
  ⟨fs, paths.map fun path => ⟨path, .waiting⟩⟩

/-- The number of files that are being worked on. -/
def running (pool : Pool) : Nat := pool.workers.countP fun worker => worker.phase.isRunning

/-- Whether one more file may be begun. -/
def HasRoom (parallelism : Parallelism) (pool : Pool) : Prop :=
  parallelism.numThreads = 0 ∨ pool.running < parallelism.numThreads

/-- Whether all files are done. -/
def IsComplete (pool : Pool) : Prop := ∀ worker ∈ pool.workers, worker.phase.isFinished = true

/-- What is reported, in the order of the workers. -/
def results (pool : Pool) : List FileResult :=
  pool.workers.filterMap fun worker => worker.phase.result?

/-- The state after a step of one worker. -/
def after (config : Config) (root : Path) (pool : Pool) (index : Nat) (worker : Worker) : Pool :=
  let moved := advance config root index worker.path pool.fs worker.phase
  ⟨moved.1, pool.workers.set index ⟨worker.path, moved.2⟩⟩

/-- Some worker that has not finished takes its next step; to begin a file, there must be room. -/
inductive Step (config : Config) (parallelism : Parallelism) (root : Path) : Pool → Pool → Prop
  | move
      {pool : Pool} {index : Nat} {worker : Worker}
      (hget : pool.workers[index]? = some worker)
      (hopen : worker.phase.isFinished = false)
      (hroom : worker.phase = .waiting → HasRoom parallelism pool) :
      Step config parallelism root pool (pool.after config root index worker)

/-- The states that a pool can get to. -/
abbrev Reaches (config : Config) (parallelism : Parallelism) (root : Path) : Pool → Pool → Prop :=
  Relation.ReflTransGen (Step config parallelism root)

end Pool
end Dispatch
end LineSieve
