import LineSieve.CommandLine.Basic

/-!
# Reading a command line

The arguments are read from left to right.  The value of an option and a row of paths are kept pending
until the next option, or a path after a value, is read, and are only then looked at.  So a fault in a
value yields to an unknown option right behind it.  After `--` every argument is a path.
-/

namespace LineSieve
namespace CommandLine

/-- What has been read but not looked at yet. -/
inductive Pending
  | nothing
  /-- An option, with its value once that has been read. -/
  | option (option : ValueOption) (value : Option (List Char))
  | paths (texts : List (List Char))
  deriving Repr, DecidableEq

/-- What has been read so far. -/
structure Reading where
  /-- How often `--verbose` was given. -/
  verbose : Nat
  quiet : Bool
  inPlace : Bool
  noRecursion : Bool
  rulesFile : Option Path
  outputDirectory : Option Path
  layout : Option Layout
  threads : Option Nat
  pattern : Option (List Char)
  format : Option ReportFormat
  paths : List Path
  pending : Pending
  deriving Repr, DecidableEq

namespace Reading

def start : Reading :=
  ⟨0, false, false, false, none, none, none, none, none, none, [], .nothing⟩

/-- The greatest number up to which `--verbose` is counted. -/
def verboseLimit : Nat := 255

/-- The value of an option that may be given once. -/
def once {α : Type} (earlier : Option α) (read : List Char → Except UsageError α)
    (text : List Char) : Except UsageError (Option α) :=
  match earlier with
  | some _ => .error .conflict
  | none => (read text).map some

/-- Take the value of an option. -/
def store (r : Reading) (option : ValueOption) (text : List Char) : Except UsageError Reading :=
  match option with
  | .rulesFile => do return { r with rulesFile := ← once r.rulesFile readPath text }
  | .outputDirectory =>
    do return { r with outputDirectory := ← once r.outputDirectory readPath text }
  | .layout => do return { r with layout := ← once r.layout (readName Layout.ofName?) text }
  | .threads => do return { r with threads := ← once r.threads readNumber text }
  | .pattern => do return { r with pattern := ← once r.pattern .ok text }
  | .format => do return { r with format := ← once r.format (readName ReportFormat.ofName?) text }

/-- Look at what is pending. -/
def settle (r : Reading) : Except UsageError Reading :=
  match r.pending with
  | .nothing => .ok r
  | .option _ none => .error .invalidValue
  | .option option (some text) => { r with pending := .nothing }.store option text
  | .paths texts => do
    return { r with paths := r.paths ++ (← texts.mapM readPath), pending := .nothing }

/-- Take a switch, which may be given once. -/
def turnOn (r : Reading) : Switch → Except UsageError Reading
  | .inPlace => if r.inPlace then .error .conflict else .ok { r with inPlace := true }
  | .noRecursion => if r.noRecursion then .error .conflict else .ok { r with noRecursion := true }
  | .quiet => if r.quiet then .error .conflict else .ok { r with quiet := true }

/-- Take an option with the value that is attached to it. -/
def takeValue (r : Reading) (option : ValueOption) (text : List Char) :
    Except UsageError Reading := do
  (← r.settle).store option text

/-- Take an option whose value is the next argument. -/
def awaitValue (r : Reading) (option : ValueOption) : Except UsageError Reading := do
  return { ← r.settle with pending := .option option none }

/-- Take an option that stands without a value. -/
def takeOption (r : Reading) (kind : OptionKind) : Except UsageError Reading :=
  match kind with
  | .value option => r.awaitValue option
  | .help => r.settle >>= fun _ => .error .helpRequested
  | .version => r.settle >>= fun _ => .error .versionRequested
  | .verbose => do
    let r ← r.settle
    return { r with verbose := min (r.verbose + 1) verboseLimit }
  | .switch switch => r.settle >>= fun r => r.turnOn switch

/-- Take an argument that is neither an option nor the value of one. -/
def takePath (r : Reading) (text : List Char) : Except UsageError Reading :=
  match r.pending with
  | .paths texts => .ok { r with pending := .paths (texts ++ [text]) }
  | _ => do return { ← r.settle with pending := .paths [text] }

/-- Take an argument that does not begin like an option. -/
def takePlain (r : Reading) (text : List Char) : Except UsageError Reading :=
  match r.pending with
  | .option option none => .ok { r with pending := .option option (some text) }
  | _ => r.takePath text

/-- Take what stands after two hyphens: a name, maybe with a value after an equals sign. -/
def takeLong (level : Level) (r : Reading) (text : List Char) : Except UsageError Reading :=
  match longOption? level (text.takeWhile (· != '=')), text.dropWhile (· != '=') with
  | none, _ => .error .unknownOption
  | some kind, [] => r.takeOption kind
  | some (.value option), _ :: value => r.takeValue option value
  | some _, _ :: _ => .error .unneededValue

/-- Take letters after one hyphen.  What follows the letter of an option with a value is its value, an
equals sign in front of it aside. -/
def takeShort (level : Level) (r : Reading) : List Char → Except UsageError Reading
  | [] => .ok r
  | letter :: rest =>
    match shortOption? level letter, rest with
    | none, _ => .error .unknownOption
    | some (.value option), '=' :: value => r.takeValue option value
    | some (.value option), c :: value => r.takeValue option (c :: value)
    | some kind, rest => do takeShort level (← r.takeOption kind) rest

/-- Read the arguments after the command. -/
def readRun (r : Reading) : List (List Char) → Except UsageError Reading
  | [] => r.settle
  | ['-', '-'] :: rest => do (← rest.foldlM takePath r).settle
  | ('-' :: '-' :: text) :: rest => do readRun (← r.takeLong .run text) rest
  | ('-' :: c :: text) :: rest => do readRun (← r.takeShort .run (c :: text)) rest
  | text :: rest => do readRun (← r.takePlain text) rest

/-- Check that no two options exclude each other and that there is a path. -/
def check (r : Reading) : Except UsageError Unit :=
  if r.inPlace && r.outputDirectory.isSome then .error .conflict
  else if r.paths.isEmpty then .error .missingPaths
  else .ok ()

/-- The command line whose options before the command and after it have been read.  For `--verbose` what
stands after the command counts, if it stands there. -/
def commandLine (before run : Reading) : CommandLine where
  verbosity := if run.verbose = 0 then before.verbose else run.verbose
  quiet := run.quiet || before.quiet
  paths := run.paths
  rulesFile := run.rulesFile.getD defaultRulesFile
  overrides :=
    ⟨run.inPlace, run.outputDirectory, run.layout, run.threads, run.pattern, run.noRecursion⟩
  format := run.format.getD .pretty

end Reading

def runCommand : List Char := "run".toList

def helpCommand : List Char := "help".toList

def isCommand (text : List Char) : Bool := text == runCommand || text == helpCommand

/-- What a request for help with a command comes to. -/
def explain : List (List Char) → UsageError
  | [] => .helpRequested
  | [command] => if isCommand command then .helpRequested else .unknownCommand
  | _ => .unknownCommand

/-- What a command line without a command comes to. -/
def withoutCommand (before : Reading) : UsageError :=
  if before = .start then .nothingGiven else .missingCommand

/-- Read the arguments from the start. -/
def readFrom (before : Reading) : List (List Char) → Except UsageError CommandLine
  | [] => .error (withoutCommand before)
  | text :: rest =>
    if text = runCommand then do
      let run ← Reading.start.readRun rest
      run.check
      return before.commandLine run
    else if text = helpCommand then .error (explain rest)
    else
      match text with
      | ['-', '-'] =>
        match rest with
        | [] => .error (withoutCommand before)
        | next :: _ => .error (if isCommand next then .unknownOption else .unknownCommand)
      | '-' :: '-' :: name => do readFrom (← before.takeLong .beforeCommand name) rest
      | '-' :: c :: letters => do
        readFrom (← before.takeShort .beforeCommand (c :: letters)) rest
      | _ => .error .unknownCommand

/-- Read a command line, without the program's name. -/
def parse (arguments : List (List Char)) : Except UsageError CommandLine :=
  readFrom .start arguments

end CommandLine
end LineSieve
