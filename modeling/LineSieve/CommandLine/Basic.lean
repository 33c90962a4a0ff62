import LineSieve.RunPlan

/-!
# Command lines

The program has one command, `run`, with paths and options; `help` only explains.  Options are named in
full after two hyphens or by one letter after one hyphen.  The options `--verbose` and `--quiet` may
also stand before the command.
-/

namespace LineSieve

/-- How results are reported. -/
inductive ReportFormat
  | pretty
  | json
  deriving Repr, DecidableEq

def ReportFormat.name : ReportFormat → String
  | .pretty => "pretty"
  | .json => "json"

def ReportFormat.ofName? (name : List Char) : Option ReportFormat :=
  [pretty, json].find? fun format => format.name.toList == name

/-- What a command line asks for. -/
structure CommandLine where
  /-- How many times more should be logged. -/
  verbosity : Nat
  quiet : Bool
  /-- Files and directories, in the given order. -/
  paths : List Path
  rulesFile : Path
  overrides : Overrides
  format : ReportFormat
  deriving Repr, DecidableEq

/-- Why a command line does not start a run. -/
inductive UsageError
  | helpRequested
  | versionRequested
  | nothingGiven
  | missingCommand
  | missingPaths
  | unknownCommand
  | unknownOption
  /-- Two options exclude each other, or one is given twice. -/
  | conflict
  /-- A value is missing, empty where it must not be, or none of those that an option knows. -/
  | invalidValue
  | malformedNumber
  /-- An option that takes no value is given one. -/
  | unneededValue
  deriving Repr, DecidableEq

namespace CommandLine

/-- The rules file where none is named. -/
def defaultRulesFile : Path := .ofString "textfiddle.toml"

/-- The program's name and version. -/
def versionText : String := "textfiddle 0.1.0\n"

/-- How the program is used. -/
def helpText : String :=
  "Keep, delete or modify lines of text files with ordered regex rules\n\n" ++
  "Usage: textfiddle [-v]... [-q] run [OPTIONS] <PATHS>...\n\n" ++
  "  -c, --config <FILE>       Rules file [default: textfiddle.toml]\n" ++
  "      --in-place            Overwrite the processed files\n" ++
  "  -o, --output-dir <DIR>    Write processed files into this directory\n" ++
  "      --layout <LAYOUT>     Paths inside the output directory: flat, mirrored\n" ++
  "  -j, --threads <N>         Workers for directories, 0 for one per processor\n" ++
  "  -p, --pattern <GLOB>      Only process files whose name matches\n" ++
  "      --no-recursive        Do not descend into subdirectories\n" ++
  "      --format <FORMAT>     Report format: pretty, json [default: pretty]\n" ++
  "  -v, --verbose             Log more; may be repeated\n" ++
  "  -q, --quiet               Log nothing\n" ++
  "  -h, --help                Print this help\n" ++
  "  -V, --version             Print the version\n"

/-- An option that is either given or not. -/
inductive Switch
  | inPlace
  | noRecursion
  | quiet
  deriving Repr, DecidableEq

/-- An option with a value. -/
inductive ValueOption
  | rulesFile
  | outputDirectory
  | layout
  | threads
  | pattern
  | format
  deriving Repr, DecidableEq

/-- What an option does. -/
inductive OptionKind
  | help
  | version
  /-- Counts how often it is given. -/
  | verbose
  | switch (switch : Switch)
  | value (option : ValueOption)
  deriving Repr, DecidableEq

/-- Where an option stands. -/
inductive Level
  | beforeCommand
  | run
  deriving Repr, DecidableEq

/-- The options that may stand at a level, by their full names. -/
def longNames : Level → List (String × OptionKind)
  | .beforeCommand =>
    [("help", .help), ("version", .version), ("verbose", .verbose), ("quiet", .switch .quiet)]
  | .run =>
    [("help", .help), ("verbose", .verbose), ("quiet", .switch .quiet),
      ("in-place", .switch .inPlace), ("no-recursive", .switch .noRecursion),
      ("config", .value .rulesFile), ("output-dir", .value .outputDirectory),
      ("layout", .value .layout), ("threads", .value .threads), ("pattern", .value .pattern),
      ("format", .value .format)]

/-- The options that may stand at a level, by their letters. -/
def shortNames : Level → List (Char × OptionKind)
  | .beforeCommand =>
    [('h', .help), ('V', .version), ('v', .verbose), ('q', .switch .quiet)]
  | .run =>
    [('h', .help), ('v', .verbose), ('q', .switch .quiet), ('c', .value .rulesFile),
      ('o', .value .outputDirectory), ('j', .value .threads), ('p', .value .pattern)]

def longOption? (level : Level) (name : List Char) : Option OptionKind :=
  ((longNames level).find? fun entry => entry.1.toList == name).map (·.2)

def shortOption? (level : Level) (letter : Char) : Option OptionKind :=
  (shortNames level).lookup letter

/-! ### Values -/

/-- A path, which must not be empty. -/
def readPath (text : List Char) : Except UsageError Path :=
  if text.isEmpty then .error .invalidValue else .ok ⟨text⟩

/-- The numbers of workers that can be asked for. -/
def threadLimit : Nat := 18446744073709551616

/-- The number that digits write, possibly after a plus sign. -/
def readNumber (text : List Char) : Except UsageError Nat :=
  let digits :=
    match text with
    | '+' :: digits => digits
    | digits => digits
  let n := digits.foldl (fun n c => n * 10 + (c.toNat - '0'.toNat)) 0
  if digits.isEmpty || !digits.all Char.isDigit || threadLimit ≤ n then .error .malformedNumber
  else .ok n

/-- One of the names that an option knows. -/
def readName {α : Type} (ofName? : List Char → Option α) (text : List Char) :
    Except UsageError α :=
  match ofName? text with
  | some value => .ok value
  | none => .error .invalidValue

end CommandLine

end LineSieve
