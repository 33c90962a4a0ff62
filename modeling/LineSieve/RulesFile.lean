import LineSieve.Config
import LineSieve.Rule.Config
import LineSieve.Toml.Parser

/-!
# Rules files

A rules file is a TOML file with a table `settings` and an array `rule` of rule descriptions.
Everything may be left out but the action of a rule, and other keys are passed over.  A record may also
be given as an array of its fields in order; the settings may then stop early, a rule may not.
-/

namespace LineSieve

/-- The settings of a rules file. -/
structure Settings where
  inPlace : Bool
  outputDirectory : Option Path
  layout : Layout
  /-- Zero asks for one worker per processor. -/
  threads : Nat
  /-- The file name pattern for directories. -/
  pattern : List Char
  recursive : Bool
  keepPermissions : Bool
  deriving Repr, DecidableEq

/-- The settings where the file says nothing. -/
def Settings.initial : Settings := ⟨false, none, .flat, 0, ['*'], true, true⟩

structure RulesFile where
  settings : Settings
  rules : List RuleConfig
  deriving Repr, DecidableEq

namespace Toml

def string? : Toml → Option (List Char)
  | .string value => some value
  | _ => none

def boolean? : Toml → Option Bool
  | .boolean value => some value
  | _ => none

def natural? : Toml → Option Nat
  | .integer value => if 0 ≤ value then some value.toNat else none
  | _ => none

/-- Whether a value is an array or a table without anything in it. -/
def isVacant : Toml → Bool
  | .array _ items => items.isEmpty
  | .table _ fields => fields.isEmpty
  | _ => false

/-- One name out of several, given as text or as the only key of a table without content. -/
def choice? : Toml → Option (List Char)
  | .string name => some name
  | .table _ [(name, content)] => if content.isVacant then some name else none
  | _ => none

/-- What is given for each field of a record.  A date counts as a record that gives nothing. -/
def given? (names : List String) (mayStopEarly : Bool) : Toml → Option (List (Option Toml))
  | .table _ fields => some (names.map fun name => fields.lookup name.toList)
  | .array _ items =>
    if mayStopEarly || names.length ≤ items.length then
      some ((List.range names.length).map fun i => items[i]?)
    else none
  | .moment => some (names.map fun _ => none)
  | _ => none

/-- The value of a field that may be left out. -/
def optional? {α : Type} (decode : Toml → Option α) : Option Toml → Option (Option α)
  | none => some none
  | some value => (decode value).map some

/-- The value of a field, or a default where it is left out. -/
def orDefault? {α : Type} (decode : Toml → Option α) (default : α) (given : Option Toml) : Option α :=
  (optional? decode given).map (·.getD default)

end Toml

namespace Layout

def ofName? (name : List Char) : Option Layout :=
  [flat, mirrored].find? fun layout => layout.name.toList == name

def ofToml? (value : Toml) : Option Layout := value.choice?.bind ofName?

end Layout

namespace Settings

def fieldNames : List String :=
  ["in_place", "output_dir", "layout", "threads", "pattern", "recursive", "keep_permissions"]

def ofToml? (value : Toml) : Option Settings := do
  match ← value.given? fieldNames true with
  | [inPlace, outputDirectory, layout, threads, pattern, recursive, keepPermissions] =>
    let inPlace ← Toml.orDefault? Toml.boolean? initial.inPlace inPlace
    let outputDirectory ← Toml.optional? Toml.string? outputDirectory
    let layout ← Toml.orDefault? Layout.ofToml? initial.layout layout
    let threads ← Toml.orDefault? Toml.natural? initial.threads threads
    let pattern ← Toml.orDefault? Toml.string? initial.pattern pattern
    let recursive ← Toml.orDefault? Toml.boolean? initial.recursive recursive
    let keepPermissions ← Toml.orDefault? Toml.boolean? initial.keepPermissions keepPermissions
    return ⟨inPlace, outputDirectory.map .mk, layout, threads, pattern, recursive, keepPermissions⟩
  | _ => none

end Settings

namespace RuleConfig

def fieldNames : List String := ["action", "match", "unless", "replacement"]

def ofToml? (value : Toml) : Option RuleConfig := do
  match ← value.given? fieldNames false with
  | [some action, positive, negative, replacement] =>
    let action ← action.string?
    let positive ← Toml.optional? Toml.string? positive
    let negative ← Toml.optional? Toml.string? negative
    let replacement ← Toml.optional? Toml.string? replacement
    return ⟨action, positive, negative, replacement⟩
  | _ => none

/-- The rules of an array. -/
def listOfToml? : Toml → Option (List RuleConfig)
  | .array _ items => items.mapM ofToml?
  | _ => none

end RuleConfig

namespace RulesFile

/-- The rules file with the given fields. -/
def ofFields? (fields : Toml.Fields) : Option RulesFile := do
  let settings ←
    Toml.orDefault? Settings.ofToml? .initial (fields.lookup "settings".toList)
  let rules ← Toml.orDefault? RuleConfig.listOfToml? [] (fields.lookup "rule".toList)
  return ⟨settings, rules⟩

/-- Read a rules file. -/
def parse? (text : List Char) : Option RulesFile := (Toml.parse? text).bind ofFields?

end RulesFile

end LineSieve
