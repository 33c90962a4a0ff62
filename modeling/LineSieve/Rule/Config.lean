import LineSieve.Rule.Basic
import LineSieve.Text.Blank

/-!
# Building rules from their description

A description gives the name of the action, up to two expressions and a replacement, all as text.
`RuleConfig.build` checks the action, the replacement, the positive expression, the groups that the
replacement refers to, and the negative expression, in this order, and reports the first fault.
`RuleConfig.buildAll` stops at the first description with a fault.
-/

namespace LineSieve

/-- The description of a rule, not yet checked. -/
structure RuleConfig where
  action : List Char
  positive : Option (List Char)
  negative : Option (List Char)
  replacement : Option (List Char)
  deriving Repr, DecidableEq

/-- What is wrong with a description; `index` is its position in the list, from zero. -/
inductive RuleError
  | unknownAction (index : Nat) (action : List Char)
  | invalidPattern (index : Nat) (pattern : List Char)
  | missingReplacement (index : Nat)
  | unknownGroup (index : Nat) (group : List Char)
  deriving Repr, DecidableEq

namespace RuleError

/-- The text of an error.  Positions are shown from one. -/
def message : RuleError → String
  | unknownAction index action =>
    "rule #" ++ toString (index + 1) ++ ": unrecognized line action '" ++
      String.ofList action ++ "'"
  | invalidPattern index pattern =>
    "rule #" ++ toString (index + 1) ++ ": invalid regex '" ++ String.ofList pattern ++ "': "
  | missingReplacement index =>
    "rule #" ++ toString (index + 1) ++ ": modify rules need a replacement"
  | unknownGroup index group =>
    "rule #" ++ toString (index + 1) ++ ": replacement references unknown group '" ++
      String.ofList group ++
      "' (use $\x7b1\x7d to put text right after a group number)"

end RuleError

namespace Template

/-- The part of a text after its first dollar sign. -/
def afterDollar? (text : List Char) : Option (List Char) :=
  match text.dropWhile (· != '$') with
  | [] => none
  | _ :: rest => some rest

/-- The text of one reference that follows a dollar sign, empty if none does, and what is left. -/
def referenceHere (text : List Char) : List Char × List Char :=
  match text with
  | '$' :: rest => ([], rest)
  | '\x7b' :: inner =>
    if inner.contains '\x7d' then
      (inner.takeWhile (· != '\x7d'), (inner.dropWhile (· != '\x7d')).drop 1)
    else ([], text)
  | _ => (text.takeWhile isNameChar, text.dropWhile isNameChar)

theorem afterDollar?_length
    {text rest : List Char} (h : afterDollar? text = some rest) :
    rest.length < text.length := by
  unfold afterDollar? at h
  split at h
  · simp at h
  · rename_i c t ht
    have := (List.dropWhile_suffix (l := text) (· != '$')).length_le
    simp only [Option.some.injEq] at h
    subst h
    simp only [ht, List.length_cons] at this
    omega

theorem referenceHere_length
    (text : List Char) :
    (referenceHere text).2.length ≤ text.length := by
  unfold referenceHere
  split
  · simp
  · rename_i inner
    split
    · have := (List.dropWhile_suffix (l := inner) (· != '\x7d')).length_le
      simp only [List.length_drop, List.length_cons]
      omega
    · simp
  · exact (List.dropWhile_suffix (l := text) isNameChar).length_le

/-- All references of a template in order, empty ones included. -/
def scan (template : List Char) : List (List Char) :=
  match _h : afterDollar? template with
  | none => []
  | some rest => (referenceHere rest).1 :: scan (referenceHere rest).2
termination_by template.length
decreasing_by
  have h₁ := afterDollar?_length _h
  have h₂ := referenceHere_length rest
  omega

/-- The texts of the references of a template, without empty ones. -/
def references (template : List Char) : List (List Char) :=
  (scan template).filter fun reference => !reference.isEmpty

end Template

namespace Regex

/-- Whether the expression has the group that a reference means. -/
def hasGroup (re : Regex) (reference : List Char) : Bool :=
  match GroupRef.ofText reference with
  | .number n => n < re.groupNames.length
  | .name name => re.groupNames.any (· == some name)

end Regex

namespace RuleConfig

/-- The action's name as it is compared: trimmed, and ASCII letters in lower case. -/
def actionName (config : RuleConfig) : List Char :=
  (Text.trim config.action).map Char.toLower

/-- An expression that is present; an empty one counts as absent. -/
def present? (pattern : Option (List Char)) : Option (List Char) :=
  pattern.filter fun p => !p.isEmpty

/-- The action of the description. -/
def action? (index : Nat) (config : RuleConfig) : Except RuleError RuleAction :=
  let name := config.actionName
  if name = "keep".toList ∨ name = "maintain".toList then .ok .keep
  else if name = "delete".toList then .ok .delete
  else if name = "modify".toList then
    match config.replacement with
    | some replacement => .ok (.modify replacement)
    | none => .error (.missingReplacement index)
  else .error (.unknownAction index config.action)

/-- The expression of a pattern, if there is a pattern. -/
def expression? (index : Nat) (pattern : Option (List Char)) : Except RuleError (Option Regex) :=
  match present? pattern with
  | none => .ok none
  | some source =>
    match Regex.compile? source with
    | some re => .ok (some re)
    | none => .error (.invalidPattern index source)

/-- Check that an expression has every group that the action's replacement refers to. -/
def checkGroups (index : Nat) (action : RuleAction) (re : Option Regex) : Except RuleError Unit :=
  match action, re with
  | .modify template, some re =>
    match (Template.references template).find? fun reference => !re.hasGroup reference with
    | some reference => .error (.unknownGroup index reference)
    | none => .ok ()
  | _, _ => .ok ()

/-- The rule of a description, or what is wrong with it. -/
def build (index : Nat) (config : RuleConfig) : Except RuleError Rule := do
  let action ← config.action? index
  let positive ← expression? index config.positive
  checkGroups index action positive
  let negative ← expression? index config.negative
  pure ⟨action, positive, negative⟩

/-- The rules of descriptions that start at a position. -/
def buildFrom (index : Nat) : List RuleConfig → Except RuleError (List Rule)
  | [] => .ok []
  | config :: rest => do
    let rule ← config.build index
    let rules ← buildFrom (index + 1) rest
    pure (rule :: rules)

/-- The rules of all descriptions in order, or the first fault. -/
def buildAll (configs : List RuleConfig) : Except RuleError (List Rule) := buildFrom 0 configs

end RuleConfig

end LineSieve
