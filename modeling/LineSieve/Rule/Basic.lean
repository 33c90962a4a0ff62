import LineSieve.Action
import LineSieve.Regex.Template

/-!
# Rules

A rule says what happens to a line that its positive expression matches and its negative expression
does not match; an expression that is absent puts no condition.  Of a list of rules the first one
that applies decides, and a line to which none applies is kept.
-/

namespace LineSieve

/-- The action of a rule. -/
inductive RuleAction
  | keep
  | delete
  /-- Replace the matches of the positive expression, or the whole line if there is none. -/
  | modify (replacement : List Char)
  deriving Repr, DecidableEq

def RuleAction.lineAction : RuleAction → LineAction
  | .keep => .keep
  | .delete => .delete
  | .modify _ => .modify

structure Rule where
  action : RuleAction
  positive : Option Regex
  negative : Option Regex

/-- What a list of rules makes of a line; the text is absent when the line is deleted. -/
structure LineOutcome where
  action : LineAction
  text : Option (List Char)
  deriving Repr, DecidableEq

namespace Rule

/-- Whether the rule is the one for a line, as far as its own conditions go. -/
def appliesTo (rule : Rule) (line : List Char) : Bool :=
  rule.positive.all (·.isMatch line) && !rule.negative.any (·.isMatch line)

/-- What the rule makes of a line to which it applies. -/
def apply (rule : Rule) (line : List Char) : Option (List Char) :=
  match rule.action, rule.positive with
  | .keep, _ => some line
  | .delete, _ => none
  | .modify replacement, some re => some (re.replaceAll replacement line)
  | .modify replacement, none => some replacement

/-- The outcome for a line, by the first of the rules that applies to it. -/
def evaluate (rules : List Rule) (line : List Char) : LineOutcome :=
  match rules.find? (·.appliesTo line) with
  | some rule => ⟨rule.action.lineAction, rule.apply line⟩
  | none => ⟨.keep, some line⟩

end Rule

end LineSieve
