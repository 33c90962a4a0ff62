import LineSieve.Regex.Basic

/-!
# Replacement templates

A template is text with references to groups.  `$$` is a dollar sign; `$name` refers to the group
named by the longest run of ASCII letters, digits and low lines; `${name}` takes everything up to the
first closing brace.  A dollar sign that begins neither is plain text.

`Template.parts` cuts a template into plain text and references.  A reference that is a number means
the group with that number, any other the group of that name; a reference to a group that does not
exist, or took no part, expands to nothing.
-/

namespace LineSieve

/-- A group as a template names it. -/
inductive GroupRef
  | number (n : Nat)
  | name (name : List Char)
  deriving Repr, DecidableEq

namespace GroupRef

/-- The greatest number that counts as one. -/
def numberLimit : Nat := 18446744073709551615

/-- The value of decimal digits, if all characters are digits and there is at least one. -/
def digitsValue? (digits : List Char) : Option Nat :=
  if digits.isEmpty || !digits.all Char.isDigit then none
  else some (digits.foldl (fun n c => n * 10 + (c.toNat - '0'.toNat)) 0)

/-- The number that a text writes, with an optional plus sign in front. -/
def number? (text : List Char) : Option Nat :=
  let digits :=
    match text with
    | '+' :: rest => rest
    | _ => text
  (digitsValue? digits).filter (· ≤ numberLimit)

/-- The group that the text of a reference means. -/
def ofText (text : List Char) : GroupRef :=
  match number? text with
  | some n => .number n
  | none => .name text

end GroupRef

namespace Template

/-- Plain text, or the text of a reference. -/
inductive Part
  | plain (c : Char)
  | reference (text : List Char)
  deriving Repr, DecidableEq

def isNameChar (c : Char) : Bool := c.isAlphanum || c == '_'

/-- Split at the first closing brace. -/
def closingBrace? : List Char → Option (List Char × List Char)
  | [] => none
  | c :: rest =>
    if c = '\x7d' then some ([], rest)
    else (closingBrace? rest).map fun (inside, after) => (c :: inside, after)

theorem closingBrace?_length
    {text inside after : List Char} (h : closingBrace? text = some (inside, after)) :
    after.length < text.length := by
  induction text generalizing inside after with
  | nil => simp [closingBrace?] at h
  | cons c rest ih =>
    simp only [closingBrace?] at h
    split at h
    · simp only [Option.some.injEq, Prod.mk.injEq] at h
      obtain ⟨-, rfl⟩ := h
      simp
    · obtain ⟨⟨i, a⟩, hr, heq⟩ := Option.map_eq_some_iff.1 h
      simp only [Prod.mk.injEq] at heq
      obtain ⟨-, rfl⟩ := heq
      have := ih hr
      simp only [List.length_cons]
      omega

/-- The parts of a template in order. -/
def parts : List Char → List Part
  | [] => []
  | '$' :: '$' :: rest => .plain '$' :: parts rest
  | '$' :: '\x7b' :: rest =>
    match _h : closingBrace? rest with
    | some (inside, after) => .reference inside :: parts after
    | none => .plain '$' :: parts ('\x7b' :: rest)
  | '$' :: rest =>
    if (rest.takeWhile isNameChar).isEmpty then .plain '$' :: parts rest
    else .reference (rest.takeWhile isNameChar) :: parts (rest.dropWhile isNameChar)
  | c :: rest => .plain c :: parts rest
termination_by template => template.length
decreasing_by
  all_goals simp only [List.length_cons]
  · omega
  · have := closingBrace?_length _h; omega
  · omega
  · omega
  · have := (List.dropWhile_suffix (l := rest) isNameChar).length_le
    omega
  · omega

end Template

namespace Regex

/-- The number of a group with a name, by the names of the groups in order. -/
def groupIndex? (names : List (Option (List Char))) (name : List Char) : Option Nat :=
  names.findIdx? fun n => n == some name

/-- The number of the group that a reference means, if there is such a group. -/
def resolve? (re : Regex) : GroupRef → Option Nat
  | .number n => if n < re.groupNames.length then some n else none
  | .name name => groupIndex? re.groupNames name

/-- What a part of a template becomes for a match. -/
def expandPart (re : Regex) (piece : Piece) : Template.Part → List Char
  | .plain c => [c]
  | .reference text =>
    match re.resolve? (.ofText text) with
    | none => []
    | some group => ((piece.groups[group]?).join).getD []

/-- What a template becomes for a match. -/
def expand (re : Regex) (template : List Char) (piece : Piece) : List Char :=
  (Template.parts template).flatMap (re.expandPart piece)

/-- The text with every match replaced by the expansion of the template. -/
def replaceAll (re : Regex) (template text : List Char) : List Char :=
  let (pieces, last) := re.pieces none false text
  (pieces.flatMap fun piece => piece.skipped ++ re.expand template piece) ++ last

end Regex

end LineSieve
