import LineSieve.Number.Binary64
import LineSieve.Toml.Value

/-!
# Numbers, dates and words of TOML

A value that is neither quoted nor bracketed is one run of characters, except that a date and a time
may be divided by a space.  The functions here read a whole run.
-/

namespace LineSieve
namespace Toml

/-- Whether a character can stand in a value without quotes or brackets. -/
def isScalarChar (c : Char) : Bool :=
  c.isAlphanum || c == '_' || c == '+' || c == '-' || c == '.' || c == ':'

def isHexDigit (c : Char) : Bool :=
  c.isDigit || ('a'.toNat ≤ c.toNat && c.toNat ≤ 'f'.toNat) ||
    ('A'.toNat ≤ c.toNat && c.toNat ≤ 'F'.toNat)

def isOctalDigit (c : Char) : Bool := '0'.toNat ≤ c.toNat && c.toNat ≤ '7'.toNat

def isBinaryDigit (c : Char) : Bool := c == '0' || c == '1'

def digitValue (c : Char) : Nat :=
  if c.isDigit then c.toNat - '0'.toNat
  else if c.toNat < 'a'.toNat then c.toNat - 'A'.toNat + 10
  else c.toNat - 'a'.toNat + 10

/-- The number that digits write in a base. -/
def digitsValue (base : Nat) (digits : List Char) : Nat :=
  digits.foldl (fun n c => n * base + digitValue c) 0

/-- Digits without the underscores that stand singly between them. -/
def ungrouped? (isDigit : Char → Bool) : List Char → Option (List Char)
  | [] => none
  | [c] => if isDigit c then some [c] else none
  | c :: '_' :: rest => if isDigit c then (ungrouped? isDigit rest).map (c :: ·) else none
  | c :: rest => if isDigit c then (ungrouped? isDigit rest).map (c :: ·) else none

/-- Take a sign off; the flag says whether it is a minus. -/
def splitSign : List Char → Bool × List Char
  | '+' :: rest => (false, rest)
  | '-' :: rest => (true, rest)
  | text => (false, text)

/-- The digits of a decimal integer, which has no leading zeros. -/
def decimal? (text : List Char) : Option (List Char) :=
  match ungrouped? Char.isDigit text with
  | some ('0' :: _ :: _) => none
  | digits => digits

/-- The integers that fit in 64 bits with a sign. -/
def inRange (n : Int) : Bool := -9223372036854775808 ≤ n && n ≤ 9223372036854775807

/-- The integer with digits in a base. -/
def based? (base : Nat) (isDigit : Char → Bool) (text : List Char) : Option Int :=
  match ungrouped? isDigit text with
  | some digits =>
    let n : Int := digitsValue base digits
    if inRange n then some n else none
  | none => none

def integer? (text : List Char) : Option Int :=
  match text with
  | '0' :: 'x' :: digits => based? 16 isHexDigit digits
  | '0' :: 'o' :: digits => based? 8 isOctalDigit digits
  | '0' :: 'b' :: digits => based? 2 isBinaryDigit digits
  | text =>
    let (negative, unsigned) := splitSign text
    match decimal? unsigned with
    | some digits =>
      let size : Int := digitsValue 10 digits
      let n := if negative then -size else size
      if inRange n then some n else none
    | none => none

/-- The parts of a real number. -/
structure RealText where
  negative : Bool
  whole : List Char
  fraction : List Char
  exponent : Int

/-- The exponent after its letter. -/
def exponent? (text : List Char) : Option Int :=
  let (negative, unsigned) := splitSign text
  (ungrouped? Char.isDigit unsigned).map fun digits =>
    let size : Int := digitsValue 10 digits
    if negative then -size else size

def isDigitOrUnderscore (c : Char) : Bool := c.isDigit || c == '_'

def isExponentLetter (c : Char) : Bool := c == 'e' || c == 'E'

/-- The parts of a real number, which has a fraction, an exponent or both. -/
def realText? (text : List Char) : Option RealText :=
  let (negative, unsigned) := splitSign text
  match decimal? (unsigned.takeWhile isDigitOrUnderscore),
    unsigned.dropWhile isDigitOrUnderscore with
  | none, _ => none
  | some whole, '.' :: rest =>
    match ungrouped? Char.isDigit (rest.takeWhile isDigitOrUnderscore),
      rest.dropWhile isDigitOrUnderscore with
    | none, _ => none
    | some fraction, [] => some ⟨negative, whole, fraction, 0⟩
    | some fraction, c :: rest =>
      if isExponentLetter c then (exponent? rest).map (⟨negative, whole, fraction, ·⟩) else none
  | some whole, c :: rest =>
    if isExponentLetter c then (exponent? rest).map (⟨negative, whole, [], ·⟩) else none
  | some _, [] => none

/-- Whether a real number is so large that the nearest 64-bit binary number is infinite.  Exponents far
off the range are decided without computing the power. -/
def RealText.isInfinite (r : RealText) : Bool :=
  let digits := r.whole ++ r.fraction
  let significand := digitsValue 10 digits
  let exponent := r.exponent - r.fraction.length
  if significand = 0 then false
  else if 400 < exponent then true
  else if 0 ≤ exponent then Binary64.infiniteFrom ≤ significand * Nat.pow 10 exponent.toNat
  else if exponent + digits.length < 0 then false
  else Binary64.infiniteFrom * Nat.pow 10 (-exponent).toNat ≤ significand

/-- Whether the text is a real number.  A positive one must not be too large. -/
def isReal (text : List Char) : Bool :=
  let word := String.ofList (splitSign text).2
  if word == "inf" || word == "nan" then true
  else
    match realText? text with
    | some r => r.negative || !r.isInfinite
    | none => false

/-- Read a number of two digits. -/
def twoDigits? : List Char → Option (Nat × List Char)
  | a :: b :: rest =>
    if a.isDigit && b.isDigit then some (digitsValue 10 [a, b], rest) else none
  | _ => none

def daysIn (year month : Nat) : Nat :=
  let leap := year % 4 = 0 ∧ (year % 100 ≠ 0 ∨ year % 400 = 0)
  if month = 2 then if leap then 29 else 28
  else if month = 4 ∨ month = 6 ∨ month = 9 ∨ month = 11 then 30
  else 31

/-- Read a date. -/
def date? (text : List Char) : Option (List Char) := do
  let (century, text) ← twoDigits? text
  let (year, text) ← twoDigits? text
  match text with
  | '-' :: text =>
    let (month, text) ← twoDigits? text
    match text with
    | '-' :: text =>
      let (day, text) ← twoDigits? text
      if 1 ≤ month ∧ month ≤ 12 ∧ 1 ≤ day ∧ day ≤ daysIn (century * 100 + year) month then some text
      else none
    | _ => none
  | _ => none

/-- Read hours and minutes. -/
def hourAndMinute? (text : List Char) : Option (List Char) := do
  let (hour, text) ← twoDigits? text
  match text with
  | ':' :: text =>
    let (minute, text) ← twoDigits? text
    if hour < 24 ∧ minute < 60 then some text else none
  | _ => none

/-- Read a time with seconds and, if there is one, their fraction. -/
def time? (text : List Char) : Option (List Char) := do
  match ← hourAndMinute? text with
  | ':' :: text =>
    let (second, text) ← twoDigits? text
    if 60 < second then none
    else
      match text with
      | '.' :: c :: text => if c.isDigit then some (text.dropWhile Char.isDigit) else none
      | text => some text
  | _ => none

/-- Whether the text is an offset from universal time, or none at all. -/
def isOffset (text : List Char) : Bool :=
  match text with
  | [] => true
  | ['Z'] => true
  | ['z'] => true
  | '+' :: text => hourAndMinute? text == some []
  | '-' :: text => hourAndMinute? text == some []
  | _ => false

/-- Whether the text is a time, possibly with an offset. -/
def isTimeWithOffset (text : List Char) : Bool := (time? text).any isOffset

/-- Whether the text is a date, a time or both. -/
def isMoment (text : List Char) : Bool :=
  match date? text with
  | some [] => true
  | some (c :: rest) => (c == 'T' || c == 't') && isTimeWithOffset rest
  | none => time? text == some []

/-- The value that a run of characters is. -/
def scalar? (text : List Char) : Option Toml :=
  if text = "true".toList then some (.boolean true)
  else if text = "false".toList then some (.boolean false)
  else if isMoment text then some .moment
  else
    match integer? text with
    | some n => some (.integer n)
    | none => if isReal text then some .real else none

/-- Read a value without quotes or brackets. -/
def readScalar? (input : List Char) : Option (Toml × List Char) :=
  let run := input.takeWhile isScalarChar
  let rest := input.dropWhile isScalarChar
  match date? run, rest with
  | some [], ' ' :: more =>
    let time := more.takeWhile isScalarChar
    if time.isEmpty then some (.moment, rest)
    else if isTimeWithOffset time then some (.moment, more.dropWhile isScalarChar)
    else none
  | _, _ => (scalar? run).map fun value => (value, rest)

end Toml
end LineSieve
