import LineSieve.Number.Binary64

/-!
# Decimal text of binary numbers

`Binary64.shortest` is the decimal with the fewest digits that reads back as the given number, and of
those the nearest one.  `Binary64.written` lays it out: with a point and no exponent from `0.00001` up
to below `10 ^ 16`, otherwise with one digit before the point and an exponent.  `Binary64.tenths`
writes the exact value rounded to one place.

`Written.readScaled` is how a fast reader takes such text: all digits make one integer, which is then
multiplied or divided once by a power of ten.  That rounds more than once, so the number it gives is
not always the one that was written.
-/

namespace LineSieve

/-- The decimal number `digits * 10 ^ exponent`. -/
structure Decimal where
  digits : Nat
  exponent : Int
  deriving Repr, DecidableEq

namespace Decimal

def toFraction (d : Decimal) : Fraction := (Fraction.mk d.digits 1).scale 10 d.exponent

/-- The number nearest to the decimal. -/
def nearest (d : Decimal) : Binary64 := .ofFraction d.toFraction

end Decimal

/-- The decimal digits of an integer. -/
def decimalDigits (n : Nat) : List Char := Nat.toDigits 10 n

/-- The position of the first digit of a fraction: the number lies below ten to this power, and not
below ten to the next smaller one. -/
def Fraction.magnitude (x : Fraction) : Int :=
  if x.denominator ≤ x.numerator then (decimalDigits (x.numerator / x.denominator)).length
  else 1 - (decimalDigits ((x.denominator - 1) / x.numerator)).length

/-- A number of this many digits tells any two numbers of the format apart. -/
def Binary64.enoughDigits : Nat := 17

namespace Binary64

/-- The decimals with a number of digits on both sides of a number, the nearer one first. -/
def candidates (x : Fraction) (digits : Nat) : List Decimal :=
  let exponent := x.magnitude - digits
  let scaled := x.scale 10 (-exponent)
  let below := scaled.numerator / scaled.denominator
  if scaled.round = below then [⟨below, exponent⟩, ⟨below + 1, exponent⟩]
  else [⟨below + 1, exponent⟩, ⟨below, exponent⟩]

/-- The first candidate that reads back, with at least the given number of digits; `more` bounds how
many digits are added. -/
def shortestFrom (x : Binary64) (digits : Nat) : Nat → Decimal
  | 0 => ⟨x.significand, 0⟩
  | more + 1 =>
    match (candidates x.toFraction digits).find? fun d => d.nearest == x with
    | some d => if d.digits = Nat.pow 10 digits then ⟨1, d.exponent + digits⟩ else d
    | none => shortestFrom x (digits + 1) more

/-- The shortest decimal that reads back as the number. -/
def shortest (x : Binary64) : Decimal :=
  if x.significand = 0 then ⟨0, 0⟩ else shortestFrom x 1 enoughDigits

end Binary64

/-- A decimal number as it is laid out. -/
structure Written where
  whole : List Char
  /-- The digits after the point; without any there is no point. -/
  fraction : List Char
  /-- Absent if the number is written without an exponent. -/
  exponent : Option Int
  deriving Repr, DecidableEq

namespace Written

def exponentText (exponent : Int) : List Char :=
  if exponent < 0 then 'e' :: '-' :: decimalDigits exponent.natAbs
  else 'e' :: decimalDigits exponent.natAbs

def text (w : Written) : List Char :=
  w.whole ++ (if w.fraction.isEmpty then [] else '.' :: w.fraction) ++
    (w.exponent.map exponentText).getD []

/-- The integer that digits write. -/
def digitsValue (digits : List Char) : Nat :=
  digits.foldl (fun n c => n * 10 + (c.toNat - '0'.toNat)) 0

/-- The number that comes of taking all digits as an integer and scaling it once. -/
def readScaled (w : Written) : Binary64 :=
  let exponent := w.exponent.getD 0 - w.fraction.length
  let significand := Binary64.ofNat (digitsValue (w.whole ++ w.fraction))
  let power := Binary64.ofNat (Nat.pow 10 exponent.natAbs)
  if 0 ≤ exponent then significand.mul power else significand.div power

end Written

namespace Decimal

/-- Lay a decimal out. -/
def written (d : Decimal) : Written :=
  let digits := decimalDigits d.digits
  let point : Int := digits.length + d.exponent
  if 0 ≤ d.exponent ∧ point ≤ 16 then
    ⟨digits ++ List.replicate d.exponent.toNat '0', ['0'], none⟩
  else if 0 < point ∧ point ≤ 16 then
    ⟨digits.take point.toNat, digits.drop point.toNat, none⟩
  else if -5 < point ∧ point ≤ 0 then
    ⟨['0'], List.replicate point.natAbs '0' ++ digits, none⟩
  else ⟨digits.take 1, digits.drop 1, some (point - 1)⟩

end Decimal

namespace Binary64

/-- The number as it is laid out. -/
def written (x : Binary64) : Written := x.shortest.written

/-- The exact value rounded to one place after the point. -/
def tenths (x : Binary64) : List Char :=
  let rounded := (x.toFraction.scale 10 1).round
  decimalDigits (rounded / 10) ++ '.' :: decimalDigits (rounded % 10)

/-- Whether a fast reader takes the text of a number as the number itself. -/
def survivesReading (x : Binary64) : Bool := x.written.readScaled == x

end Binary64

end LineSieve
