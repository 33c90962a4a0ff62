/-!
# Binary floating point

A non-negative number of the 64-bit binary format is a significand below `2 ^ 53` times a power of
two.  Every operation takes the exact result, which is a fraction of integers, and rounds it to the
nearest number of the format; of two that are equally near it takes the one with the even
significand.  Numbers too large for the format do not occur here and are not cut off.
-/

namespace LineSieve

/-- The integer nearest to a fraction, and of two the even one. -/
def roundQuotient (numerator denominator : Nat) : Nat :=
  let quotient := numerator / denominator
  let remainder := numerator % denominator
  if 2 * remainder < denominator then quotient
  else if denominator < 2 * remainder then quotient + 1
  else quotient + quotient % 2

/-- The number `significand * 2 ^ exponent`. -/
structure Binary64 where
  significand : Nat
  exponent : Int
  deriving Repr, DecidableEq

/-- A fraction of integers; the denominator is not zero. -/
structure Fraction where
  numerator : Nat
  denominator : Nat
  deriving Repr, DecidableEq

namespace Fraction

/-- A fraction times a power of a base. -/
def scale (x : Fraction) (base : Nat) (exponent : Int) : Fraction :=
  if 0 ≤ exponent then ⟨x.numerator * Nat.pow base exponent.toNat, x.denominator⟩
  else ⟨x.numerator, x.denominator * Nat.pow base (-exponent).toNat⟩

def add (x y : Fraction) : Fraction :=
  ⟨x.numerator * y.denominator + y.numerator * x.denominator, x.denominator * y.denominator⟩

def mul (x y : Fraction) : Fraction :=
  ⟨x.numerator * y.numerator, x.denominator * y.denominator⟩

/-- A quotient; the second fraction is not zero. -/
def div (x y : Fraction) : Fraction :=
  ⟨x.numerator * y.denominator, x.denominator * y.numerator⟩

/-- The integer nearest to the fraction, and of two the even one. -/
def round (x : Fraction) : Nat := roundQuotient x.numerator x.denominator

end Fraction

namespace Binary64

/-- The least exponent of the format. -/
def minExponent : Int := -1074

/-- The least number that has more bits than a significand. -/
def significandLimit : Nat := 9007199254740992

/-- The least integer whose nearest number would be too large for the format. -/
def infiniteFrom : Nat := Nat.pow 2 1024 - Nat.pow 2 970

def zero : Binary64 := ⟨0, minExponent⟩

/-- The exact value. -/
def toFraction (x : Binary64) : Fraction := (Fraction.mk x.significand 1).scale 2 x.exponent

/-- The exponent at which a fraction has a significand of 53 bits, or the least one. -/
def exponentFor (x : Fraction) : Int :=
  let low : Int := (Nat.log2 x.numerator : Int) - Nat.log2 x.denominator - 53
  let scaled := x.scale 2 (-low)
  let exponent := if scaled.numerator < significandLimit * scaled.denominator then low else low + 1
  max exponent minExponent

/-- The number nearest to a fraction. -/
def ofFraction (x : Fraction) : Binary64 :=
  if x.numerator = 0 then zero
  else
    let exponent := exponentFor x
    let significand := (x.scale 2 (-exponent)).round
    if significand = significandLimit then ⟨significandLimit / 2, exponent + 1⟩
    else ⟨significand, exponent⟩

def ofNat (n : Nat) : Binary64 := ofFraction ⟨n, 1⟩

def add (x y : Binary64) : Binary64 := ofFraction (x.toFraction.add y.toFraction)

def mul (x y : Binary64) : Binary64 := ofFraction (x.toFraction.mul y.toFraction)

def div (x y : Binary64) : Binary64 := ofFraction (x.toFraction.div y.toFraction)

end Binary64

end LineSieve
