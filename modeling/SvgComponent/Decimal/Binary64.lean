/-
This file reads the fields of a 64-bit floating-point number and rounds decimals to one.
-/

namespace SvgComponent.Decimal

/-- A floating-point number in its 64-bit interchange form. -/
structure Binary64 where
  bits : UInt64
  deriving DecidableEq, Inhabited

namespace Binary64

def signPlace : Nat := Nat.pow 2 63

def hiddenBit : Nat := Nat.pow 2 52

def largestField : Nat := 2047

def isNegative (number : Binary64) : Bool :=
  signPlace ≤ number.bits.toNat

def exponentField (number : Binary64) : Nat :=
  number.bits.toNat / hiddenBit % (largestField + 1)

def fraction (number : Binary64) : Nat :=
  number.bits.toNat % hiddenBit

def isNaN (number : Binary64) : Bool :=
  number.exponentField = largestField && number.fraction ≠ 0

def isInfinite (number : Binary64) : Bool :=
  number.exponentField = largestField && number.fraction = 0

def isZero (number : Binary64) : Bool :=
  number.exponentField = 0 && number.fraction = 0

/-- The magnitude of a finite number is `significand * 2 ^ scale` units of `2 ^ (-1074)`. -/
def significand (number : Binary64) : Nat :=
  if number.exponentField = 0 then number.fraction else hiddenBit + number.fraction

def scale (number : Binary64) : Nat :=
  number.exponentField - 1

/-- The weight of the least unit is `1 / units`. -/
def units : Nat := Nat.pow 2 1074

def ofMagnitude (negative : Bool) (magnitude : Nat) : Binary64 :=
  ⟨UInt64.ofNat (if negative then signPlace + magnitude else magnitude)⟩

def infinity (negative : Bool) : Binary64 :=
  ofMagnitude negative (largestField * hiddenBit)

def notANumber : Binary64 :=
  ofMagnitude false (largestField * hiddenBit + hiddenBit / 2)

/-- The nearest integer to a quotient. A half goes to the even neighbour. -/
def nearest (numerator denominator : Nat) : Nat :=
  let quotient := numerator / denominator
  let twice := 2 * (numerator % denominator)
  if twice < denominator then quotient
  else if denominator < twice then quotient + 1
  else quotient + quotient % 2

/-- The number nearest to a positive quotient, as the bits of its magnitude. A rounded significand
that reaches the next power of two carries into the exponent field by the addition. -/
def roundQuotient (numerator denominator : Nat) : Nat :=
  let counted := numerator * units
  let guess := Nat.log2 (counted / denominator) - 52
  let magnitude := guess * hiddenBit + nearest counted (denominator * Nat.pow 2 guess)
  min magnitude (largestField * hiddenBit)

/-- The number nearest to `digits * 10 ^ exponent`. Exponents far outside the range are not
expanded. -/
def ofDecimal (negative : Bool) (digits : Nat) (exponent : Int) : Binary64 :=
  let places := exponent + (Nat.toDigits 10 digits).length
  if digits = 0 ∨ places < -330 then ofMagnitude negative 0
  else if 310 < places then infinity negative
  else ofMagnitude negative <|
    roundQuotient (digits * Nat.pow 10 exponent.toNat) (Nat.pow 10 (-exponent).toNat)

end Binary64
end SvgComponent.Decimal
