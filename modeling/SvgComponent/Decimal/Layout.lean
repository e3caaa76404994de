/-
This file writes a floating-point number as text.
-/

import SvgComponent.Decimal.Shortest

namespace SvgComponent.Decimal

/-- The texts of the values that have no digits. -/
structure Layout where
  notANumber : String
  infinity : String

namespace Layout

def zeros (count : Nat) : List Char :=
  List.replicate count '0'

/-- An exponent has a sign and at least two digits. -/
def exponentText (exponent : Int) : List Char :=
  let digits := Nat.toDigits 10 exponent.natAbs
  (if exponent < 0 then '-' else '+') :: (zeros (2 - digits.length) ++ digits)

/-- A decimal is written out from the fourth place after the point to the sixteenth before it.
A whole number keeps one zero after the point. Outside this range one digit stands before the
point and an exponent follows. -/
def digitsText (decimal : Scientific) : List Char :=
  let digits := Nat.toDigits 10 decimal.digits
  let place := decimal.exponent + digits.length
  if -4 < place ∧ place ≤ 16 then
    if place ≤ 0 then '0' :: '.' :: (zeros (-place).toNat ++ digits)
    else
      let whole := digits.take place.toNat
      let part := digits.drop place.toNat
      whole ++ zeros (place.toNat - digits.length) ++ '.' :: (if part.isEmpty then ['0'] else part)
  else
    let part := digits.drop 1
    digits.take 1 ++ (if part.isEmpty then [] else '.' :: part) ++
      'e' :: exponentText (place - 1)

def write (texts : Layout) (number : Binary64) : String :=
  if number.isNaN then texts.notANumber
  else
    let sign := if number.isNegative then "-" else ""
    sign ++ if number.isInfinite then texts.infinity
      else if number.isZero then "0.0"
      else String.ofList (digitsText (Shortest.decimal number))

end Layout
end SvgComponent.Decimal
