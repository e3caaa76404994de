/-
This file finds the shortest decimal that rounds to a given floating-point number.
-/

import SvgComponent.Decimal.Binary64

namespace SvgComponent.Decimal

/-- The value of a decimal is `digits * 10 ^ exponent`. -/
structure Scientific where
  digits : Nat
  exponent : Int
  deriving DecidableEq

namespace Shortest

/-- An interval of decimals that round to one number, in quarters of the least unit. -/
structure Interval where
  low : Nat
  centre : Nat
  high : Nat
  closed : Bool

/-- Half the distance to each neighbour belongs to the number. The neighbour below a power of two
is half as far away, and the ends belong to even significands. -/
def interval (number : Binary64) : Interval :=
  let step := Nat.pow 2 number.scale
  let below := if number.fraction = 0 ∧ 0 < number.scale then 1 else 2
  ⟨(4 * number.significand - below) * step, 4 * number.significand * step,
    (4 * number.significand + 2) * step, number.significand % 2 = 0⟩

def quarters : Nat := 4 * Binary64.units

def Interval.contains (range : Interval) (scaledUp scaledDown candidate : Nat) : Bool :=
  let place := candidate * quarters * scaledUp
  let low := range.low * scaledDown
  let high := range.high * scaledDown
  if range.closed then low ≤ place && place ≤ high else low < place && place < high

/-- The neighbour of the number among the multiples of `10 ^ exponent` that lies in its interval.
Of two such neighbours the nearer is taken, and of two equally near ones the even one. -/
def onGrid? (range : Interval) (exponent : Int) : Option Scientific :=
  let scaledUp := Nat.pow 10 exponent.toNat
  let scaledDown := Nat.pow 10 (-exponent).toNat
  let numerator := range.centre * scaledDown
  let denominator := quarters * scaledUp
  let below := numerator / denominator
  let favoured := Binary64.nearest numerator denominator
  let other := if favoured = below then below + 1 else below
  if range.contains scaledUp scaledDown favoured then some ⟨favoured, exponent⟩
  else if range.contains scaledUp scaledDown other then some ⟨other, exponent⟩
  else none

/-- The place of the first digit: a number of magnitude at least one and below ten has place one. -/
def leadingPlace (range : Interval) : Int :=
  let whole := range.centre / quarters
  if whole ≠ 0 then (Nat.toDigits 10 whole).length
  else
    match (List.range 324).find? fun shift => quarters ≤ range.centre * Nat.pow 10 (shift + 1) with
    | some shift => -(shift : Int)
    | none => -324

/-- Trailing zeros move into the exponent. -/
def dropZeros : Nat → Scientific → Scientific
  | 0, decimal => decimal
  | fuel + 1, decimal =>
      if decimal.digits ≠ 0 ∧ decimal.digits % 10 = 0 then
        dropZeros fuel ⟨decimal.digits / 10, decimal.exponent + 1⟩
      else decimal

/-- The decimal with the fewest digits that rounds to a positive finite number. -/
def decimal (number : Binary64) : Scientific :=
  let range := interval number
  let place := leadingPlace range
  let found := (List.range 17).findSome? fun count => onGrid? range (place - (count + 1 : Nat))
  dropZeros 20 (found.getD ⟨0, 0⟩)

end Shortest
end SvgComponent.Decimal
