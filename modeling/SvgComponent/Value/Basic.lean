/-
This file holds the values of options.
-/

import SvgComponent.Decimal.Binary64
import SvgComponent.Mapping

namespace SvgComponent

/-- A value of an option: a scalar, a list, or an object whose members keep their order. -/
inductive Value where
  | null
  | bool (flag : Bool)
  | int (number : Int)
  | float (number : Decimal.Binary64)
  | string (text : String)
  | list (items : List Value)
  | object (members : List (String × Value))
  deriving Inhabited

/-- Options are found by name. -/
abbrev Options := Mapping String Value

namespace Value

/-- Nothing, zero and what is empty count as false. -/
def isTruthy : Value → Bool
  | null => false
  | bool flag => flag
  | int number => number ≠ 0
  | float number => !number.isZero
  | string text => text ≠ ""
  | list items => !items.isEmpty
  | object members => !members.isEmpty

def isString (text : String) : Value → Bool
  | string other => other = text
  | _ => false

mutual

def decideEq : (first second : Value) → Decidable (first = second)
  | null, second => by
      cases second with
      | null => exact isTrue rfl
      | _ => exact isFalse (by simp)
  | bool flag, second => by
      cases second with
      | bool other => exact decidable_of_iff (flag = other) (by simp)
      | _ => exact isFalse (by simp)
  | int number, second => by
      cases second with
      | int other => exact decidable_of_iff (number = other) (by simp)
      | _ => exact isFalse (by simp)
  | float number, second => by
      cases second with
      | float other => exact decidable_of_iff (number = other) (by simp)
      | _ => exact isFalse (by simp)
  | string text, second => by
      cases second with
      | string other => exact decidable_of_iff (text = other) (by simp)
      | _ => exact isFalse (by simp)
  | list items, second => by
      cases second with
      | list others =>
          have same := decideItems items others
          exact decidable_of_iff (items = others) (by simp)
      | _ => exact isFalse (by simp)
  | object members, second => by
      cases second with
      | object others =>
          have same := decideMembers members others
          exact decidable_of_iff (members = others) (by simp)
      | _ => exact isFalse (by simp)

def decideItems : (first second : List Value) → Decidable (first = second)
  | [], [] => isTrue rfl
  | [], _ :: _ | _ :: _, [] => isFalse (by simp)
  | item :: items, other :: others =>
      match decideEq item other, decideItems items others with
      | isTrue head, isTrue tail => isTrue (by rw [head, tail])
      | isFalse head, _ => isFalse (by simp [head])
      | _, isFalse tail => isFalse (by simp [tail])

def decideMembers : (first second : List (String × Value)) → Decidable (first = second)
  | [], [] => isTrue rfl
  | [], _ :: _ | _ :: _, [] => isFalse (by simp)
  | (name, item) :: members, (otherName, other) :: others =>
      if sameName : name = otherName then
        match decideEq item other, decideMembers members others with
        | isTrue head, isTrue tail => isTrue (by rw [sameName, head, tail])
        | isFalse head, _ => isFalse (by simp [head])
        | _, isFalse tail => isFalse (by simp [tail])
      else isFalse (by simp [sameName])

end

instance : DecidableEq Value := decideEq

end Value
end SvgComponent
