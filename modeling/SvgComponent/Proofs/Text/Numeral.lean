/-
This file shows that the decimal numerals of whole numbers are read back.
-/

import Mathlib.Data.List.Basic
import SvgComponent.Text.Code

namespace SvgComponent.Text.Numeral

theorem isDigit_toDigits {number : Nat} {c : Char} (member : c ∈ Nat.toDigits 10 number) :
    c.isDigit = true :=
  Nat.isDigit_of_mem_toDigits (by decide) (by decide) member

/-- A numeral has the value of its number. -/
theorem value_toDigits (number : Nat) : value (Nat.toDigits 10 number) = number := by
  have same : value (Nat.toDigits 10 number) = Nat.ofDigitChars 10 (Nat.toDigits 10 number) 0 := by
    rw [value, Nat.ofDigitChars_eq_foldl]
    apply List.foldl_ext
    intro total c member
    rw [if_pos (isDigit_toDigits member)]
  rw [same]
  exact Nat.ofDigitChars_ten_toDigits

/-- A numeral is read back if it is not too long. -/
theorem value?_toDigits {number : Nat} (short : (Nat.toDigits 10 number).length ≤ mostDigits) :
    value? (Nat.toDigits 10 number) = some number := by
  rw [value?, if_pos short, value_toDigits]

/-- Only the numeral of zero begins with a zero. -/
theorem head?_toDigits {number : Nat} (positive : 0 < number) :
    (Nat.toDigits 10 number).head? ≠ some '0' := by
  induction number using Nat.strongRecOn with
  | ind number inductionHypothesis =>
      rw [Nat.toDigits_eq_if (by decide)]
      split
      · case _ small =>
          have digits : ∀ digit < 10, 0 < digit → Nat.digitChar digit ≠ '0' := by decide
          simpa using digits number small positive
      · case _ large =>
          have front := inductionHypothesis (number / 10) (by omega) (by omega)
          rwa [List.head?_append_of_ne_nil _ Nat.toDigits_ne_nil]

/-- A numeral with a leading zero is a single digit. -/
theorem leading_zero {number : Nat} (zero : (Nat.toDigits 10 number).head? = some '0') :
    Nat.toDigits 10 number = ['0'] := by
  cases number with
  | zero => rfl
  | succ number => exact absurd zero (head?_toDigits (Nat.succ_pos number))

/-- A text that begins with a numeral begins with a digit. -/
theorem toDigits_append_ne {c : Char} (other : c.isDigit = false) (number : Nat)
    (rest after : List Char) : Nat.toDigits 10 number ++ rest ≠ c :: after := by
  intro same
  obtain ⟨first, more, digits⟩ := List.exists_cons_of_ne_nil
    (Nat.toDigits_ne_nil (n := number) (b := 10))
  have digit : first.isDigit = true := isDigit_toDigits (digits ▸ List.mem_cons_self)
  rw [digits] at same
  rw [(List.cons.inj same).1, other] at digit
  contradiction

/-- No word begins with a numeral. -/
theorem isPrefixOf?_toDigits {letter : Char} (other : letter.isDigit = false) (word : List Char)
    (number : Nat) (rest : List Char) :
    (letter :: word).isPrefixOf? (Nat.toDigits 10 number ++ rest) = none := by
  cases found : (letter :: word).isPrefixOf? (Nat.toDigits 10 number ++ rest) with
  | none => rfl
  | some after =>
      have whole := List.isPrefixOf?_eq_some_iff_append_eq.mp found
      exact absurd whole.symm (toDigits_append_ne other number rest _)

/-- The sign stands before the digits of the number without it. -/
theorem toList_toString (number : Int) :
    (toString number).toList =
      (if number < 0 then ['-'] else []) ++ Nat.toDigits 10 number.natAbs := by
  rw [Int.toString_eq_repr, Int.repr_eq_if]
  by_cases negative : number < 0
  · rw [if_neg (by omega), if_pos negative, String.toList_append, Nat.repr_eq_ofList_toDigits,
      show (-number).toNat = number.natAbs by omega]
    exact congrArg (['-'] ++ ·) String.toList_ofList
  · rw [if_pos (by omega), if_neg negative, Nat.repr_eq_ofList_toDigits, String.toList_ofList,
      show number.toNat = number.natAbs by omega, List.nil_append]

end SvgComponent.Text.Numeral
