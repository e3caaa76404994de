/-
This file relates characters to their codes and to the digits of their codes.
-/

import Mathlib.Data.List.Basic
import SvgComponent.Text.Code

namespace SvgComponent.Text

/-- Letters and digits are ASCII. -/
theorem isAlphanum_code {c : Char} (plain : c.isAlphanum = true) : c.toNat < 0x80 := by
  rcases Bool.or_eq_true_iff.mp plain with letter | digit
  · rcases Bool.or_eq_true_iff.mp letter with upper | lower
    · have last : c.toNat ≤ 'Z'.toNat := (of_decide_eq_true upper).2
      exact Nat.lt_of_le_of_lt last (by decide)
    · have last : c.toNat ≤ 'z'.toNat := of_decide_eq_true (Bool.and_eq_true_iff.mp lower).2
      exact Nat.lt_of_le_of_lt last (by decide)
  · have last : c.toNat ≤ '9'.toNat := of_decide_eq_true (Bool.and_eq_true_iff.mp digit).2
    exact Nat.lt_of_le_of_lt last (by decide)

namespace Hexadecimal

/-- Digits are read as their value if there are as many of them as asked for. -/
theorem read?_append {digits : List Char} (all : digits.all isDigit = true) (rest : List Char) :
    read? digits.length (digits ++ rest) = some (value digits, rest) := by
  have taken : (digits ++ rest).take digits.length = digits := List.take_left' rfl
  have dropped : (digits ++ rest).drop digits.length = rest := List.drop_left' rfl
  rw [read?, taken, dropped]
  simp [all]

theorem read?_length {count number : Nat} {text rest : List Char}
    (found : read? count text = some (number, rest)) : rest.length ≤ text.length := by
  rw [read?] at found
  split at found
  · obtain ⟨-, rfl⟩ : _ ∧ text.drop count = rest := by simpa using found
    simp
  · contradiction

theorem write_control : ∀ code < 0x20,
    (write 4 code).length = 4 ∧ (write 4 code).all isDigit = true ∧
      value (write 4 code) = code := by
  decide

/-- The number of a control character is read back from its four digits. -/
theorem read?_write {code : Nat} (control : code < 0x20) (rest : List Char) :
    read? 4 (write 4 code ++ rest) = some (code, rest) := by
  obtain ⟨length, all, same⟩ := write_control code control
  have found := read?_append all rest
  rwa [length, same] at found

end Hexadecimal

namespace Units

theorem isLeading_toNat (c : Char) : isLeading c.toNat = false := by
  have valid : c.toNat < 0xD800 ∨ 0xDFFF < c.toNat ∧ c.toNat < 0x110000 := c.valid
  simp only [isLeading, Bool.and_eq_false_iff, decide_eq_false_iff_not]
  omega

theorem isTrailing_toNat (c : Char) : isTrailing c.toNat = false := by
  have valid : c.toNat < 0xD800 ∨ 0xDFFF < c.toNat ∧ c.toNat < 0x110000 := c.valid
  simp only [isTrailing, Bool.and_eq_false_iff, decide_eq_false_iff_not]
  omega

/-- No code of a character is half of a pair. -/
theorem single_toNat (c : Char) : single c.toNat = c := by
  rw [single, isLeading_toNat, isTrailing_toNat, Bool.or_self, if_neg Bool.false_ne_true,
    Char.ofNat_toNat]

/-- The codes of characters stand for these characters. -/
theorem characters_toNat (text : List Char) : characters (text.map Char.toNat) = text := by
  induction text with
  | nil => rfl
  | cons c rest inductionHypothesis =>
      cases rest with
      | nil => exact congrArg (fun x => [x]) (single_toNat c)
      | cons next rest =>
          simp only [List.map_cons] at inductionHypothesis ⊢
          rw [characters, isLeading_toNat, Bool.false_and, if_neg Bool.false_ne_true, single_toNat,
            inductionHypothesis]

end Units

end SvgComponent.Text
