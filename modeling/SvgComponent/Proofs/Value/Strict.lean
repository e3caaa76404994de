/-
This file shows that the strict dialect reads back the strings and integers of compact texts.
-/

import SvgComponent.Proofs.Text.Scan
import SvgComponent.Proofs.Value.Compact
import SvgComponent.Proofs.Value.Spelling
import SvgComponent.Value.Strict

namespace SvgComponent.Value

open Text

-- A property of all members of a list is decided by the members, not by all characters.
attribute [local instance (high)] List.decidableBAll

namespace Strict

/-- A string may hold every character but its quote, a backslash and the controls as it is. -/
theorem readsCodes :
    ReadsCodes units '"' (fun c => c ≠ '"' ∧ c ≠ '\\' ∧ 0x20 ≤ c.toNat) fun text =>
      (escaped? text).map fun found => ([found.1], found.2) where
  closing fuel rest := by simp [units]
  plain := by
    rintro c ⟨other, unescaped, visible⟩ fuel rest
    rw [units, if_neg other, if_neg unescaped, if_neg (Nat.not_lt.mpr visible)]
    cases units fuel rest <;> rfl
  escaped := by
    intro text rest found each fuel
    obtain ⟨⟨unit, after⟩, read, same⟩ := Option.map_eq_some_iff.mp each
    obtain ⟨rfl, rfl⟩ := Prod.mk.inj same
    rw [units, if_neg (by decide), if_pos rfl, read]
    simp only [before]
    cases units fuel after <;> rfl

theorem spells_compact (c : Char) : Spells units (Compact.escape c) [c.toNat] := by
  refine Spells.compact readsCodes (fun c quote backslash visible => ⟨quote, backslash, visible⟩)
    ?_ ?_ c
  · simp only [List.forall_mem_cons]
    exact ⟨fun _ => rfl, fun _ => rfl, fun _ => rfl, fun _ => rfl, fun _ => rfl, fun _ => rfl,
      fun _ => rfl, List.forall_mem_nil _⟩
  · intro code control rest
    rw [escaped?, Hexadecimal.read?_write control]
    rfl

/-- A string in compact form is read back, whatever follows it. -/
theorem string_compact (text : String) (rest : List Char) :
    string (Compact.stringText text ++ rest) = .ok (text, rest) := by
  have spelled := Spells.flatMap spells_compact text.toList
  rw [Compact.stringText, List.append_assoc, List.cons_append, List.singleton_append, string,
    spelled.read readsCodes]
  simp [bind, Except.bind, pure, Except.pure, Units.characters_toNat]

/-- The characters with which a number could go on. -/
def continuesNumber (c : Char) : Bool :=
  c.isDigit || c = '.' || c = 'e' || c = 'E'

/-- A number ends in front of a text. -/
def EndsNumber (rest : List Char) : Prop :=
  ∀ c, rest.head? = some c → continuesNumber c = false

/-- A part of a number is missing where its mark is. -/
theorem part?_eq_none {mark : Char → Bool} (signed : Bool) {rest : List Char}
    (other : ∀ c, rest.head? = some c → mark c = false) : part? mark signed rest = none := by
  cases rest with
  | nil => rfl
  | cons c rest => simp [part?, other c rfl]

/-- A numeral that ends in front of a text is a whole number. -/
theorem unsigned_numeral {magnitude : Nat} {rest : List Char}
    (short : (Nat.toDigits 10 magnitude).length ≤ Numeral.mostDigits) (ended : EndsNumber rest)
    (negative : Bool) :
    unsigned negative (Nat.toDigits 10 magnitude ++ rest) =
      .ok (.int (if negative then -magnitude else magnitude), rest) := by
  simp only [EndsNumber, continuesNumber, Bool.or_eq_false_iff] at ended
  have point : part? (· = '.') false rest = none :=
    part?_eq_none false fun c first => (ended c first).1.1.2
  have power : part? (fun c => c = 'e' || c = 'E') true rest = none := by
    refine part?_eq_none true fun c first => ?_
    rw [Bool.or_eq_false_iff]
    exact ⟨(ended c first).1.2, (ended c first).2⟩
  have digits : (Nat.toDigits 10 magnitude ++ rest).takeWhile Char.isDigit =
      Nat.toDigits 10 magnitude :=
    takeWhile_before (fun c member => Numeral.isDigit_toDigits member)
      fun c first => (ended c first).1.1.1
  have value := Numeral.value?_toDigits short
  by_cases zero : (Nat.toDigits 10 magnitude).head? = some '0'
  · rw [Numeral.leading_zero zero] at value ⊢
    rw [List.singleton_append, unsigned]
    simp [point, power, value]
  · rw [unsigned]
    · simp [digits, point, power, value]
    · intro after same
      have first := congrArg List.head? same
      rw [List.head?_append_of_ne_nil _ Nat.toDigits_ne_nil] at first
      exact zero first

/-- An integer is read back if the text after it ends it. -/
theorem number_int {value : Int} {rest : List Char}
    (short : (Nat.toDigits 10 value.natAbs).length ≤ Numeral.mostDigits)
    (ended : EndsNumber rest) :
    number (Compact.text (.int value) ++ rest) = .ok (.int value, rest) := by
  have infinite : "Infinity".toList.isPrefixOf? (Nat.toDigits 10 value.natAbs ++ rest) = none :=
    Numeral.isPrefixOf?_toDigits rfl _ _ rest
  have notNumber : "NaN".toList.isPrefixOf? (Nat.toDigits 10 value.natAbs ++ rest) = none :=
    Numeral.isPrefixOf?_toDigits rfl _ _ rest
  apply Compact.read_int
  · rw [number]
    simp only [infinite, notNumber]
    rw [unsigned_numeral short ended]
    rfl
  · rw [number]
    · simp only [infinite, notNumber]
      rw [unsigned_numeral short ended]
      rfl
    · exact fun after => Numeral.toDigits_append_ne rfl _ rest after

/-- Nothing is skipped in front of a mark. -/
theorem skip_mark {c : Char} (mark : Compact.isMark c = true) (rest : List Char) :
    skip (c :: rest) = c :: rest := by
  have each : ∀ code < 0x80, Compact.isMark (Char.ofNat code) = true →
      isBlank (Char.ofNat code) = false := by decide
  have visible := each c.toNat (Compact.isMark_code mark)
  rw [Char.ofNat_toNat] at visible
  simp [skip, visible mark]

/-- The strict dialect reads the lexemes of compact texts. -/
theorem readsLexemes : Compact.IsReadBy dialect EndsNumber where
  skip := skip_mark
  string := string_compact
  key := string_compact
  number := number_int
  ended := by
    intro c member rest x first
    obtain rfl := Option.some.inj first
    have each : ∀ c ∈ [',', ']', '\x7d'], continuesNumber c = false := by decide
    exact each c member

end Strict
end SvgComponent.Value
