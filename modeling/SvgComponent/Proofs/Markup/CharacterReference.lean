/-
This file shows how character references are decoded. A decimal numeral with too many digits is the
only reason why a text has no decoded form.
-/

import SvgComponent.Markup.CharacterReference.Decode
import SvgComponent.Proofs.Text.Scan

namespace SvgComponent.Markup.CharacterReference

open Text

-- A property of all members of a list is decided by the members, not by all characters.
attribute [local instance (high)] List.decidableBAll

/-- The front of a text that lies in a class of characters, and the rest. -/
theorem takeWhile_append_drop (inside : Char → Bool) (text : List Char) :
    text.takeWhile inside ++ text.drop (text.takeWhile inside).length = text :=
  List.prefix_iff_eq_append.mp (List.takeWhile_prefix inside)

/-- A class without the ampersand takes no ampersand. -/
theorem ampersand_notMem_takeWhile {inside : Char → Bool} (outside : inside '&' = false)
    (text : List Char) : '&' ∉ text.takeWhile inside := by
  intro member
  have inside := List.all_eq_true.mp List.all_takeWhile _ member
  rw [outside] at inside
  contradiction

/-- A numeral takes its digits and at most one semicolon. -/
theorem readNumber_replaced {inside : Char → Bool} (outside : inside '&' = false)
    {text characters after : List Char} {code : Option Nat}
    (found : readNumber (text.takeWhile inside) (text.drop (text.takeWhile inside).length) code =
      .replaced characters after) :
    ∃ taken, text = taken ++ after ∧ '&' ∉ taken := by
  have plain := ampersand_notMem_takeWhile outside text
  have whole := takeWhile_append_drop inside text
  generalize text.takeWhile inside = digits at plain whole found
  generalize text.drop digits.length = rest at whole found
  have left : dropSemicolon rest = after := by
    unfold readNumber at found
    split at found
    · contradiction
    · split at found
      · exact (Reading.replaced.inj found).2
      · contradiction
  rw [← whole, ← left]
  unfold dropSemicolon
  split
  · case _ rest => exact ⟨digits ++ [';'], by simp, by simp [plain]⟩
  · exact ⟨digits, rfl, plain⟩

theorem ampersand_notMem_abbreviations :
    ∀ name ∈ abbreviations, '&' ∉ name.toList := by
  decide +kernel

/-- A name takes itself and at most one semicolon. -/
theorem readName_replaced {text characters after : List Char}
    (found : readName text = .replaced characters after) :
    ∃ taken, text = taken ++ after ∧ '&' ∉ taken := by
  unfold readName at found
  simp only at found
  split at found
  · case _ _ _ _ rest whole =>
      obtain ⟨-, rfl⟩ := Reading.replaced.inj found
      have named := takeWhile_append_drop isNameCharacter text
      split at whole
      · case _ _ _ semicolon =>
          obtain ⟨found, -, same⟩ := Option.map_eq_some_iff.mp whole
          obtain ⟨-, rfl⟩ := Prod.mk.inj same
          rw [semicolon] at named
          refine ⟨text.takeWhile isNameCharacter ++ [';'], by simpa using named.symm, ?_⟩
          simp [ampersand_notMem_takeWhile (show isNameCharacter '&' = false by decide)]
      · contradiction
  · case _ _ _ _ rest _ short =>
      obtain ⟨-, rfl⟩ := Reading.replaced.inj found
      obtain ⟨name, member, read⟩ := List.exists_of_findSome?_eq_some short
      obtain ⟨after, front, read⟩ := Option.bind_eq_some_iff.mp read
      obtain ⟨found, -, same⟩ := Option.bind_eq_some_iff.mp read
      obtain ⟨-, rfl⟩ := Prod.mk.inj (Option.some.inj same)
      exact ⟨name.toList, (List.isPrefixOf?_eq_some_iff_append_eq.mp front).symm,
        ampersand_notMem_abbreviations name member⟩
  · contradiction

/-- A replaced reference never reaches over a later ampersand. -/
theorem read_replaced {text characters after : List Char}
    (found : read text = .replaced characters after) :
    ∃ taken, text = taken ++ after ∧ '&' ∉ taken := by
  unfold read readHexadecimal readDecimal at found
  split at found
  · obtain ⟨taken, rfl, plain⟩ := readNumber_replaced (by decide) found
    exact ⟨'#' :: 'x' :: taken, rfl, by simp [plain]⟩
  · obtain ⟨taken, rfl, plain⟩ := readNumber_replaced (by decide) found
    exact ⟨'#' :: 'X' :: taken, rfl, by simp [plain]⟩
  · obtain ⟨taken, rfl, plain⟩ := readNumber_replaced (by decide) found
    exact ⟨'#' :: taken, rfl, by simp [plain]⟩
  · exact readName_replaced found

theorem read_replaced_length {text characters after : List Char}
    (found : read text = .replaced characters after) : after.length ≤ text.length := by
  obtain ⟨taken, rfl, -⟩ := read_replaced found
  simp

/-- More steps than characters do not change what is decoded. -/
theorem decodeWithin_enough {text : List Char} {fuel : Nat} (enough : text.length ≤ fuel) :
    decodeWithin fuel text = decode? text := by
  apply steps_enough _ _ enough
  · intro fuel
    cases fuel <;> rfl
  · intro first second c rest shorter
    simp only [decodeWithin, shorter rest (Nat.le_refl _)]
    split
    · cases reading : read rest with
      | plain => rfl
      | oversizedNumeral => rfl
      | replaced characters after =>
          simp only [shorter after (read_replaced_length reading)]
    · rfl

@[simp] theorem decode?_nil : decode? [] = some [] := rfl

/-- A character other than an ampersand stands for itself. -/
theorem decode?_visible {c : Char} (rest : List Char) (plain : c ≠ '&') :
    decode? (c :: rest) = (decode? rest).map (c :: ·) := by
  simp [decode?, decodeWithin, plain]

/-- An ampersand contributes what the text after it is read as. -/
theorem decode?_ampersand (rest : List Char) :
    decode? ('&' :: rest) = match read rest with
      | .replaced characters after => (decode? after).map (characters ++ ·)
      | .plain => (decode? rest).map ('&' :: ·)
      | .oversizedNumeral => none := by
  simp only [decode?, List.length_cons, decodeWithin, if_true]
  cases reading : read rest with
  | plain => rfl
  | oversizedNumeral => rfl
  | replaced characters after =>
      simp only
      rw [decodeWithin_enough (read_replaced_length reading)]
      rfl

/-- A text without ampersands is its own decoded form. -/
theorem decode?_plain {text : List Char} (plain : '&' ∉ text) : decode? text = some text := by
  induction text with
  | nil => rfl
  | cons c rest inductionHypothesis =>
      rw [List.mem_cons, not_or] at plain
      rw [decode?_visible rest (Ne.symm plain.1), inductionHypothesis plain.2]
      rfl

/-- A text holds an oversized numeral if an ampersand and a number sign stand before more digits
than a whole number may have. -/
def HasOversizedNumeral (text : List Char) : Prop :=
  ∃ digits, (∀ c ∈ digits, c.isDigit = true) ∧ Numeral.mostDigits < digits.length ∧
    '&' :: '#' :: digits <:+: text

/-- A number that can be told is not oversized. -/
theorem readNumber_some (digits rest : List Char) (code : Nat) :
    readNumber digits rest (some code) ≠ .oversizedNumeral := by
  unfold readNumber
  split <;> simp

/-- A name is not oversized. -/
theorem readName_ne_oversized (text : List Char) : readName text ≠ .oversizedNumeral := by
  unfold readName
  simp only
  split <;> simp

/-- Too many digits make a decimal numeral oversized, whatever follows them. -/
theorem readDecimal_oversized {digits : List Char} (rest : List Char)
    (all : ∀ c ∈ digits, c.isDigit = true) (many : Numeral.mostDigits < digits.length) :
    readDecimal (digits ++ rest) = .oversizedNumeral := by
  have more : Numeral.mostDigits < ((digits ++ rest).takeWhile Char.isDigit).length := by
    rw [List.takeWhile_append_of_pos all, List.length_append]
    omega
  have present : ((digits ++ rest).takeWhile Char.isDigit).isEmpty = false := by
    rw [List.isEmpty_eq_false_iff_exists_mem]
    exact List.exists_mem_of_length_pos (Nat.zero_lt_of_lt more)
  simp [readDecimal, readNumber, Numeral.value?, present, Nat.not_le.mpr more]

/-- A number sign before a digit begins a decimal numeral. -/
theorem read_decimal {digit : Char} (numeral : digit.isDigit = true) (text : List Char) :
    read ('#' :: digit :: text) = readDecimal (digit :: text) := by
  apply read.eq_3
  · intro rest same
    rw [(List.cons.inj same).1] at numeral
    contradiction
  · intro rest same
    rw [(List.cons.inj same).1] at numeral
    contradiction

/-- An oversized numeral begins directly after its ampersand. -/
theorem read_oversized_iff (rest : List Char) :
    read rest = .oversizedNumeral ↔
      ∃ digits, (∀ c ∈ digits, c.isDigit = true) ∧ Numeral.mostDigits < digits.length ∧
        '#' :: digits <+: rest := by
  constructor
  · intro found
    unfold read at found
    split at found
    · exact absurd found (readNumber_some _ _ _)
    · exact absurd found (readNumber_some _ _ _)
    · case _ rest _ _ =>
        refine ⟨rest.takeWhile Char.isDigit, List.all_eq_true.mp List.all_takeWhile, ?_,
          List.cons_prefix_cons.mpr ⟨rfl, List.takeWhile_prefix _⟩⟩
        by_contra few
        rw [Nat.not_lt] at few
        rw [readDecimal, Numeral.value?, if_pos few] at found
        exact readNumber_some _ _ _ found
    · exact absurd found (readName_ne_oversized _)
  · rintro ⟨digits, all, many, more, rfl⟩
    cases digits with
    | nil => contradiction
    | cons digit digits =>
        rw [List.cons_append, List.cons_append, read_decimal (all digit List.mem_cons_self)]
        exact readDecimal_oversized more all many

/-- An oversized numeral stays oversized behind a text without ampersands. -/
theorem hasOversizedNumeral_append {front : List Char} (plain : '&' ∉ front) (text : List Char) :
    HasOversizedNumeral (front ++ text) ↔ HasOversizedNumeral text := by
  induction front with
  | nil => rfl
  | cons c front inductionHypothesis =>
      rw [List.mem_cons, not_or] at plain
      rw [← inductionHypothesis plain.2]
      simp only [HasOversizedNumeral, List.cons_append, List.infix_cons_iff, List.cons_prefix_cons,
        plain.1, false_and, false_or]

/-- An oversized numeral begins at an ampersand or stands after it. -/
theorem hasOversizedNumeral_ampersand (rest : List Char) :
    HasOversizedNumeral ('&' :: rest) ↔
      read rest = .oversizedNumeral ∨ HasOversizedNumeral rest := by
  rw [read_oversized_iff]
  simp only [HasOversizedNumeral, List.infix_cons_iff, List.cons_prefix_cons, true_and, and_or_left,
    exists_or]

/-- A text has no decoded form exactly if it holds an oversized numeral. -/
theorem decode?_eq_none_iff (text : List Char) :
    decode? text = none ↔ HasOversizedNumeral text := by
  induction size : text.length using Nat.strongRecOn generalizing text with
  | ind size inductionHypothesis =>
  subst size
  cases text with
  | nil => simp [HasOversizedNumeral]
  | cons c rest =>
      have shorter : rest.length < (c :: rest).length := Nat.lt_succ_self _
      have tail := inductionHypothesis rest.length shorter rest rfl
      by_cases ampersand : c = '&'
      · subst ampersand
        rw [decode?_ampersand, hasOversizedNumeral_ampersand]
        cases reading : read rest with
        | oversizedNumeral => simp
        | plain => simp [tail]
        | replaced characters after =>
            obtain ⟨taken, rfl, plain⟩ := read_replaced reading
            have left : after.length < ('&' :: (taken ++ after)).length := by
              simp only [List.length_cons, List.length_append]
              omega
            rw [hasOversizedNumeral_append plain, ← inductionHypothesis after.length left after rfl]
            simp
      · rw [decode?_visible rest ampersand, Option.map_eq_none_iff, tail]
        exact (hasOversizedNumeral_append
          (show '&' ∉ [c] by simpa using Ne.symm ampersand) rest).symm

/-- The characters that are written as references, and their names. -/
def specialNames : List (String × Char) :=
  [("amp", '&'), ("AMP", '&'), ("lt", '<'), ("LT", '<'), ("quot", '"'), ("QUOT", '"'),
    ("apos", '\'')]

/-- A reference names its character or gives its code in decimal or hexadecimal digits. Any number
of zeros may stand in front of a code. -/
inductive StandsFor : List Char → Char → Prop
  | named (name : String) (c : Char) (special : (name, c) ∈ specialNames) :
      StandsFor ('&' :: name.toList ++ [';']) c
  | decimal (name : String) (c : Char) (special : (name, c) ∈ specialNames) (digits : List Char)
      (all : ∀ digit ∈ digits, digit.isDigit = true)
      (value : Numeral.value digits = c.toNat) :
      StandsFor ('&' :: '#' :: digits ++ [';']) c
  | hexadecimal (name : String) (c : Char) (special : (name, c) ∈ specialNames) (mark : Char)
      (marked : mark = 'x' ∨ mark = 'X') (digits : List Char)
      (all : ∀ digit ∈ digits, Hexadecimal.isDigit digit = true)
      (value : Hexadecimal.value digits = c.toNat) :
      StandsFor ('&' :: '#' :: mark :: digits ++ [';']) c

/-- The code of a special character stands for that character alone. -/
theorem numbered_special :
    ∀ entry ∈ specialNames, numbered entry.2.toNat = [entry.2] ∧ entry.2.toNat ≠ 0 := by
  decide

theorem named?_special :
    ∀ entry ∈ specialNames, named? entry.1.toList = some [entry.2] ∧
      (∀ c ∈ entry.1.toList, isNameCharacter c = true) ∧ entry.1.toList.head? ≠ some '#' := by
  decide +kernel

/-- Digits are read up to the semicolon, which is taken as well. -/
theorem readNumber_semicolon {inside : Char → Bool} (outside : inside ';' = false)
    {digits : List Char} (all : ∀ c ∈ digits, inside c = true) (present : digits ≠ [])
    (code : Nat) (rest : List Char) :
    readNumber ((digits ++ ';' :: rest).takeWhile inside)
        ((digits ++ ';' :: rest).drop ((digits ++ ';' :: rest).takeWhile inside).length)
        (some code) =
      .replaced (numbered code) rest := by
  rw [takeWhile_stop rest all outside, List.drop_left]
  simp [readNumber, dropSemicolon, present]

/-- What does not begin with a number sign is read as a name. -/
theorem read_name {text : List Char} (noNumber : text.head? ≠ some '#') :
    read text = readName text := by
  cases text with
  | nil => rfl
  | cons c text =>
      have other : c ≠ '#' := fun same => noNumber (congrArg some same)
      apply read.eq_4 <;>
      · intro rest same
        exact other (List.cons.inj same).1

/-- The name of a special character is read up to its semicolon. -/
theorem read_special {name : String} {c : Char} (special : (name, c) ∈ specialNames)
    (rest : List Char) : read (name.toList ++ ';' :: rest) = .replaced [c] rest := by
  obtain ⟨found, inside, noNumber⟩ := named?_special _ special
  have plain : (name.toList ++ ';' :: rest).head? ≠ some '#' := by
    cases letters : name.toList with
    | nil => simp
    | cons letter letters =>
        rw [letters] at noNumber
        exact noNumber
  rw [read_name plain]
  unfold readName
  simp only [takeWhile_stop rest inside (c := ';') (by decide), List.drop_left, found,
    Option.map_some]

/-- The decimal code of a special character is read up to its semicolon, unless it is oversized. -/
theorem read_decimalCode {name : String} {c : Char} (special : (name, c) ∈ specialNames)
    {digits : List Char} (all : ∀ digit ∈ digits, digit.isDigit = true)
    (value : Numeral.value digits = c.toNat) (rest : List Char) :
    read ('#' :: (digits ++ ';' :: rest)) = .replaced [c] rest ∨
      read ('#' :: (digits ++ ';' :: rest)) = .oversizedNumeral := by
  obtain ⟨alone, positive⟩ := numbered_special _ special
  cases digits with
  | nil => exact absurd value.symm positive
  | cons digit digits =>
      rw [List.cons_append, read_decimal (all digit List.mem_cons_self), ← List.cons_append]
      by_cases readable : (digit :: digits).length ≤ Numeral.mostDigits
      · have number := readNumber_semicolon (by decide) all (List.cons_ne_nil _ _) c.toNat rest
        rw [alone] at number
        left
        rw [readDecimal, ← number, takeWhile_stop rest all (by decide), Numeral.value?,
          if_pos readable, value]
      · exact .inr (readDecimal_oversized _ all (Nat.lt_of_not_le readable))

/-- The hexadecimal code of a special character is read up to its semicolon. -/
theorem read_hexadecimalCode {name : String} {c : Char} (special : (name, c) ∈ specialNames)
    {mark : Char} (marked : mark = 'x' ∨ mark = 'X') {digits : List Char}
    (all : ∀ digit ∈ digits, Hexadecimal.isDigit digit = true)
    (value : Hexadecimal.value digits = c.toNat) (rest : List Char) :
    read ('#' :: mark :: (digits ++ ';' :: rest)) = .replaced [c] rest := by
  obtain ⟨alone, positive⟩ := numbered_special _ special
  have present : digits ≠ [] := by
    rintro rfl
    exact positive value.symm
  have hexadecimal : readHexadecimal (digits ++ ';' :: rest) = .replaced [c] rest := by
    have number := readNumber_semicolon (by decide) all present c.toNat rest
    rw [alone] at number
    rw [readHexadecimal, ← number, takeWhile_stop rest all (by decide), value]
  rcases marked with rfl | rfl
  · exact hexadecimal
  · exact hexadecimal

/-- A reference is read as its character and nothing else, unless its numeral is oversized. -/
theorem read_standsFor {reference : List Char} {c : Char} (stands : StandsFor reference c)
    (rest : List Char) :
    ∃ body, reference = '&' :: body ∧
      (read (body ++ rest) = .replaced [c] rest ∨ read (body ++ rest) = .oversizedNumeral) := by
  cases stands with
  | named name _ special =>
      refine ⟨name.toList ++ [';'], rfl, .inl ?_⟩
      simpa using read_special special rest
  | decimal name _ special digits all value =>
      refine ⟨'#' :: digits ++ [';'], rfl, ?_⟩
      simpa using read_decimalCode special all value rest
  | hexadecimal name _ special mark marked digits all value =>
      refine ⟨'#' :: mark :: digits ++ [';'], rfl, .inl ?_⟩
      simpa using read_hexadecimalCode special marked all value rest

/-- A reference decodes to its character, whatever follows it, unless its numeral is oversized. -/
theorem decode?_standsFor {reference : List Char} {c : Char} (stands : StandsFor reference c)
    (rest : List Char) :
    decode? (reference ++ rest) = (decode? rest).map (c :: ·) ∨
      decode? (reference ++ rest) = none := by
  obtain ⟨body, rfl, reading | oversized⟩ := read_standsFor stands rest
  · left
    rw [List.cons_append, decode?_ampersand, reading]
    rfl
  · right
    rw [List.cons_append, decode?_ampersand, oversized]

/-- A reference by name decodes to its character, whatever follows it. -/
theorem decode?_named {name : String} {c : Char} (special : (name, c) ∈ specialNames)
    (rest : List Char) :
    decode? (('&' :: name.toList ++ [';']) ++ rest) = (decode? rest).map (c :: ·) := by
  have reading := read_special special rest
  simp only [List.cons_append, List.append_assoc, List.nil_append, decode?_ampersand, reading]

/-- The characters that would end a text or a value stand in no reference. -/
theorem notMem_standsFor {reference : List Char} {c x : Char} (stands : StandsFor reference c)
    (mark : x ∈ ['<', '"', '\'']) : x ∉ reference := by
  have apart : ∀ x ∈ ['<', '"', '\''], x ∉ ['&', '#', 'x', 'X', ';'] ∧ x.isDigit = false ∧
      Hexadecimal.isDigit x = false ∧ ∀ entry ∈ specialNames, x ∉ entry.1.toList := by
    decide
  obtain ⟨other, noDigit, noHexadecimal, noName⟩ := apart x mark
  simp only [List.mem_cons, List.not_mem_nil, or_false, not_or] at other
  obtain ⟨ampersand, number, small, capital, semicolon⟩ := other
  cases stands with
  | named name _ special => simp [ampersand, semicolon, noName _ special]
  | decimal name _ special digits all =>
      have outside : x ∉ digits := by
        intro member
        rw [all x member] at noDigit
        contradiction
      simp [ampersand, number, semicolon, outside]
  | hexadecimal name _ special mark marked digits all =>
      have outside : x ∉ digits := by
        intro member
        rw [all x member] at noHexadecimal
        contradiction
      rcases marked with rfl | rfl <;>
        simp [ampersand, number, small, capital, semicolon, outside]

/-- References stand for visible characters only, and are visible themselves. -/
theorem standsFor_visible {reference : List Char} {c : Char} (stands : StandsFor reference c) :
    isBlank c = false ∧ isBlankText reference = false := by
  have visible : ∀ entry ∈ specialNames, isBlank entry.2 = false := by decide
  have ampersand : isBlank '&' = false := by decide
  cases stands with
  | named name _ special => exact ⟨visible (name, c) special, by simp [isBlankText, ampersand]⟩
  | decimal name _ special => exact ⟨visible (name, c) special, by simp [isBlankText, ampersand]⟩
  | hexadecimal name _ special =>
      exact ⟨visible (name, c) special, by simp [isBlankText, ampersand]⟩

end SvgComponent.Markup.CharacterReference
