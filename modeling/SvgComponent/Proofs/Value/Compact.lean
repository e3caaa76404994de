/-
This file shows that a dialect which reads back strings and integers reads back every compact text
of values without floating-point numbers.
-/

import SvgComponent.Proofs.Mapping
import SvgComponent.Proofs.Text.Code
import SvgComponent.Proofs.Text.Numeral
import SvgComponent.Proofs.Value.Reader
import SvgComponent.Value.Compact

namespace SvgComponent.Value

open Text

/-- Plain values hold no floating-point numbers. Their integers are short enough to be read, and the
names of an object are distinct. -/
inductive IsPlain : Value → Prop
  | null : IsPlain .null
  | bool (flag : Bool) : IsPlain (.bool flag)
  | int {number : Int} (short : (Nat.toDigits 10 number.natAbs).length ≤ Numeral.mostDigits) :
      IsPlain (.int number)
  | string (text : String) : IsPlain (.string text)
  | list {items : List Value} (each : ∀ item ∈ items, IsPlain item) : IsPlain (.list items)
  | object {members : List (String × Value)} (distinct : (Mapping.keys members).Nodup)
      (each : ∀ member ∈ members, IsPlain member.2) : IsPlain (.object members)

namespace Compact

/-- The characters that begin a part of a compact text or stand between two parts. -/
def isMark (c : Char) : Bool :=
  c.isAlphanum || ['"', '[', ']', '\x7b', '\x7d', ',', ':', '-'].contains c

/-- A dialect reads the lexemes of compact texts, an integer only if the text after it ends it. -/
structure IsReadBy (dialect : Dialect) (ends : List Char → Prop) : Prop where
  skip : ∀ {c : Char}, isMark c = true → ∀ rest, dialect.skip (c :: rest) = c :: rest
  string : ∀ text rest, dialect.string (stringText text ++ rest) = .ok (text, rest)
  key : ∀ text rest, dialect.key (stringText text ++ rest) = .ok (text, rest)
  number : ∀ {number : Int} {rest : List Char},
    (Nat.toDigits 10 number.natAbs).length ≤ Numeral.mostDigits → ends rest →
      dialect.number (text (.int number) ++ rest) = .ok (.int number, rest)
  ended : ∀ c ∈ [',', ']', '\x7d'], ∀ rest, ends (c :: rest)

/-- The text of a value is read back if what follows it ends it. -/
def ReadsBack (dialect : Dialect) (ends : List Char → Prop) (value : Value) : Prop :=
  ∀ fuel rest, ends rest → 2 * (text value).length < fuel →
    dialect.value fuel (text value ++ rest) = .ok (value, rest)

/-- The text of an integer begins with a minus sign or a digit. -/
theorem text_int_cons (number : Int) :
    ∃ c rest, text (.int number) = c :: rest ∧ (c = '-' ∨ c.isDigit = true) := by
  rw [text, Numeral.toList_toString]
  by_cases negative : number < 0
  · rw [if_pos negative]
    exact ⟨'-', _, rfl, .inl rfl⟩
  · rw [if_neg negative, List.nil_append]
    obtain ⟨c, rest, same⟩ := List.exists_cons_of_ne_nil
      (Nat.toDigits_ne_nil (n := number.natAbs) (b := 10))
    exact ⟨c, rest, same, .inr (Numeral.isDigit_toDigits (same ▸ List.mem_cons_self))⟩

/-- An integer is read if the digits of its magnitude are, behind a minus sign and without one. -/
theorem read_int {number : Scanner Value} {value : Int} {rest : List Char}
    (negative : number ('-' :: (Nat.toDigits 10 value.natAbs ++ rest)) =
      .ok (.int (-value.natAbs), rest))
    (positive : number (Nat.toDigits 10 value.natAbs ++ rest) = .ok (.int value.natAbs, rest)) :
    number (text (.int value) ++ rest) = .ok (.int value, rest) := by
  rw [text, Numeral.toList_toString]
  by_cases below : value < 0
  · rw [if_pos below, List.append_assoc, List.singleton_append, negative,
      show -(value.natAbs : Int) = value by omega]
  · rw [if_neg below, List.nil_append, positive, show (value.natAbs : Int) = value by omega]

/-- The text of a plain value begins with a mark that closes nothing. -/
theorem text_cons {value : Value} (plain : IsPlain value) :
    ∃ c rest, text value = c :: rest ∧ isMark c = true ∧ c ≠ ']' := by
  cases plain with
  | null => exact ⟨'n', _, rfl, by decide, by decide⟩
  | bool flag =>
      cases flag with
      | true => exact ⟨'t', _, rfl, by decide, by decide⟩
      | false => exact ⟨'f', _, rfl, by decide, by decide⟩
  | @int number short =>
      obtain ⟨c, rest, same, rfl | digit⟩ := text_int_cons number
      · exact ⟨'-', rest, same, by decide, by decide⟩
      · refine ⟨c, rest, same, by simp [isMark, Char.isAlphanum, digit], ?_⟩
        rintro rfl
        contradiction
  | string content => exact ⟨'"', _, rfl, by decide, by decide⟩
  | @list items each => cases items <;> exact ⟨'[', _, rfl, by decide, by decide⟩
  | @object members distinct each => cases members <;> exact ⟨'\x7b', _, rfl, by decide, by decide⟩

-- A property of all members of a list is decided by the members, not by all characters.
attribute [local instance (high)] List.decidableBAll

/-- The characters that begin a value that is not a number. -/
def marks : List Char :=
  ['[', '\x7b', 'n', 't', 'f', '"', '\'']

/-- Every mark is ASCII. -/
theorem isMark_code {c : Char} (mark : isMark c = true) : c.toNat < 0x80 := by
  rw [isMark, Bool.or_eq_true, List.contains_iff_mem] at mark
  rcases mark with word | listed
  · exact isAlphanum_code word
  · have codes : ∀ c ∈ ['"', '[', ']', '\x7b', '\x7d', ',', ':', '-'], c.toNat < 0x80 := by decide
    exact codes c listed

theorem not_isDigit_mark : ∀ mark ∈ marks, mark.isDigit = false := by
  decide

variable {dialect : Dialect} {ends follows : List Char → Prop}

theorem readsBack_null : ReadsBack dialect follows .null := by
  intro fuel rest ended enough
  cases fuel with
  | zero => contradiction
  | succ fuel => exact Dialect.value_scalar (by decide) (by decide) fuel _

theorem readsBack_bool (flag : Bool) : ReadsBack dialect follows (.bool flag) := by
  intro fuel rest ended enough
  cases fuel with
  | zero => contradiction
  | succ fuel => cases flag <;> exact Dialect.value_scalar (by decide) (by decide) fuel _

section

variable (lexemes : IsReadBy dialect ends)
include lexemes

theorem readsBack_string (content : String) : ReadsBack dialect follows (.string content) := by
  intro fuel rest ended enough
  cases fuel with
  | zero => contradiction
  | succ fuel =>
      have read := lexemes.string content rest
      rw [stringText, List.append_assoc, List.cons_append] at read
      rw [text, stringText, List.append_assoc, List.cons_append]
      exact Dialect.value_quote read fuel

theorem readsBack_int {number : Int}
    (short : (Nat.toDigits 10 number.natAbs).length ≤ Text.Numeral.mostDigits) :
    ReadsBack dialect ends (.int number) := by
  intro fuel rest ended enough
  cases fuel with
  | zero => contradiction
  | succ fuel =>
      have read := lexemes.number short ended
      obtain ⟨c, more, same, sign⟩ := text_int_cons number
      have different : ∀ mark ∈ marks, c ≠ mark := by
        rintro mark member rfl
        rcases sign with rfl | digit
        · contradiction
        · rw [not_isDigit_mark c member] at digit
          contradiction
      have unworded : Dialect.word? (c :: (more ++ rest)) = none := by
        simp [Dialect.word?, Dialect.words, List.isPrefixOf?, (different 'n' (by decide)).symm,
          (different 't' (by decide)).symm, (different 'f' (by decide)).symm]
      rw [same, List.cons_append] at read ⊢
      rw [Dialect.value_scalar (different '[' (by decide)) (different '\x7b' (by decide)), unworded]
      have unquoted : ¬ (c = '"' ∨ c = '\'') := by
        rintro (quote | quote)
        · exact different '"' (by decide) quote
        · exact different '\'' (by decide) quote
      simp only [if_neg unquoted]
      exact read

/-- After a comma, another item begins. -/
theorem next_item {value : Value} (plain : IsPlain value) (rest : List Char) :
    dialect.next ']' (',' :: (text value ++ rest)) = .ok (true, text value ++ rest) := by
  obtain ⟨c, more, same, mark, other⟩ := text_cons plain
  rw [same]
  exact Dialect.next_comma (by decide) other (lexemes.skip (by decide) _) (lexemes.skip mark _)

/-- After a comma, another member begins. -/
theorem next_member (name : String) (rest : List Char) :
    dialect.next '\x7d' (',' :: (stringText name ++ rest)) = .ok (true, stringText name ++ rest) :=
  Dialect.next_comma (by decide) (by decide) (lexemes.skip (by decide) _)
    (lexemes.skip (by decide) _)

/-- Items are read up to the end of their list. -/
theorem items_text {item : Value} {items : List Value}
    (each : ∀ value ∈ item :: items, IsPlain value ∧ ReadsBack dialect ends value) (fuel : Nat)
    (rest : List Char) (enough : 2 * (text item ++ itemsText items).length + 1 < fuel) :
    dialect.items fuel (text item ++ (itemsText items ++ ']' :: rest)) =
      .ok (item :: items, rest) := by
  induction items generalizing item fuel with
  | nil =>
      cases fuel with
      | zero => contradiction
      | succ fuel =>
          rw [itemsText, List.append_nil] at enough
          have read := (each item List.mem_cons_self).2 fuel (']' :: rest)
            (lexemes.ended ']' (by decide) rest) (by omega)
          rw [itemsText, List.nil_append, Dialect.items_step read,
            Dialect.next_closing (lexemes.skip (by decide))]
          rfl
  | cons next items inductionHypothesis =>
      cases fuel with
      | zero => contradiction
      | succ fuel =>
          simp only [itemsText, List.length_append, List.length_cons] at enough
          have others : ∀ value ∈ next :: items, IsPlain value ∧ ReadsBack dialect ends value :=
            fun value member => each value (List.mem_cons_of_mem item member)
          have read := (each item List.mem_cons_self).2 fuel
            (',' :: (text next ++ (itemsText items ++ ']' :: rest)))
            (lexemes.ended ',' (by decide) _) (by omega)
          have later := inductionHypothesis others fuel (by
            rw [List.length_append]
            omega)
          simp only [itemsText, List.append_assoc, List.cons_append]
          rw [Dialect.items_step read, next_item lexemes (others next List.mem_cons_self).1]
          simp only [Except.bind, if_true]
          rw [later]
          rfl

/-- A member is read up to what follows it. -/
theorem member_text {name : String} {item : Value} (plain : IsPlain item)
    (read : ReadsBack dialect ends item) {fuel : Nat} {rest : List Char} (ended : ends rest)
    (enough : 2 * (text item).length < fuel) :
    dialect.members (fuel + 1) (stringText name ++ ':' :: (text item ++ rest)) =
      (dialect.next '\x7d' rest).bind fun next =>
        if next.1 then
          (dialect.members fuel next.2).map fun others => ((name, item) :: others.1, others.2)
        else .ok ([(name, item)], next.2) := by
  obtain ⟨c, more, same, mark, -⟩ := text_cons plain
  have kept : dialect.skip (text item ++ rest) = text item ++ rest := by
    rw [same]
    exact lexemes.skip mark _
  refine Dialect.members_step (lexemes.key name _) (lexemes.skip (by decide) _) ?_
  rw [kept]
  exact read fuel rest ended enough

/-- Members are read up to the end of their object. -/
theorem members_text {name : String} {item : Value} {members : List (String × Value)}
    (each : ∀ member ∈ (name, item) :: members,
      IsPlain member.2 ∧ ReadsBack dialect ends member.2) (fuel : Nat) (rest : List Char)
    (enough : 2 * (stringText name ++ ':' :: text item ++ membersText members).length < fuel) :
    dialect.members fuel
        (stringText name ++ ':' :: (text item ++ (membersText members ++ '\x7d' :: rest))) =
      .ok ((name, item) :: members, rest) := by
  have own : IsPlain item ∧ ReadsBack dialect ends item := each (name, item) List.mem_cons_self
  induction members generalizing name item fuel with
  | nil =>
      cases fuel with
      | zero => contradiction
      | succ fuel =>
          simp only [membersText, List.append_nil, List.length_append, List.length_cons] at enough
          obtain ⟨plain, read⟩ := own
          rw [membersText, List.nil_append,
            member_text lexemes plain read (lexemes.ended '\x7d' (by decide) rest) (by omega),
            Dialect.next_closing (lexemes.skip (by decide))]
          rfl
  | cons next members inductionHypothesis =>
      obtain ⟨nextName, nextItem⟩ := next
      cases fuel with
      | zero => contradiction
      | succ fuel =>
          simp only [membersText, List.length_append, List.length_cons] at enough
          obtain ⟨plain, read⟩ := own
          have others : ∀ member ∈ (nextName, nextItem) :: members,
              IsPlain member.2 ∧ ReadsBack dialect ends member.2 :=
            fun member known => each member (List.mem_cons_of_mem (name, item) known)
          have later := inductionHypothesis others fuel (by
            simp only [List.length_append, List.length_cons]
            omega) (others (nextName, nextItem) List.mem_cons_self)
          simp only [membersText, List.append_assoc, List.cons_append] at later ⊢
          rw [member_text lexemes plain read (lexemes.ended ',' (by decide) _) (by omega),
            next_member lexemes]
          simp only [Except.bind, if_true]
          rw [later]
          rfl

theorem readsBack_list {items : List Value}
    (each : ∀ value ∈ items, IsPlain value ∧ ReadsBack dialect ends value) :
    ReadsBack dialect follows (.list items) := by
  intro fuel rest ended enough
  cases fuel with
  | zero => contradiction
  | succ fuel =>
      cases items with
      | nil =>
          rw [text, List.cons_append, List.singleton_append, Dialect.value,
            lexemes.skip (by decide)]
          rfl
      | cons item items =>
          rw [text] at enough ⊢
          simp only [List.length_append, List.length_cons, List.length_nil] at enough
          have inside := items_text lexemes each fuel rest (by
            rw [List.length_append]
            omega)
          obtain ⟨c, more, same, mark, other⟩ := text_cons (each item List.mem_cons_self).1
          simp only [List.append_assoc, List.cons_append, List.nil_append]
          rw [same, List.cons_append] at inside ⊢
          rw [Dialect.value_list (lexemes.skip mark _) other, inside]
          rfl

theorem readsBack_object {members : List (String × Value)}
    (distinct : (Mapping.keys members).Nodup)
    (each : ∀ member ∈ members, IsPlain member.2 ∧ ReadsBack dialect ends member.2) :
    ReadsBack dialect follows (.object members) := by
  intro fuel rest ended enough
  cases fuel with
  | zero => contradiction
  | succ fuel =>
      cases members with
      | nil =>
          rw [text, List.cons_append, List.singleton_append, Dialect.value,
            lexemes.skip (by decide)]
          rfl
      | cons member members =>
          rw [text] at enough ⊢
          simp only [List.length_append, List.length_cons, List.length_nil] at enough
          have inside := members_text lexemes each fuel rest (by
            simp only [List.length_append, List.length_cons]
            omega)
          simp only [List.append_assoc, List.cons_append, List.nil_append]
          rw [stringText, List.append_assoc, List.cons_append] at inside ⊢
          rw [Dialect.value_object (lexemes.skip (by decide) _) (by decide), inside]
          simp only [Except.map, Mapping.ofEntries_eq_self distinct]

/-- Every plain value is read back. -/
theorem readsBack {value : Value} (plain : IsPlain value) : ReadsBack dialect ends value := by
  induction plain with
  | null => exact readsBack_null
  | bool flag => exact readsBack_bool flag
  | int short => exact readsBack_int lexemes short
  | string content => exact readsBack_string lexemes content
  | list each inductionHypothesis =>
      exact readsBack_list lexemes fun item member =>
        ⟨each item member, inductionHypothesis item member⟩
  | object distinct each inductionHypothesis =>
      exact readsBack_object lexemes distinct fun member known =>
        ⟨each member known, inductionHypothesis member known⟩

/-- A text of a plain value is read as this value. -/
theorem IsReadBy.read_write (ended : ends []) (blank : dialect.skip [] = []) {value : Value}
    (plain : IsPlain value) : dialect.read (write value) = .ok value := by
  have read := readsBack lexemes plain (2 * (text value).length + 1) [] ended (Nat.lt_succ_self _)
  obtain ⟨c, more, same, mark, -⟩ := text_cons plain
  have kept : dialect.skip (text value) = text value := by
    rw [same]
    exact lexemes.skip mark more
  rw [List.append_nil] at read
  rw [Dialect.read, write, String.toList_ofList, kept, read]
  simp [bind, Except.bind, pure, Except.pure, blank]

end

end Compact
end SvgComponent.Value
