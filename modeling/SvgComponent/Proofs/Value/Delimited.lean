/-
This file shows that the compact text of a value ends where the value does. It has no blank outside
its strings and no control character at all.
-/

import Mathlib.Algebra.Group.Int.Defs
import Mathlib.Algebra.Group.Nat.Defs
import SvgComponent.Proofs.Value.Strict

namespace SvgComponent.Value

open Text

-- A property of all members of a list is decided by the members, not by all characters.
attribute [local instance (high)] List.decidableBAll

/-- The value at the front of a text, and the text after it. -/
def Dialect.front (dialect : Dialect) : Scanner Value :=
  fun text => dialect.value (2 * text.length + 1) text

namespace Compact

/-- What stands outside the strings of a text. Inside a string, a backslash takes the next character
with it. -/
def outside : (inside : Bool) → List Char → List Char
  | _, [] => []
  | false, '"' :: rest => outside true rest
  | false, c :: rest => c :: outside false rest
  | true, '"' :: rest => outside false rest
  | true, '\\' :: _ :: rest => outside true rest
  | true, _ :: rest => outside true rest

/-- A text has no blank outside its strings, and no control character. -/
structure IsTight (text : List Char) : Prop where
  outside : ∃ shape, (∀ rest, outside false (text ++ rest) = shape ++ Compact.outside false rest) ∧
    ∀ c ∈ shape, isBlank c = false
  visible : ∀ c ∈ text, 0x20 ≤ c.toNat

namespace IsTight

theorem nil : IsTight [] where
  outside := ⟨[], fun _ => rfl, nofun⟩
  visible := nofun

theorem append {first second : List Char} (front : IsTight first) (back : IsTight second) :
    IsTight (first ++ second) where
  outside := by
    obtain ⟨shape, same, tight⟩ := front.outside
    obtain ⟨more, equal, close⟩ := back.outside
    refine ⟨shape ++ more, fun rest => ?_, fun c member => ?_⟩
    · rw [List.append_assoc, same, equal, List.append_assoc]
    · exact (List.mem_append.mp member).elim (tight c) (close c)
  visible := fun c member => (List.mem_append.mp member).elim (front.visible c) (back.visible c)

/-- A mark other than a quote is outside all strings. -/
theorem mark {c : Char} (mark : isMark c = true) (unquoted : c ≠ '"') : IsTight [c] := by
  have each : ∀ code < 0x80, isMark (Char.ofNat code) = true →
      isBlank (Char.ofNat code) = false ∧ 0x20 ≤ code := by decide
  have found := each c.toNat (isMark_code mark)
  rw [Char.ofNat_toNat] at found
  obtain ⟨solid, visible⟩ := found mark
  refine ⟨⟨[c], fun rest => ?_, by simpa using solid⟩, by simpa using visible⟩
  rw [List.singleton_append, Compact.outside]
  · rfl
  · rintro rfl
    contradiction

theorem marks {text : List Char} (all : ∀ c ∈ text, isMark c = true ∧ c ≠ '"') : IsTight text := by
  induction text with
  | nil => exact nil
  | cons c text inductionHypothesis =>
      obtain ⟨mark, unquoted⟩ := all c List.mem_cons_self
      exact (IsTight.mark mark unquoted).append
        (inductionHypothesis fun x member => all x (List.mem_cons_of_mem c member))

end IsTight

/-- A character that is neither a quote nor a backslash stays inside its string. -/
theorem outside_plain {c : Char} (unquoted : c ≠ '"') (unescaped : c ≠ '\\') (rest : List Char) :
    outside true (c :: rest) = outside true rest := by
  rw [outside]
  · exact unquoted
  · exact fun _ _ same => absurd same unescaped

theorem outside_digits {digits : List Char} (all : ∀ c ∈ digits, Hexadecimal.isDigit c = true)
    (rest : List Char) : outside true (digits ++ rest) = outside true rest := by
  induction digits with
  | nil => rfl
  | cons c digits inductionHypothesis =>
      have digit := all c List.mem_cons_self
      have later := inductionHypothesis fun x member => all x (List.mem_cons_of_mem c member)
      rw [List.cons_append, outside_plain _ _, later] <;>
      · rintro rfl
        contradiction

/-- An escaped character stays inside its string. -/
theorem outside_escape (c : Char) (rest : List Char) :
    outside true (escape c ++ rest) = outside true rest := by
  unfold escape
  split_ifs with quote backslash backspace tab lineFeed formFeed carriageReturn control
  · rfl
  · rfl
  · rfl
  · rfl
  · rfl
  · rfl
  · rfl
  · obtain ⟨-, all, -⟩ := Hexadecimal.write_control c.toNat control
    exact outside_digits (List.all_eq_true.mp all) rest
  · exact outside_plain quote backslash rest

theorem outside_flatMap (text rest : List Char) :
    outside true (text.flatMap escape ++ rest) = outside true rest := by
  induction text with
  | nil => rfl
  | cons c text inductionHypothesis =>
      rw [List.flatMap_cons, List.append_assoc, outside_escape, inductionHypothesis]

/-- Controls are escaped, and their escapes are visible. -/
theorem escape_visible (c : Char) : ∀ x ∈ escape c, 0x20 ≤ x.toNat := by
  by_cases control : c.toNat < 0x20
  · have each : ∀ code < 0x20, ∀ x ∈ escape (Char.ofNat code), 0x20 ≤ x.toNat := by decide
    have escaped := each c.toNat control
    rwa [Char.ofNat_toNat] at escaped
  · unfold escape
    split_ifs
    all_goals first | decide | simpa using control

theorem IsTight.string (content : String) : IsTight (stringText content) where
  outside := by
    refine ⟨[], fun rest => ?_, nofun⟩
    rw [stringText, List.append_assoc, List.cons_append, Compact.outside, outside_flatMap]
    rfl
  visible := by
    intro c member
    rw [stringText, List.cons_append, List.mem_cons, List.mem_append, List.mem_singleton,
      List.mem_flatMap] at member
    rcases member with rfl | ⟨x, -, inside⟩ | rfl
    · decide
    · exact escape_visible x c inside
    · decide

theorem isTight_items {items : List Value} (each : ∀ item ∈ items, IsTight (text item)) :
    IsTight (itemsText items) := by
  induction items with
  | nil => exact .nil
  | cons item items inductionHypothesis =>
      have comma : IsTight [','] := .mark rfl (by decide)
      have others := inductionHypothesis fun x member => each x (List.mem_cons_of_mem item member)
      exact comma.append ((each item List.mem_cons_self).append others)

/-- A member of an object is its name, a colon and its value. -/
theorem isTight_member (name : String) {item : List Char} (tight : IsTight item) :
    IsTight (stringText name ++ ':' :: item) := by
  have colon : IsTight [':'] := .mark rfl (by decide)
  exact (IsTight.string name).append (colon.append tight)

theorem isTight_members {members : List (String × Value)}
    (each : ∀ member ∈ members, IsTight (text member.2)) : IsTight (membersText members) := by
  induction members with
  | nil => exact .nil
  | cons member members inductionHypothesis =>
      obtain ⟨name, item⟩ := member
      have comma : IsTight [','] := .mark rfl (by decide)
      have first := isTight_member name (each (name, item) List.mem_cons_self)
      have others := inductionHypothesis fun x known =>
        each x (List.mem_cons_of_mem (name, item) known)
      have whole := (comma.append first).append others
      simpa [membersText] using whole

/-- The text of a plain value is tight. -/
theorem isTight_text {value : Value} (plain : IsPlain value) : IsTight (text value) := by
  induction plain with
  | null => exact .marks (by decide)
  | bool flag => cases flag <;> exact .marks (by decide)
  | @int number short =>
      rw [text, Numeral.toList_toString]
      have sign : IsTight (if number < 0 then ['-'] else []) := by
        split
        · exact .mark rfl (by decide)
        · exact .nil
      refine sign.append (.marks fun c member => ?_)
      have digit := Numeral.isDigit_toDigits member
      refine ⟨by simp [isMark, Char.isAlphanum, digit], ?_⟩
      rintro rfl
      contradiction
  | string content => exact .string content
  | @list items each inductionHypothesis =>
      have opening : IsTight ['['] := .mark rfl (by decide)
      have closing : IsTight [']'] := .mark rfl (by decide)
      cases items with
      | nil => exact opening.append closing
      | cons item items =>
          have first := inductionHypothesis item List.mem_cons_self
          have others := isTight_items fun x member =>
            inductionHypothesis x (List.mem_cons_of_mem item member)
          have whole := (opening.append (first.append others)).append closing
          simpa [text] using whole
  | @object members distinct each inductionHypothesis =>
      have opening : IsTight ['\x7b'] := .mark rfl (by decide)
      have closing : IsTight ['\x7d'] := .mark rfl (by decide)
      cases members with
      | nil => exact opening.append closing
      | cons member members =>
          obtain ⟨name, item⟩ := member
          have first := isTight_member name (inductionHypothesis (name, item) List.mem_cons_self)
          have others := isTight_members fun x known =>
            inductionHypothesis x (List.mem_cons_of_mem (name, item) known)
          have whole := (opening.append (first.append others)).append closing
          simpa [text] using whole

theorem areItemsWritable_iff (items : List Value) :
    areItemsWritable items = true ↔ ∀ item ∈ items, isWritable item = true := by
  induction items with
  | nil => simp [areItemsWritable]
  | cons item items inductionHypothesis => simp [areItemsWritable, inductionHypothesis]

theorem areMembersWritable_iff (members : List (String × Value)) :
    areMembersWritable members = true ↔ ∀ member ∈ members, isWritable member.2 = true := by
  induction members with
  | nil => simp [areMembersWritable]
  | cons member members inductionHypothesis =>
      rw [areMembersWritable, Bool.and_eq_true, inductionHypothesis, List.forall_mem_cons]

/-- An integer has a text if its magnitude is small enough. -/
theorem isWritable_int_iff (number : Int) :
    isWritable (.int number) = true ↔ number.natAbs < 10 ^ Numeral.mostDigits := by
  rw [isWritable, decide_eq_true_iff, Nat.length_toDigits_le_iff (by decide) (by decide)]

/-- Every plain value has a text. -/
theorem isWritable_of_isPlain {value : Value} (plain : IsPlain value) :
    isWritable value = true := by
  induction plain with
  | null => rfl
  | bool flag => rfl
  | int short => exact decide_eq_true short
  | string content => rfl
  | list each inductionHypothesis => exact (areItemsWritable_iff _).mpr inductionHypothesis
  | object distinct each inductionHypothesis =>
      exact (areMembersWritable_iff _).mpr inductionHypothesis

/-- A plain value has a text, and the strict dialect reads it back from the front of every text that
begins with it, unless a number could go on behind it. The text has no blank outside its strings and
no control character. -/
theorem write?_delimited {value : Value} (plain : IsPlain value) {rest : List Char}
    (ended : Strict.EndsNumber rest) :
    ∃ written, write? value = some written ∧
      Strict.dialect.front (written.toList ++ rest) = .ok (value, rest) ∧
      (∀ c ∈ outside false written.toList, isBlank c = false) ∧
      ∀ c ∈ written.toList, 0x20 ≤ c.toNat := by
  have tight := isTight_text plain
  obtain ⟨shape, same, solid⟩ := tight.outside
  have whole := same []
  rw [List.append_nil] at whole
  refine ⟨write value, if_pos (isWritable_of_isPlain plain), ?_⟩
  rw [write, String.toList_ofList, whole]
  refine ⟨readsBack Strict.readsLexemes plain _ rest ended ?_, by simpa [outside] using solid,
    tight.visible⟩
  rw [List.length_append]
  omega

/-- A value is read up to the bracket behind it, and a quote in a name ends no string early. -/
theorem write?_delimited_nested :
    ∃ value, IsPlain value ∧ Strict.EndsNumber "]1".toList ∧
      write? value = some "\x7b\"a\\\" \":[-70,\"\\u001f\"],\"\":0\x7d" ∧
      Strict.dialect.front "\x7b\"a\\\" \":[-70,\"\\u001f\"],\"\":0\x7d]1".toList =
        .ok (value, "]1".toList) := by
  have items : IsPlain (.list [.int (-70), .string "\x1f"]) := by
    refine .list ?_
    simp only [List.forall_mem_cons]
    exact ⟨.int (by decide), .string _, nofun⟩
  have plain : IsPlain (.object [("a\" ", .list [.int (-70), .string "\x1f"]), ("", .int 0)]) := by
    refine .object (by decide) ?_
    simp only [List.forall_mem_cons]
    exact ⟨items, .int (by decide), nofun⟩
  have ended : Strict.EndsNumber "]1".toList := by
    intro c first
    obtain rfl := Option.some.inj first
    rfl
  obtain ⟨written, same, read, -⟩ := write?_delimited plain ended
  have text : write? (.object [("a\" ", .list [.int (-70), .string "\x1f"]), ("", .int 0)]) =
      some "\x7b\"a\\\" \":[-70,\"\\u001f\"],\"\":0\x7d" := by
    decide +kernel
  obtain rfl := Option.some.inj (same.symm.trans text)
  exact ⟨_, plain, ended, text, read⟩

/-- A power of ten with more digits than can be written has no text. -/
theorem write?_power {zeros : Nat} (many : Numeral.mostDigits ≤ zeros) :
    write? (.int (10 ^ zeros)) = none := by
  refine if_neg ?_
  rw [isWritable_int_iff, Int.natAbs_pow]
  exact Nat.not_lt.mpr (Nat.pow_le_pow_right (by decide) many)

/-- An integer of more than 4300 digits has no text that could be read back. -/
theorem write?_oversized :
    ¬ ∃ written, write? (.int (10 ^ 4300)) = some written ∧
      Strict.dialect.front (written.toList ++ []) = .ok (.int (10 ^ 4300), []) := by
  rintro ⟨written, same, -⟩
  have many : Numeral.mostDigits ≤ 4300 := Nat.le_refl _
  rw [write?_power many] at same
  contradiction

end Compact
end SvgComponent.Value
