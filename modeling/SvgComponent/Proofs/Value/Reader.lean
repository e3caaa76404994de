/-
This file shows how a dialect reads the items of a list and the members of an object, one by one.
-/

import SvgComponent.Value.Reader

namespace SvgComponent.Value.Dialect

variable {dialect : Dialect}

/-- A list or an object ends at its closing mark. -/
theorem next_closing {closing : Char}
    (kept : ∀ rest, dialect.skip (closing :: rest) = closing :: rest) (rest : List Char) :
    dialect.next closing (closing :: rest) = .ok (false, rest) := by
  rw [next, kept]
  simp

/-- After a comma, a list or an object goes on. -/
theorem next_comma {closing c : Char} {rest : List Char} (other : closing ≠ ',')
    (unfinished : c ≠ closing) (comma : dialect.skip (',' :: c :: rest) = ',' :: c :: rest)
    (kept : dialect.skip (c :: rest) = c :: rest) :
    dialect.next closing (',' :: c :: rest) = .ok (true, c :: rest) := by
  simp [next, comma, kept, unfinished, other.symm]

/-- An item is read up to what follows it. -/
theorem items_step {fuel : Nat} {text rest : List Char} {item : Value}
    (read : dialect.value fuel text = .ok (item, rest)) :
    dialect.items (fuel + 1) text =
      (dialect.next ']' rest).bind fun next =>
        if next.1 then
          (dialect.items fuel next.2).map fun others => (item :: others.1, others.2)
        else .ok ([item], next.2) := by
  rw [items, read]
  simp only [bind, Except.bind, pure, Except.pure]
  cases dialect.next ']' rest with
  | error error => rfl
  | ok next =>
      simp only
      split
      · cases dialect.items fuel next.2 <;> rfl
      · rfl

/-- A member is read up to what follows it. -/
theorem members_step {fuel : Nat} {text after inside rest : List Char} {name : String}
    {item : Value}
    (named : dialect.key text = .ok (name, after)) (colon : dialect.skip after = ':' :: inside)
    (read : dialect.value fuel (dialect.skip inside) = .ok (item, rest)) :
    dialect.members (fuel + 1) text =
      (dialect.next '\x7d' rest).bind fun next =>
        if next.1 then
          (dialect.members fuel next.2).map fun others => ((name, item) :: others.1, others.2)
        else .ok ([(name, item)], next.2) := by
  rw [members, named]
  simp only [bind, Except.bind, colon, read, pure, Except.pure]
  cases dialect.next '\x7d' rest with
  | error error => rfl
  | ok next =>
      simp only
      split
      · cases dialect.members fuel next.2 <;> rfl
      · rfl

/-- A text that opens neither a list nor an object is a word, a string or a number. -/
theorem value_scalar {c : Char} (list : c ≠ '[') (object : c ≠ '\x7b') (fuel : Nat)
    (rest : List Char) :
    dialect.value (fuel + 1) (c :: rest) =
      match word? (c :: rest) with
      | some found => .ok found
      | none =>
          if c = '"' ∨ c = '\'' then
            (dialect.string (c :: rest)).map fun found => (.string found.1, found.2)
          else dialect.number (c :: rest) := by
  rw [value]
  · cases word? (c :: rest) with
    | some found => rfl
    | none =>
        simp only [List.head?_cons, Option.some.injEq, Bool.or_eq_true, decide_eq_true_eq]
        split
        · cases dialect.string (c :: rest) <;> rfl
        · rfl
  · rintro rest same
    exact list (List.cons.inj same).1
  · rintro rest same
    exact object (List.cons.inj same).1

/-- A text that begins with a quote is a string. -/
theorem value_quote {rest after : List Char} {content : String}
    (read : dialect.string ('"' :: rest) = .ok (content, after)) (fuel : Nat) :
    dialect.value (fuel + 1) ('"' :: rest) = .ok (.string content, after) := by
  rw [value_scalar (by decide) (by decide), read]
  rfl

/-- A list that does not end at once holds items. -/
theorem value_list {c : Char} {rest : List Char} (kept : dialect.skip (c :: rest) = c :: rest)
    (other : c ≠ ']') (fuel : Nat) :
    dialect.value (fuel + 1) ('[' :: c :: rest) =
      (dialect.items fuel (c :: rest)).map fun found => (.list found.1, found.2) := by
  rw [value, kept]
  split
  · case _ closed => exact absurd (List.cons.inj closed).1 other
  · cases dialect.items fuel (c :: rest) <;> rfl

/-- An object that does not end at once holds members. -/
theorem value_object {c : Char} {rest : List Char} (kept : dialect.skip (c :: rest) = c :: rest)
    (other : c ≠ '\x7d') (fuel : Nat) :
    dialect.value (fuel + 1) ('\x7b' :: c :: rest) =
      (dialect.members fuel (c :: rest)).map fun found =>
        (.object (Mapping.ofEntries found.1), found.2) := by
  rw [value, kept]
  split
  · case _ closed => exact absurd (List.cons.inj closed).1 other
  · cases dialect.members fuel (c :: rest) <;> rfl

end SvgComponent.Value.Dialect
