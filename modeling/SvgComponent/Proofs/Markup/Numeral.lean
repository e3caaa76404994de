/-
This file shows where markup fails to be cut into tokens because a numeral in an attribute has too
many digits.
-/

import SvgComponent.Proofs.Markup.CharacterReference
import SvgComponent.Proofs.Markup.Token

namespace SvgComponent.Markup

open CharacterReference

-- A property of all members of a list is decided by the members, not by all characters.
attribute [local instance (high)] List.decidableBAll

namespace Tag

/-- The raw values that are read one after the other up to the end of a start tag. -/
inductive HasValue : List Char → List Char → Prop
  | first {text name raw rest : List Char} (unfinished : ending? text = none)
      (found : attribute? text = some ((name, raw), rest)) : HasValue text raw
  | later {text name other rest raw : List Char} (unfinished : ending? text = none)
      (found : attribute? text = some ((name, other), rest)) (inner : HasValue rest raw) :
      HasValue text raw

/-- Nothing is read where a start tag ends or no attribute begins. -/
theorem not_hasValue {text : List Char}
    (stopped : (ending? text).isSome = true ∨ attribute? text = none) (raw : List Char) :
    ¬ HasValue text raw := by
  intro value
  have reading : ending? text = none ∧ attribute? text ≠ none := by
    cases value with
    | first unfinished found => exact ⟨unfinished, by simp [found]⟩
    | later unfinished found inner => exact ⟨unfinished, by simp [found]⟩
  rcases stopped with ended | missing
  · simp [reading.1] at ended
  · exact reading.2 missing

/-- The values are the value of the first attribute and those that are read after it. -/
theorem hasValue_iff {text name raw rest : List Char} (unfinished : ending? text = none)
    (found : attribute? text = some ((name, raw), rest)) (value : List Char) :
    HasValue text value ↔ value = raw ∨ HasValue rest value := by
  constructor
  · intro known
    cases known with
    | first _ again =>
        rw [found] at again
        obtain ⟨⟨-, rfl⟩, -⟩ : (name = _ ∧ raw = value) ∧ rest = _ := by simpa using again
        exact .inl rfl
    | later _ again inner =>
        rw [found] at again
        obtain ⟨-, rfl⟩ : (name = _ ∧ raw = _) ∧ rest = _ := by simpa using again
        exact .inr inner
  · rintro (rfl | inner)
    · exact .first unfinished found
    · exact .later unfinished found inner

/-- The attributes fail at an oversized numeral exactly if one of their values holds it. -/
theorem attributes_oversized_iff {text : List Char} {fuel : Nat} (enough : text.length < fuel) :
    attributes fuel text = .error .oversizedNumeral ↔
      ∃ raw, HasValue text raw ∧ HasOversizedNumeral raw := by
  induction fuel generalizing text with
  | zero => contradiction
  | succ fuel inductionHypothesis =>
      rw [attributes]
      cases ending : ending? text with
      | some read =>
          have none := not_hasValue (.inl (show (ending? text).isSome = true by simp [ending]))
          simp [none]
      | none =>
          cases entry : attribute? text with
          | none =>
              have none := not_hasValue (.inr entry)
              simp [none]
          | some read =>
              obtain ⟨⟨name, raw⟩, rest⟩ := read
              have shorter := attribute?_length entry
              have others := @inductionHypothesis rest (by omega)
              simp only [hasValue_iff ending entry, or_and_right, exists_or, exists_eq_left]
              rw [← others, ← decode?_eq_none_iff]
              cases decode? raw with
              | none => simp
              | some value =>
                  cases attributes fuel rest with
                  | error fault => simp [bind, Except.bind]
                  | ok found => simp [bind, Except.bind, pure, Except.pure]

end Tag

/-- A start tag with an oversized numeral in one of its values begins the markup. -/
def BeginsOversized (markup : List Char) : Prop :=
  ∃ tag rest raw, Tag.opening? markup = some (tag, rest) ∧ Tag.HasValue rest raw ∧
    HasOversizedNumeral raw

namespace Token

/-- What begins with a start tag begins with no other token. -/
theorem read_start_of_opening {markup tag rest : List Char} (length : Nat)
    (opened : Tag.opening? markup = some (tag, rest)) :
    read length markup = start length markup tag rest := by
  obtain ⟨body, bracket, named⟩ := Option.bind_eq_some_iff.mp opened
  obtain rfl := List.isPrefixOf?_eq_some_iff_append_eq.mp bracket
  cases body with
  | nil => contradiction
  | cons c body =>
      rw [Tag.name?, Option.ite_none_right_eq_some] at named
      have marks : ∀ mark ∈ ['!', '?', '/'], Tag.isNameStart mark = false := by decide
      have other : ∀ mark ∈ ['!', '?', '/'], c ≠ mark := by
        rintro mark member rfl
        rw [marks c member] at named
        simp at named
      have plain : IsPlain ('<' :: c :: body) := isPlain_tag body (by simp [other])
      have noClosing : Tag.closing? ('<' :: c :: body) = none := by
        simp [Tag.closing?, List.isPrefixOf?, (other '/' (by simp)).symm]
      rw [List.singleton_append] at opened ⊢
      rw [read_plain length plain, noClosing, opened]

/-- A start tag fails at an oversized numeral exactly if its attributes do. -/
theorem start_oversized_iff (length : Nat) (markup tag rest : List Char) :
    start length markup tag rest = .error .oversizedNumeral ↔
      Tag.attributes (length + 1) rest = .error .oversizedNumeral := by
  rw [start]
  cases Tag.attributes (length + 1) rest with
  | error fault => cases fault <;> simp
  | ok found =>
      obtain ⟨entries, selfClosed, rest⟩ := found
      simp only
      split
      · split
        · simp
        · split <;> simp
      · simp

/-- Only a start tag cannot be read. -/
theorem opening?_of_read_error {length : Nat} {markup : List Char} {error : Error}
    (failed : read length markup = .error error) :
    ∃ tag rest, Tag.opening? markup = some (tag, rest) := by
  unfold read at failed
  split at failed
  · contradiction
  · split at failed
    · contradiction
    · contradiction
    · case _ tag rest _ _ opened => exact ⟨tag, rest, opened⟩
    · contradiction

/-- A token cannot be read at an oversized numeral exactly if it is a start tag with one. -/
theorem read_oversized_iff {length : Nat} {markup : List Char} (enough : markup.length ≤ length) :
    read length markup = .error .oversizedNumeral ↔ BeginsOversized markup := by
  have started {tag rest : List Char} (opened : Tag.opening? markup = some (tag, rest)) :
      read length markup = .error .oversizedNumeral ↔
        ∃ raw, Tag.HasValue rest raw ∧ HasOversizedNumeral raw := by
    have within : rest.length < length + 1 := by
      obtain ⟨body, bracket, named⟩ := Option.bind_eq_some_iff.mp opened
      have shorter := ((Tag.name?_suffix named).trans (Text.isPrefixOf?_suffix bracket)).length_le
      omega
    rw [read_start_of_opening length opened, start_oversized_iff,
      Tag.attributes_oversized_iff within]
  constructor
  · intro failed
    obtain ⟨tag, rest, opened⟩ := opening?_of_read_error failed
    obtain ⟨raw, value, oversized⟩ := (started opened).mp failed
    exact ⟨tag, rest, raw, opened, value, oversized⟩
  · rintro ⟨tag, rest, raw, opened, value, oversized⟩
    exact (started opened).mpr ⟨raw, value, oversized⟩

/-- The markup after the last of the tokens that begin at the front of it. -/
def unread (tokens : List Token) (markup : List Char) : List Char :=
  (tokens.getLast?.map Token.rest).getD markup

theorem unread_cons (token : Token) (tokens : List Token) (markup : List Char) :
    unread (token :: tokens) markup = unread tokens token.rest := by
  cases tokens with
  | nil => rfl
  | cons next tokens =>
      rw [unread, unread, List.getLast?_cons_cons]
      cases found : (next :: tokens).getLast? with
      | none => simp at found
      | some last => rfl

/-- The error after the tokens is the reason why the next one cannot be read. -/
theorem tokensFrom_error_iff {length fuel : Nat} {markup : List Char}
    (enough : markup.length ≤ fuel) (error : Error) :
    (tokensFrom length fuel markup).2 = some error ↔
      read length (unread (tokensFrom length fuel markup).1 markup) = .error error := by
  induction fuel generalizing markup with
  | zero =>
      obtain rfl := List.length_eq_zero_iff.mp (Nat.le_zero.mp enough)
      constructor <;> intro failed <;> contradiction
  | succ fuel inductionHypothesis =>
      cases markup with
      | nil => constructor <;> intro failed <;> contradiction
      | cons c markup =>
          simp only [tokensFrom]
          cases reading : read length (c :: markup) with
          | error fault => simp [unread, reading]
          | ok found =>
              obtain ⟨event, rest⟩ := found
              have shorter := (read_suffix reading).length_le
              have within : rest.length ≤ fuel := by
                rw [List.length_cons] at enough
                omega
              simp only [unread_cons]
              exact inductionHypothesis within

/-- The tokens leave an end of their markup. -/
theorem unread_suffix (length fuel : Nat) (markup : List Char) :
    unread (tokensFrom length fuel markup).1 markup <:+ markup := by
  induction fuel generalizing markup with
  | zero => exact List.suffix_rfl
  | succ fuel inductionHypothesis =>
      cases markup with
      | nil => exact List.suffix_rfl
      | cons c markup =>
          simp only [tokensFrom]
          cases reading : read length (c :: markup) with
          | error fault => exact List.suffix_rfl
          | ok found =>
              obtain ⟨event, rest⟩ := found
              simp only [unread_cons]
              exact (inductionHypothesis rest).trans
                ((read_suffix reading).trans (List.suffix_cons c markup))

/-- The tokens end at an oversized numeral exactly if a start tag with one comes next. -/
theorem tokens_oversized_iff (markup : List Char) :
    (tokens markup).2 = some .oversizedNumeral ↔
      BeginsOversized (unread (tokens markup).1 markup) := by
  have within := (unread_suffix markup.length markup.length markup).length_le
  rw [tokens, tokensFrom_error_iff (Nat.le_refl _), read_oversized_iff within]

end Token

end SvgComponent.Markup
