/-
This file shows how markup is cut into tokens, and where markup is read as tags and texts alone.
-/

import SvgComponent.Proofs.Markup.Slice

namespace SvgComponent.Markup

open Text

-- A property of all members of a list is decided by the members, not by all characters.
attribute [local instance (high)] List.decidableBAll

namespace Token

/-- Upper case keeps every character that is no letter, and reaches none. -/
theorem toUpper_ne {c mark : Char} (other : c ≠ mark) (low : mark.toNat < 0x41) :
    c.toUpper ≠ mark := by
  unfold Char.toUpper
  split
  · case _ small =>
      rintro rfl
      simp only [Char.toNat, UInt32.le_iff_toNat_le, Char.reduceVal,
        UInt32.reduceToNat] at low small
      rw [UInt32.toNat_add] at low
      simp only [UInt32.reduceSub, UInt32.reduceToNat] at low
      omega
  · exact other

/-- A mark without letters begins a text if it begins the text in upper case. -/
theorem prefix_of_upper {mark text : List Char} (low : ∀ c ∈ mark, c.toNat < 0x41)
    (marked : mark <+: text.map Char.toUpper) : mark <+: text := by
  induction mark generalizing text with
  | nil => exact List.nil_prefix
  | cons c mark inductionHypothesis =>
      cases text with
      | nil => simp at marked
      | cons x text =>
          rw [List.map_cons, List.cons_prefix_cons] at marked
          have tail := inductionHypothesis
            (fun other member => low other (List.mem_cons_of_mem c member)) marked.2
          have same : x = c := by
            by_contra other
            exact toUpper_ne other (low c List.mem_cons_self) marked.1.symm
          rw [same]
          exact List.cons_prefix_cons.mpr ⟨rfl, tail⟩

/-- Comments, document types, verbatim sections and instructions begin with one of two marks. -/
def IsPlain (markup : List Char) : Prop :=
  ∀ mark ∈ [['<', '!'], ['<', '?']], ¬ mark <+: markup

theorem isPlain_text {c : Char} (rest : List Char) (visible : c ≠ '<') : IsPlain (c :: rest) := by
  intro mark member marked
  simp only [List.mem_cons, List.not_mem_nil, or_false] at member
  rcases member with rfl | rfl <;>
    exact visible (List.cons_prefix_cons.mp marked).1.symm

theorem isPlain_tag {c : Char} (rest : List Char) (other : c ∉ ['!', '?']) :
    IsPlain ('<' :: c :: rest) := by
  intro mark member marked
  simp only [List.mem_cons, List.not_mem_nil, or_false, not_or] at member other
  rcases member with rfl | rfl
  · exact other.1 (List.cons_prefix_cons.mp (List.cons_prefix_cons.mp marked).2).1.symm
  · exact other.2 (List.cons_prefix_cons.mp (List.cons_prefix_cons.mp marked).2).1.symm

/-- A longer mark does not begin a plain text either. -/
theorem isPrefixOf?_plain {text mark : List Char} (absent : ¬ mark <+: text) (more : List Char) :
    (mark ++ more).isPrefixOf? text = none := by
  cases found : (mark ++ more).isPrefixOf? text with
  | none => rfl
  | some rest =>
      have whole := List.isPrefixOf?_eq_some_iff_append_eq.mp found
      rw [List.append_assoc] at whole
      exact absurd ⟨_, whole⟩ absent

/-- Nothing at the front of a plain text is skipped or taken verbatim. -/
theorem read_plain (length : Nat) {markup : List Char} (plain : IsPlain markup) :
    read length markup =
      match Tag.closing? markup, Tag.opening? markup with
      | some (name, rest), _ => .ok (.endTag (String.ofList name), rest)
      | none, some (name, rest) => start length markup name rest
      | none, none => .ok (text markup) := by
  have declared : ¬ ['<', '!'] <+: markup := plain _ (by simp)
  have instructed : ¬ ['<', '?'] <+: markup := plain _ (by simp)
  have noComment : comment? markup = none := by
    have front := isPrefixOf?_plain declared ['-', '-']
    rw [comment?, show ['<', '!', '-', '-'] = ['<', '!'] ++ ['-', '-'] from rfl, front]
    rfl
  have noDoctype : doctype? markup = none := by
    have upper : ¬ ['<', '!'] <+: (markup.take 9).map Char.toUpper := fun marked =>
      declared ((prefix_of_upper (by decide) marked).trans (List.take_prefix 9 markup))
    have front := isPrefixOf?_plain upper ['D', 'O', 'C', 'T', 'Y', 'P', 'E']
    unfold doctype?
    exact congrArg (Option.bind · _) front
  have noInstruction : instruction? markup = none := by
    have front := isPrefixOf?_plain instructed []
    rw [instruction?, show ['<', '?'] = ['<', '?'] ++ [] from rfl, front]
    rfl
  have noVerbatim : verbatim? markup = none := by
    have front := isPrefixOf?_plain declared ['[', 'C', 'D', 'A', 'T', 'A', '[']
    unfold verbatim?
    exact congrArg (Option.bind · _) front
  rw [read, noComment, noDoctype, noInstruction, noVerbatim]
  cases Tag.closing? markup with
  | some found => rfl
  | none =>
      cases Tag.opening? markup with
      | some found => rfl
      | none => rfl

/-- A text is read from the markup as it stands there. -/
theorem read_text_subset {length : Nat} {markup raw rest : List Char}
    (found : read length markup = .ok (.text raw, rest)) : raw ⊆ markup := by
  rcases read_cases found with ⟨other, -⟩ | ⟨_, other, -⟩ | ⟨_, other, -⟩ |
    ⟨name, after, -, started⟩ | plain
  · contradiction
  · contradiction
  · contradiction
  · rcases start_event started with other | ⟨_, _, other, -⟩ <;> contradiction
  · cases markup with
    | nil => simp_all [text]
    | cons c markup =>
        simp only [text, Prod.mk.injEq, Event.text.injEq] at plain
        rw [← plain.1]
        exact List.cons_subset_cons c (List.takeWhile_prefix _).subset

/-- Every token is read at an end of the markup. -/
theorem tokensFrom_read {length fuel : Nat} {markup : List Char} {token : Token}
    (member : token ∈ (tokensFrom length fuel markup).1) :
    token.markup <:+ markup ∧ read length token.markup = .ok (token.event, token.rest) := by
  induction fuel generalizing markup with
  | zero => simp [tokensFrom] at member
  | succ fuel inductionHypothesis =>
      cases markup with
      | nil => simp [tokensFrom] at member
      | cons c markup =>
          rw [tokensFrom] at member
          · cases reading : read length (c :: markup) with
            | error error => simp [reading] at member
            | ok found =>
                obtain ⟨event, rest⟩ := found
                simp only [reading, List.mem_cons] at member
                rcases member with rfl | later
                · exact ⟨List.suffix_rfl, reading⟩
                · obtain ⟨suffix, found⟩ := inductionHypothesis later
                  have after := (read_suffix reading).trans (List.suffix_cons c markup)
                  exact ⟨suffix.trans after, found⟩
          · simp

/-- The characters of all texts stand in the markup. -/
theorem tokensFrom_text_subset {length fuel : Nat} {markup raw : List Char} {token : Token}
    (member : token ∈ (tokensFrom length fuel markup).1) (textual : token.event = .text raw) :
    raw ⊆ markup := by
  obtain ⟨suffix, found⟩ := tokensFrom_read member
  rw [textual] at found
  exact List.Subset.trans (read_text_subset found) suffix.subset

/-- More steps than characters do not change the tokens. -/
theorem tokensFrom_enough {length : Nat} {markup : List Char} {fuel : Nat}
    (enough : markup.length ≤ fuel) :
    tokensFrom length fuel markup = tokensFrom length markup.length markup := by
  apply steps_enough _ _ enough
  · intro fuel
    cases fuel <;> rfl
  · intro first second c markup shorter
    simp only [tokensFrom]
    cases reading : read length (c :: markup) with
    | error fault => rfl
    | ok found => simp only [shorter found.2 (read_suffix reading).length_le]

/-- The events of markup that is part of a text of the given length, and the error at their end. -/
def events (length : Nat) (markup : List Char) : List Event × Option Error :=
  ((tokensFrom length markup.length markup).1.map Token.event,
    (tokensFrom length markup.length markup).2)

@[simp] theorem events_nil (length : Nat) : events length [] = ([], none) := rfl

/-- The events begin with the event that is read first. -/
theorem events_cons {length : Nat} {c : Char} {markup rest : List Char} {event : Event}
    (found : read length (c :: markup) = .ok (event, rest)) :
    events length (c :: markup) =
      (event :: (events length rest).1, (events length rest).2) := by
  simp only [events, List.length_cons, tokensFrom, found,
    tokensFrom_enough (read_suffix found).length_le, List.map_cons]

/-- Nothing is read where the first event cannot be read. -/
theorem events_error {length : Nat} {c : Char} {markup : List Char} {error : Error}
    (failed : read length (c :: markup) = .error error) :
    events length (c :: markup) = ([], some error) := by
  simp only [events, List.length_cons, tokensFrom, failed, List.map_nil]

end Token
end SvgComponent.Markup
