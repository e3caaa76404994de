/-
This file shows where a style text is cut into declarations: at every semicolon outside parentheses,
and inside parentheses at those after which another parenthesis opens first.
-/

import SvgComponent.Markup.Style
import SvgComponent.Proofs.Mapping
import SvgComponent.Proofs.Markup.Style.Parentheses

namespace SvgComponent.Markup.Style

open Text

/-- After every semicolon of a guarded text the first parenthesis closes. -/
def IsGuarded (text : List Char) : Prop :=
  ∀ before after, text = before ++ ';' :: after → ClosesFirst after

/-- Parts are balanced, and their semicolons stand inside parentheses. -/
structure IsPart (text : List Char) : Prop where
  balanced : IsBalanced text
  inside : ∀ before after, text = before ++ ';' :: after → IsOpen before

theorem closesNext_iff (text : List Char) : closesNext text = true ↔ ClosesFirst text := by
  rw [closesNext, decide_eq_true_iff, List.find?_eq_some_iff_append]
  simp [IsPlain, ClosesFirst]

/-- A text in front of one that does not close next closes next only by itself. -/
theorem closesNext_append {rest : List Char} (opens : closesNext rest = false)
    (front : List Char) : closesNext (front ++ rest) = closesNext front := by
  simp only [closesNext, List.find?_append] at opens ⊢
  cases front.find? fun c => c = '(' || c = ')' with
  | none => exact opens
  | some c => rfl

/-- A balanced text closes nothing that stands before it. -/
theorem IsBalanced.closesNext {text : List Char} (balanced : IsBalanced text) :
    closesNext text = false := by
  rw [Bool.eq_false_iff, ne_eq, closesNext_iff]
  rintro ⟨before, after, rfl, plain⟩
  obtain ⟨opens, closes⟩ := count_plain plain
  have shorter : before ++ [')'] <+: before ++ ')' :: after := by simp
  have within := balanced.front _ shorter
  simp [opens, closes] at within

theorem exists_declarations (text : List Char) :
    ∃ first others, declarations text = first :: others := by
  cases text with
  | nil => exact ⟨_, _, rfl⟩
  | cons c rest =>
      rw [declarations]
      split
      · exact ⟨_, _, rfl⟩
      · split <;> exact ⟨_, _, rfl⟩

/-- A semicolon is a separator unless the text after it closes a parenthesis next. What stands
before it is cut as by itself. -/
theorem declarations_separator {rest : List Char} (opens : closesNext rest = false)
    (front : List Char) :
    declarations (front ++ ';' :: rest) = declarations front ++ declarations rest := by
  have outside : closesNext (';' :: rest) = false := opens
  induction front with
  | nil => simp [declarations, opens]
  | cons c front inductionHypothesis =>
      obtain ⟨first, others, cut⟩ := exists_declarations front
      rw [List.cons_append, declarations, declarations, closesNext_append outside,
        inductionHypothesis, cut]
      split <;> rfl

/-- A guarded text is one declaration. -/
theorem declarations_guarded {text : List Char} (guarded : IsGuarded text) :
    declarations text = [text] := by
  induction text with
  | nil => rfl
  | cons c text inductionHypothesis =>
      have later : IsGuarded text := fun before after whole =>
        guarded (c :: before) after (congrArg (c :: ·) whole)
      have kept : (c = ';' && !closesNext text) = false := by
        by_cases separator : c = ';'
        · subst separator
          simp [(closesNext_iff text).mpr (guarded [] text rfl)]
        · simp [separator]
      rw [declarations, kept, inductionHypothesis later]
      rfl

/-- With semicolons between them, the declarations are the whole text. -/
theorem intercalate_declarations (text : List Char) :
    [';'].intercalate (declarations text) = text := by
  induction text with
  | nil => rfl
  | cons c text inductionHypothesis =>
      obtain ⟨first, others, cut⟩ := exists_declarations text
      rw [cut] at inductionHypothesis
      rw [declarations, cut]
      split
      · case _ separator =>
          obtain ⟨rfl, -⟩ : c = ';' ∧ closesNext text = false := by simpa using separator
          rw [List.intercalate_cons_cons, inductionHypothesis]
          rfl
      · rw [← inductionHypothesis]
        cases others <;> rfl

/-- Balanced parts with semicolons between them are cut at these semicolons. -/
theorem declarations_intercalate {parts : List (List Char)} (present : parts ≠ [])
    (balanced : ∀ part ∈ parts, IsBalanced part) :
    declarations ([';'].intercalate parts) = parts.flatMap declarations := by
  induction parts with
  | nil => contradiction
  | cons part parts inductionHypothesis =>
      obtain ⟨-, later⟩ := List.forall_mem_cons.mp balanced
      cases parts with
      | nil => simp
      | cons next others =>
          have opens : closesNext ([';'].intercalate (next :: others)) = false :=
            (IsBalanced.intercalate (List.forall_mem_singleton.mpr (by decide)) later).closesNext
          rw [List.intercalate_cons_cons, List.append_assoc, List.singleton_append,
            declarations_separator opens, inductionHypothesis (List.cons_ne_nil _ _) later]
          rfl

/-- Texts with separators between them may be put after one another. -/
theorem intercalate_append {first second : List (List Char)} (present : first ≠ [])
    (later : second ≠ []) (separator : List Char) :
    separator.intercalate (first ++ second) =
      separator.intercalate first ++ (separator ++ separator.intercalate second) := by
  induction first with
  | nil => contradiction
  | cons text first inductionHypothesis =>
      cases first with
      | nil =>
          obtain ⟨next, others, rfl⟩ := List.exists_cons_of_ne_nil later
          simp [List.intercalate_cons_cons]
      | cons next others =>
          have rest := inductionHypothesis (List.cons_ne_nil _ _)
          simp only [List.cons_append, List.intercalate_cons_cons, List.append_assoc] at rest ⊢
          rw [rest]

/-- A balanced text consists of parts with semicolons between them. -/
theorem exists_parts {text : List Char} (balanced : IsBalanced text) :
    ∃ parts, parts ≠ [] ∧ [';'].intercalate parts = text ∧ ∀ part ∈ parts, IsPart part := by
  induction size : text.length using Nat.strongRecOn generalizing text with
  | ind size inductionHypothesis =>
      subst size
      by_cases inside : ∀ before after, text = before ++ ';' :: after → IsOpen before
      · refine ⟨[text], List.cons_ne_nil _ _, List.intercalate_singleton, ?_⟩
        exact List.forall_mem_singleton.mpr ⟨balanced, inside⟩
      · push Not at inside
        obtain ⟨before, after, rfl, outside⟩ := inside
        obtain ⟨front, back⟩ := balanced.split (by decide) outside
        obtain ⟨first, someFirst, wholeFirst, eachFirst⟩ :=
          inductionHypothesis before.length (by simp) front rfl
        obtain ⟨second, someSecond, wholeSecond, eachSecond⟩ :=
          inductionHypothesis after.length (by simp; omega) back rfl
        refine ⟨first ++ second, List.append_ne_nil_of_left_ne_nil someFirst _, ?_, ?_⟩
        · rw [intercalate_append someFirst someSecond, wholeFirst, wholeSecond]
          rfl
        · exact List.forall_mem_append.mpr ⟨eachFirst, eachSecond⟩

namespace IsPart

/-- Parts without parentheses inside others are guarded. -/
theorem isGuarded {part : List Char} (known : IsPart part) (shallow : IsShallow part) :
    IsGuarded part := by
  rintro before after rfl
  exact shallow.closesFirst (by decide) known.balanced (known.inside before after rfl)

/-- A part of which all declarations are balanced has not been cut, so that it is guarded. -/
theorem isGuarded_of_declarations {part : List Char} (known : IsPart part)
    (balanced : ∀ declaration ∈ declarations part, IsBalanced declaration) : IsGuarded part := by
  rintro before after rfl
  by_contra other
  have opens : closesNext after = false := by
    rwa [Bool.eq_false_iff, ne_eq, closesNext_iff]
  rw [declarations_separator opens] at balanced
  -- The declarations in front of the cut would close what the text in front of it leaves open.
  have front : IsBalanced before := by
    rw [← intercalate_declarations before]
    exact .intercalate (List.forall_mem_singleton.mpr (by decide)) fun declaration member =>
      balanced declaration (List.mem_append_left _ member)
  exact absurd front.whole (Nat.ne_of_lt (known.inside before after rfl))

theorem declarations_eq_iff {part : List Char} (known : IsPart part) :
    declarations part = [part] ↔ IsGuarded part := by
  refine ⟨fun single => known.isGuarded_of_declarations ?_, declarations_guarded⟩
  rw [single]
  exact List.forall_mem_singleton.mpr known.balanced

theorem declarations_balanced_iff {part : List Char} (known : IsPart part) :
    (∀ declaration ∈ declarations part, IsBalanced declaration) ↔ IsGuarded part := by
  refine ⟨known.isGuarded_of_declarations, fun guarded => ?_⟩
  rw [declarations_guarded guarded]
  exact List.forall_mem_singleton.mpr known.balanced

end IsPart

/-- The name of a declaration ends at the first colon, wherever this stands. -/
theorem entry?_eq_some_iff (declaration : List Char) (entry : String × String) :
    entry? declaration = some entry ↔
      ∃ front back, declaration = front ++ ':' :: back ∧ ':' ∉ front ∧ back ≠ [] ∧
        entry = (String.ofList (trim front), String.ofList (trim back)) := by
  constructor
  · intro found
    unfold entry? at found
    rcases cut_cases ':' declaration with ⟨-, single⟩ | ⟨front, back, rfl, absent, halves⟩
    · rw [single] at found
      contradiction
    · rw [halves] at found
      cases back with
      | nil => contradiction
      | cons c back =>
          exact ⟨front, _, rfl, absent, List.cons_ne_nil _ _, (Option.some.inj found).symm⟩
  · rintro ⟨front, back, rfl, absent, present, rfl⟩
    obtain ⟨c, back, rfl⟩ := List.exists_cons_of_ne_nil present
    unfold entry?
    rw [cut_append _ absent]

/-- The declarations of a style are its entries. -/
theorem exists_declaration {text : String} {entry : String × String} (member : entry ∈ parse text) :
    ∃ declaration ∈ declarations text.toList, entry? declaration = some entry :=
  List.mem_filterMap.mp (Mapping.mem_of_mem_ofEntries member)

/-- The two sides of the first colon of a balanced declaration are balanced exactly if this colon
stands outside parentheses. -/
theorem sides_balanced_iff {front back : List Char} (balanced : IsBalanced (front ++ ':' :: back)) :
    (IsBalanced front ∧ IsBalanced back) ↔ ¬ IsOpen front := by
  constructor
  · rintro ⟨level, -⟩ opened
    exact absurd level.whole (Nat.ne_of_lt opened)
  · exact balanced.split (by decide)

/-- A style text with balanced parentheses is cut at every semicolon outside them. A part between
these semicolons is cut inside its parentheses exactly if it is not guarded, and parts without
parentheses inside others are guarded. The name and the value of the entry of a guarded part are
balanced exactly if the first colon of the part stands outside parentheses. -/
theorem parse_balanced {text : String} (balanced : IsBalanced text.toList) :
    ∃ parts, [';'].intercalate parts = text.toList ∧ (∀ part ∈ parts, IsPart part) ∧
      declarations text.toList = parts.flatMap declarations ∧
      (∀ part ∈ parts, (declarations part = [part] ↔ IsGuarded part) ∧
        ((∀ declaration ∈ declarations part, IsBalanced declaration) ↔ IsGuarded part) ∧
        (IsShallow part → IsGuarded part)) ∧
      ∀ name value, (name, value) ∈ parse text →
        ∃ part ∈ parts, (∃ declaration ∈ declarations part,
          entry? declaration = some (name, value)) ∧
          (IsGuarded part → ∃ front back, part = front ++ ':' :: back ∧ ':' ∉ front ∧
            name = String.ofList (trim front) ∧ value = String.ofList (trim back) ∧
            ((IsBalanced name.toList ∧ IsBalanced value.toList) ↔ ¬ IsOpen front)) := by
  obtain ⟨parts, present, whole, each⟩ := exists_parts balanced
  have cut := declarations_intercalate present fun part member => (each part member).balanced
  rw [whole] at cut
  refine ⟨parts, whole, each, cut, fun part member => ?_, ?_⟩
  · have known := each part member
    exact ⟨known.declarations_eq_iff, known.declarations_balanced_iff, known.isGuarded⟩
  · intro name value member
    obtain ⟨declaration, listed, found⟩ := exists_declaration member
    rw [cut] at listed
    obtain ⟨part, inside, declared⟩ := List.mem_flatMap.mp listed
    refine ⟨part, inside, ⟨declaration, declared, found⟩, fun guarded => ?_⟩
    rw [declarations_guarded guarded, List.mem_singleton] at declared
    subst declared
    obtain ⟨front, back, rfl, absent, -, same⟩ := (entry?_eq_some_iff _ _).mp found
    obtain ⟨rfl, rfl⟩ := Prod.mk.inj same
    refine ⟨front, back, rfl, absent, rfl, rfl, ?_⟩
    rw [String.toList_ofList, String.toList_ofList, isBalanced_trim, isBalanced_trim]
    exact sides_balanced_iff (each _ inside).balanced

/-- A nested call is kept whole, and the name after it is cut at a colon inside parentheses. -/
theorem parse_balanced_nested :
    let text := "a:f(g(b;c);d);h(i:j)"
    IsBalanced text.toList ∧
      ∃ parts, [';'].intercalate parts = text.toList ∧ (∀ part ∈ parts, IsPart part) ∧
        declarations text.toList = parts.flatMap declarations ∧
        (∀ part ∈ parts, (declarations part = [part] ↔ IsGuarded part) ∧
          ((∀ declaration ∈ declarations part, IsBalanced declaration) ↔ IsGuarded part) ∧
          (IsShallow part → IsGuarded part)) ∧
        ∀ name value, (name, value) ∈ parse text →
          ∃ part ∈ parts, (∃ declaration ∈ declarations part,
            entry? declaration = some (name, value)) ∧
            (IsGuarded part → ∃ front back, part = front ++ ':' :: back ∧ ':' ∉ front ∧
              name = String.ofList (trim front) ∧ value = String.ofList (trim back) ∧
              ((IsBalanced name.toList ∧ IsBalanced value.toList) ↔ ¬ IsOpen front)) := by
  intro text
  have balanced : IsBalanced text.toList := by decide +kernel
  exact ⟨balanced, parse_balanced balanced⟩

/-- A part that is not guarded is cut although its semicolon stands inside parentheses. -/
example : IsBalanced "a:f(;g())".toList ∧ parse "a:f(;g())" = [("a", "f(")] := by
  decide +kernel

end SvgComponent.Markup.Style
