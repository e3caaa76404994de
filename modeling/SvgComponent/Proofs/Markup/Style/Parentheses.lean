/-
This file states when the parentheses of a text are balanced and which texts are balanced with it.
-/

import Mathlib.Data.List.Infix
import SvgComponent.Proofs.Text.Words

namespace SvgComponent.Markup.Style

open Text

/-- A character that is no parenthesis. -/
def IsPlain (c : Char) : Prop :=
  c ≠ '(' ∧ c ≠ ')'

/-- A text ends inside parentheses if it opens more of them than it closes. -/
def IsOpen (text : List Char) : Prop :=
  text.count ')' < text.count '('

/-- The first parenthesis of the text closes. -/
def ClosesFirst (text : List Char) : Prop :=
  ∃ inner rest, text = inner ++ ')' :: rest ∧ ∀ c ∈ inner, IsPlain c

/-- No parentheses stand inside others if every part at the front has at most one open. -/
def IsShallow (text : List Char) : Prop :=
  ∀ before, before <+: text → before.count '(' ≤ before.count ')' + 1

/-- Parentheses are balanced if the text closes as many as it opens, and no part at its front closes
more than it opens. -/
structure IsBalanced (text : List Char) : Prop where
  front : ∀ before, before <+: text → before.count ')' ≤ before.count '('
  whole : text.count ')' = text.count '('

instance (c : Char) : Decidable (IsPlain c) :=
  inferInstanceAs (Decidable (_ ∧ _))

instance (text : List Char) : Decidable (IsOpen text) :=
  inferInstanceAs (Decidable (_ < _))

instance (text : List Char) : Decidable (IsBalanced text) :=
  decidable_of_iff
    ((∀ before ∈ text.inits, before.count ')' ≤ before.count '(') ∧
      text.count ')' = text.count '(')
    ⟨fun ⟨front, whole⟩ =>
        ⟨fun before inside => front before ((List.mem_inits _ _).mpr inside), whole⟩,
      fun balanced =>
        ⟨fun before inside => balanced.front before ((List.mem_inits _ _).mp inside),
          balanced.whole⟩⟩

/-- A text of plain characters has no parentheses to count. -/
theorem count_plain {text : List Char} (plain : ∀ c ∈ text, IsPlain c) :
    text.count '(' = 0 ∧ text.count ')' = 0 := by
  simp only [List.count_eq_zero]
  exact ⟨fun opens => (plain _ opens).1 rfl, fun closes => (plain _ closes).2 rfl⟩

theorem isPlain_blank {spaces : List Char} (blank : isBlankText spaces = true) :
    ∀ c ∈ spaces, IsPlain c := by
  intro c member
  constructor
  · rintro rfl
    exact notMem_blank blank (by decide) member
  · rintro rfl
    exact notMem_blank blank (by decide) member

namespace IsBalanced

/-- Without parentheses a text is balanced. -/
theorem plain {text : List Char} (plain : ∀ c ∈ text, IsPlain c) : IsBalanced text where
  front before inside := by
    obtain ⟨opens, closes⟩ := count_plain fun c member => plain c (inside.mem member)
    rw [opens, closes]
  whole := by
    obtain ⟨opens, closes⟩ := count_plain plain
    rw [opens, closes]

/-- A balanced text closes what it opens, so the text after it begins outside parentheses. -/
theorem append {first second : List Char} (balanced : IsBalanced first)
    (later : IsBalanced second) : IsBalanced (first ++ second) where
  front before inside := by
    rcases List.prefix_or_prefix_of_prefix inside (List.prefix_append first second) with
      short | ⟨more, rfl⟩
    · exact balanced.front before short
    · have rest := later.front more ((List.prefix_append_right_inj first).mp inside)
      have closed := balanced.whole
      simp only [List.count_append]
      omega
  whole := by
    rw [List.count_append, List.count_append, balanced.whole, later.whole]

/-- A balanced text may be put in parentheses. -/
theorem group {inner : List Char} (balanced : IsBalanced inner) :
    IsBalanced ('(' :: (inner ++ [')'])) where
  front before inside := by
    rcases List.prefix_cons_iff.mp inside with rfl | ⟨more, rfl, within⟩
    · exact Nat.le_refl 0
    · have closed := balanced.whole
      rcases List.prefix_concat_iff.mp within with rfl | short
      · simp
        omega
      · have rest := balanced.front more short
        simp
        omega
  whole := by
    have closed := balanced.whole
    simp
    omega

/-- Texts that are balanced stay so with plain characters between them. -/
theorem intercalate {separator : List Char} (between : ∀ c ∈ separator, IsPlain c)
    {texts : List (List Char)} (each : ∀ text ∈ texts, IsBalanced text) :
    IsBalanced (separator.intercalate texts) := by
  induction texts with
  | nil => exact .plain nofun
  | cons text texts inductionHypothesis =>
      obtain ⟨here, later⟩ := List.forall_mem_cons.mp each
      cases texts with
      | nil =>
          rw [List.intercalate_singleton]
          exact here
      | cons next others =>
          rw [List.intercalate_cons_cons]
          exact (here.append (.plain between)).append (inductionHypothesis later)

/-- A balanced text is cut into balanced texts at a plain character outside parentheses. -/
theorem split {front back : List Char} {c : Char} (balanced : IsBalanced (front ++ c :: back))
    (other : IsPlain c) (outside : ¬ IsOpen front) : IsBalanced front ∧ IsBalanced back := by
  have apart := count_plain (List.forall_mem_singleton.mpr other)
  have level : front.count ')' = front.count '(' := by
    have within := balanced.front front (List.prefix_append front _)
    rw [IsOpen] at outside
    omega
  refine ⟨⟨fun before inside => ?_, level⟩, ⟨fun before inside => ?_, ?_⟩⟩
  · exact balanced.front before (inside.trans (List.prefix_append front _))
  · have longer : front ++ [c] ++ before <+: front ++ c :: back := by simpa using inside
    have within := balanced.front _ longer
    simp only [List.count_append, apart, level] at within
    omega
  · have whole := balanced.whole
    rw [List.append_cons] at whole
    simp only [List.count_append, apart, level] at whole
    omega

end IsBalanced

/-- A text without a closing parenthesis in front has no parenthesis at all or opens one first. -/
theorem closesFirst_cases (text : List Char) :
    ClosesFirst text ∨ (∀ c ∈ text, IsPlain c) ∨
      ∃ inner rest, text = inner ++ '(' :: rest ∧ ∀ c ∈ inner, IsPlain c := by
  induction text with
  | nil => exact .inr (.inl nofun)
  | cons c text inductionHypothesis =>
      by_cases plain : IsPlain c
      · rcases inductionHypothesis with
          ⟨inner, rest, rfl, all⟩ | all | ⟨inner, rest, rfl, all⟩
        · exact .inl ⟨c :: inner, rest, rfl, List.forall_mem_cons.mpr ⟨plain, all⟩⟩
        · exact .inr (.inl (List.forall_mem_cons.mpr ⟨plain, all⟩))
        · exact .inr (.inr ⟨c :: inner, rest, rfl, List.forall_mem_cons.mpr ⟨plain, all⟩⟩)
      · rw [IsPlain, not_and_or, not_not, not_not] at plain
        rcases plain with rfl | rfl
        · exact .inr (.inr ⟨[], text, rfl, List.forall_mem_nil _⟩)
        · exact .inl ⟨[], text, rfl, List.forall_mem_nil _⟩

/-- Inside a parenthesis of a shallow and balanced text, the next one closes it. -/
theorem IsShallow.closesFirst {before after : List Char} {c : Char} (ordinary : IsPlain c)
    (shallow : IsShallow (before ++ c :: after)) (balanced : IsBalanced (before ++ c :: after))
    (opened : IsOpen before) : ClosesFirst after := by
  have single := count_plain (List.forall_mem_singleton.mpr ordinary)
  rw [List.append_cons] at shallow balanced
  rw [IsOpen] at opened
  rcases closesFirst_cases after with closes | plain | ⟨inner, rest, rfl, plain⟩
  · exact closes
  · have rest := count_plain plain
    have whole := balanced.whole
    simp only [List.count_append, single, rest] at whole
    omega
  · have nested := shallow (before ++ [c] ++ (inner ++ ['('])) (by simp)
    have between := count_plain plain
    simp only [List.count_append, single, between, List.count_singleton] at nested
    simp at nested
    omega

/-- Trimming a text does not touch its parentheses. -/
theorem isBalanced_trim (text : List Char) : IsBalanced (trim text) ↔ IsBalanced text := by
  obtain ⟨front, back, blankFront, blankBack, whole⟩ := exists_trim text
  have before := count_plain (isPlain_blank blankFront)
  have after := count_plain (isPlain_blank blankBack)
  constructor
  · intro balanced
    rw [whole]
    exact (IsBalanced.plain (isPlain_blank blankFront)).append
      (balanced.append (.plain (isPlain_blank blankBack)))
  · intro balanced
    rw [whole] at balanced
    refine ⟨fun inside shorter => ?_, ?_⟩
    · have longer : front ++ inside <+: front ++ (trim text ++ back) :=
        (List.prefix_append_right_inj front).mpr (shorter.trans (List.prefix_append _ back))
      have within := balanced.front _ longer
      simp only [List.count_append, before] at within
      omega
    · have level := balanced.whole
      simp only [List.count_append, before, after] at level
      omega

end SvgComponent.Markup.Style
