/-
This file shows what the readers of texts take and what they leave.
-/

import Mathlib.Data.List.Basic
import SvgComponent.Text.Blank
import SvgComponent.Text.Category
import SvgComponent.Text.Scan

namespace SvgComponent.Text

/-- A recursion that takes a character or more in each step needs no more steps than characters. -/
theorem steps_enough {β : Type} {f : Nat → List Char → β} (done : ∀ fuel, f fuel [] = f 0 [])
    (step : ∀ first second c rest,
      (∀ text : List Char, text.length ≤ rest.length → f first text = f second text) →
        f (first + 1) (c :: rest) = f (second + 1) (c :: rest))
    {text : List Char} {fuel : Nat} (enough : text.length ≤ fuel) :
    f fuel text = f text.length text := by
  suffices same : ∀ first second, text.length ≤ first → text.length ≤ second →
      f first text = f second text from same fuel text.length enough (Nat.le_refl _)
  clear enough fuel
  intro first
  induction first generalizing text with
  | zero =>
      intro second none _
      rw [List.length_eq_zero_iff.mp (Nat.le_zero.mp none), done second]
  | succ first inductionHypothesis =>
      intro second within within'
      cases text with
      | nil => rw [done, done second]
      | cons c rest =>
          cases second with
          | zero => contradiction
          | succ second =>
              apply step
              intro text shorter
              simp only [List.length_cons] at within within'
              exact inductionHypothesis second (by omega) (by omega)

/-- A run of characters ends before the first character outside its class. -/
theorem takeWhile_before {inside : Char → Bool} {run rest : List Char}
    (all : ∀ x ∈ run, inside x = true) (stop : ∀ c, rest.head? = some c → inside c = false) :
    (run ++ rest).takeWhile inside = run := by
  rw [List.takeWhile_append_of_pos all]
  cases rest with
  | nil => simp
  | cons c rest => simp [stop c rfl]

/-- The text after a run begins with the first character outside its class. -/
theorem dropWhile_before {inside : Char → Bool} {run rest : List Char}
    (all : ∀ x ∈ run, inside x = true) (stop : ∀ c, rest.head? = some c → inside c = false) :
    (run ++ rest).dropWhile inside = rest := by
  rw [List.dropWhile_append_of_pos all]
  cases rest with
  | nil => rfl
  | cons c rest => simp [stop c rfl]

theorem takeWhile_stop {inside : Char → Bool} {run : List Char} {c : Char} (rest : List Char)
    (all : ∀ x ∈ run, inside x = true) (stop : inside c = false) :
    (run ++ c :: rest).takeWhile inside = run :=
  takeWhile_before all (by simpa using stop)

theorem dropWhile_stop {inside : Char → Bool} {run : List Char} {c : Char} (rest : List Char)
    (all : ∀ x ∈ run, inside x = true) (stop : inside c = false) :
    (run ++ c :: rest).dropWhile inside = c :: rest :=
  dropWhile_before all (by simpa using stop)

/-- A cut falls at the first separator. -/
theorem cut_append {separator : Char} {front : List Char} (rest : List Char)
    (absent : separator ∉ front) :
    cut separator (front ++ separator :: rest) = (front, some rest) := by
  have all : ∀ x ∈ front, decide (x ≠ separator) = true := by
    intro x member
    simpa using ne_of_mem_of_not_mem member absent
  rw [cut, takeWhile_stop rest all (by simp), dropWhile_stop rest all (by simp)]
  rfl

/-- A text is cut at its first separator, or it has none and is not cut. -/
theorem cut_cases (separator : Char) (text : List Char) :
    (separator ∉ text ∧ cut separator text = (text, none)) ∨
      ∃ front rest, text = front ++ separator :: rest ∧ separator ∉ front ∧
        cut separator text = (front, some rest) := by
  by_cases member : separator ∈ text
  · obtain ⟨front, rest, rfl, absent⟩ := List.eq_append_cons_of_mem member
    exact .inr ⟨front, rest, rfl, absent, cut_append rest absent⟩
  · have all : ∀ x ∈ text, decide (x ≠ separator) = true := by
      intro x inside
      exact decide_eq_true (ne_of_mem_of_not_mem inside member)
    have last : ∀ x, ([] : List Char).head? = some x → decide (x ≠ separator) = false := by simp
    have whole := takeWhile_before all last
    have nothing := dropWhile_before all last
    rw [List.append_nil] at whole nothing
    exact .inl ⟨member, by rw [cut, whole, nothing]; rfl⟩

/-- The first character after the text before a cut is the separator. -/
theorem cut_bracket {separator : Char} {text rest : List Char}
    (found : (cut separator text).2 = some rest) :
    ∃ front, separator ∉ front ∧ text = front ++ separator :: rest := by
  rcases cut_cases separator text with ⟨-, uncut⟩ | ⟨front, after, shape, absent, same⟩
  · simp [uncut] at found
  · rw [same] at found
    obtain rfl := Option.some.inj found
    exact ⟨front, absent, shape⟩

/-- A text without a separator is one piece. -/
theorem split_single {isSeparator : Char → Bool} {piece : List Char}
    (inside : ∀ c ∈ piece, isSeparator c = false) : split isSeparator piece = [piece] := by
  induction piece with
  | nil => rfl
  | cons c piece inductionHypothesis =>
      rw [split, if_neg (by simp [inside c List.mem_cons_self]),
        inductionHypothesis fun other member => inside other (List.mem_cons_of_mem c member)]

/-- A separator ends the piece before it. -/
theorem split_append {isSeparator : Char → Bool} {piece : List Char}
    (inside : ∀ c ∈ piece, isSeparator c = false) {separator : Char}
    (separates : isSeparator separator = true) (rest : List Char) :
    split isSeparator (piece ++ separator :: rest) = piece :: split isSeparator rest := by
  induction piece with
  | nil => rw [List.nil_append, split, if_pos separates]
  | cons c piece inductionHypothesis =>
      rw [List.cons_append, split, if_neg (by simp [inside c List.mem_cons_self]),
        inductionHypothesis fun other member => inside other (List.mem_cons_of_mem c member)]

/-- A prefix leaves an end of its text. -/
theorem isPrefixOf?_suffix {front text rest : List Char}
    (found : front.isPrefixOf? text = some rest) : rest <:+ text :=
  ⟨front, List.isPrefixOf?_eq_some_iff_append_eq.mp found⟩

/-- A text consists of what stands before a mark, the mark, and what stands after it. -/
theorem untilMark?_shape {mark text body rest : List Char}
    (found : untilMark? mark text = some (body, rest)) : text = body ++ mark ++ rest := by
  induction text generalizing body with
  | nil =>
      obtain ⟨empty, same⟩ := Option.ite_none_right_eq_some.mp found
      obtain ⟨rfl, rfl⟩ := Prod.mk.inj (Option.some.inj same)
      rw [List.isEmpty_iff.mp empty]
      rfl
  | cons c text inductionHypothesis =>
      rw [untilMark?] at found
      split at found
      · case _ after marked =>
          obtain ⟨rfl, rfl⟩ := Prod.mk.inj (Option.some.inj found)
          exact (List.isPrefixOf?_eq_some_iff_append_eq.mp marked).symm
      · obtain ⟨⟨inner, after⟩, later, same⟩ := Option.map_eq_some_iff.mp found
        obtain ⟨rfl, rfl⟩ := Prod.mk.inj same
        rw [inductionHypothesis later]
        rfl

/-- What stands between two marks is found between them. -/
theorem marked_shape {front mark text after body rest : List Char}
    (opened : front.isPrefixOf? text = some after)
    (closed : untilMark? mark after = some (body, rest)) :
    text = front ++ body ++ mark ++ rest := by
  rw [← List.isPrefixOf?_eq_some_iff_append_eq.mp opened, untilMark?_shape closed,
    List.append_assoc front, List.append_assoc front]

/-- A mark whose last character is unlike those before it does not begin inside a text without the
mark and end in the mark after it. -/
theorem not_prefix_append {front body : List Char} {last : Char} (single : last ∉ front)
    (present : body ≠ []) (absent : ¬ (front ++ [last]) <:+: body) (rest : List Char) :
    ¬ (front ++ [last]) <+: body ++ (front ++ [last] ++ rest) := by
  rintro ⟨after, same⟩
  rcases List.append_eq_append_iff.mp same with ⟨more, inside, -⟩ | ⟨tail, whole, overlap⟩
  · exact absent ⟨[], more, by rw [List.nil_append, inside]⟩
  · rcases List.eq_nil_or_concat' tail with rfl | ⟨tail, x, rfl⟩
    · rw [List.append_nil] at whole
      exact absent (whole ▸ List.infix_rfl)
    · rw [← List.append_assoc] at whole
      obtain ⟨split, same⟩ := List.append_inj' whole rfl
      obtain rfl := List.singleton_inj.mp same
      have longer : (tail ++ [last]).length ≤ front.length := by
        have length := List.length_pos_of_ne_nil present
        simp only [split, List.length_append, List.length_singleton]
        omega
      have shorter : tail ++ [last] <+: front := by
        refine List.prefix_of_prefix_length_le ⟨after, overlap.symm⟩ ?_ longer
        exact ⟨[last] ++ rest, by rw [List.append_assoc]⟩
      exact single (shorter.mem (by simp))

/-- A text without a mark is the text before the first occurrence of the mark. -/
theorem untilMark?_first {front body : List Char} {last : Char} (single : last ∉ front)
    (absent : ¬ (front ++ [last]) <:+: body) (rest : List Char) :
    untilMark? (front ++ [last]) (body ++ (front ++ [last] ++ rest)) = some (body, rest) := by
  induction body with
  | nil =>
      have marked : (front ++ [last]).isPrefixOf? (front ++ [last] ++ rest) = some rest :=
        List.isPrefixOf?_eq_some_iff_append_eq.mpr rfl
      obtain ⟨c, more, shape⟩ := List.exists_cons_of_ne_nil
        (show front ++ [last] ++ rest ≠ [] by simp)
      rw [List.nil_append]
      rw [shape] at marked ⊢
      rw [untilMark?, marked]
  | cons c body inductionHypothesis =>
      have unmarked : (front ++ [last]).isPrefixOf? (c :: (body ++ (front ++ [last] ++ rest))) =
          none := by
        cases found : (front ++ [last]).isPrefixOf? (c :: (body ++ (front ++ [last] ++ rest))) with
        | none => rfl
        | some after =>
            have whole := List.isPrefixOf?_eq_some_iff_append_eq.mp found
            exact absurd ⟨after, whole⟩
              (not_prefix_append single (List.cons_ne_nil c body) absent rest)
      rw [List.cons_append, untilMark?, unmarked,
        inductionHypothesis fun inner => absent (inner.trans (List.suffix_cons c body).isInfix)]
      rfl

/-- A word occurs where it stands in the text. -/
theorem occurs_iff (word text : List Char) : occurs word text = true ↔ word <:+: text := by
  induction text with
  | nil => rw [occurs, List.infix_nil, List.isEmpty_iff]
  | cons c text inductionHypothesis =>
      rw [occurs, Bool.or_eq_true, List.isPrefixOf_iff_prefix, inductionHypothesis,
        List.infix_cons_iff]

/-- Blank characters in front of a text are dropped together. -/
theorem dropBlank_append {spaces : List Char} (text : List Char)
    (blank : isBlankText spaces = true) : dropBlank (spaces ++ text) = dropBlank text :=
  List.dropWhile_append_of_pos (List.all_eq_true.mp blank)

/-- A visible character stops the dropping of blank ones. -/
theorem dropBlank_visible {c : Char} (rest : List Char) (visible : isBlank c = false) :
    dropBlank (c :: rest) = c :: rest := by
  simp [dropBlank, visible]

theorem dropBlank_suffix (text : List Char) : dropBlank text <:+ text :=
  List.dropWhile_suffix _

/-- The text after blank characters begins with a blank one or with what follows them. -/
theorem head?_blank_append {spaces rest : List Char} (blank : isBlankText spaces = true) {c : Char}
    (first : (spaces ++ rest).head? = some c) : isBlank c = true ∨ rest.head? = some c := by
  cases spaces with
  | nil => exact .inr first
  | cons space spaces =>
      obtain rfl := Option.some.inj first
      exact .inl (List.all_eq_true.mp blank _ List.mem_cons_self)

/-- The codes of all blank characters. -/
def blankCodes : List Nat :=
  List.range' 0x09 5 ++ List.range' 0x1C 5 ++ List.range' 0x2000 11 ++
    [0x85, 0xA0, 0x1680, 0x2028, 0x2029, 0x202F, 0x205F, 0x3000]

theorem mem_blankCodes {c : Char} (blank : isBlank c = true) : c.toNat ∈ blankCodes := by
  simp [isBlank] at blank
  simp [blankCodes]
  omega

/-- No blank character is part of a word. -/
theorem isWord_blank {c : Char} (blank : isBlank c = true) : isWord c = false := by
  have apart : ∀ code ∈ blankCodes, isWord (Char.ofNat code) = false := by decide +kernel
  have code := apart c.toNat (mem_blankCodes blank)
  rwa [Char.ofNat_toNat] at code

end SvgComponent.Text
