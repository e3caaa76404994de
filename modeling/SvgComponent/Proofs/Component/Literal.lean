/-
This file shows that every written literal is emptied as a whole, whatever it contains and whatever
follows it.
-/

import Mathlib.Data.List.Basic
import SvgComponent.Component.Check
import SvgComponent.Component.Children
import SvgComponent.Proofs.Text.Scan
import SvgComponent.Value.Compact

namespace SvgComponent.Component.Check

-- A property of all members of a list is decided by the members, not by all characters.
attribute [local instance (high)] List.decidableBAll

/-- A literal takes at least its closing quote. -/
theorem afterLiteral?_length {quote : Char} {text after : List Char}
    (found : afterLiteral? quote text = some after) : after.length < text.length := by
  fun_induction afterLiteral? quote text with
  | case1 => contradiction
  | case2 rest =>
      obtain rfl := Option.some.inj found
      exact Nat.lt_succ_self _
  | case3 => contradiction
  | case4 => contradiction
  | case5 => contradiction
  | case6 _ _ _ _ _ inductionHypothesis =>
      have shorter := inductionHypothesis found
      simp only [List.length_cons]
      omega
  | case7 _ _ _ _ _ inductionHypothesis =>
      have shorter := inductionHypothesis found
      simp only [List.length_cons]
      omega

/-- More steps than characters do not change what is stripped. -/
theorem stripWithin_enough {text : List Char} {fuel : Nat} (enough : text.length ≤ fuel) :
    stripWithin fuel text = strip text := by
  apply Text.steps_enough _ _ enough
  · intro fuel
    cases fuel <;> rfl
  · intro first second c rest shorter
    simp only [stripWithin, shorter rest (Nat.le_refl _)]
    split
    · case _ after literal =>
        have left : after.length < rest.length := by
          split at literal
          · exact afterLiteral?_length literal
          · contradiction
        rw [shorter after (by omega)]
    · rfl

@[simp] theorem strip_nil : strip [] = [] := rfl

/-- A character that is no quote stays. -/
theorem strip_plain {c : Char} (rest : List Char) (plain : isQuote c = false) :
    strip (c :: rest) = c :: strip rest := by
  simp [strip, stripWithin, plain]

/-- A literal is emptied. -/
theorem strip_literal {quote : Char} {rest after : List Char} (opening : isQuote quote = true)
    (literal : afterLiteral? quote rest = some after) :
    strip (quote :: rest) = '\'' :: '\'' :: strip after := by
  have shorter := afterLiteral?_length literal
  simp only [strip, List.length_cons, stripWithin, if_pos opening, literal]
  rw [stripWithin_enough (by omega)]
  rfl

/-- A text is stripped to its shape, whatever follows it. -/
def Strips (text shape : List Char) : Prop :=
  ∀ rest, strip (text ++ rest) = shape ++ strip rest

namespace Strips

theorem nil : Strips [] [] := fun _ => rfl

/-- Texts that are stripped by themselves are stripped one after the other. -/
theorem append {first second firstShape secondShape : List Char}
    (front : Strips first firstShape) (back : Strips second secondShape) :
    Strips (first ++ second) (firstShape ++ secondShape) := by
  intro rest
  rw [List.append_assoc, front, back, List.append_assoc]

/-- A text without quotes stays. -/
theorem plain {text : List Char} (unquoted : ∀ c ∈ text, isQuote c = false) :
    Strips text text := by
  intro rest
  induction text with
  | nil => rfl
  | cons c text inductionHypothesis =>
      rw [List.cons_append, strip_plain _ (unquoted c List.mem_cons_self),
        inductionHypothesis fun x member => unquoted x (List.mem_cons_of_mem c member)]
      rfl

end Strips

/-- A piece of a literal neither ends it nor breaks it off. -/
def IsInside (quote : Char) (piece : List Char) : Prop :=
  ∀ rest, afterLiteral? quote (piece ++ rest) = afterLiteral? quote rest

namespace IsInside

theorem append {quote : Char} {first second : List Char} (front : IsInside quote first)
    (back : IsInside quote second) : IsInside quote (first ++ second) := by
  intro rest
  rw [List.append_assoc, front, back]

/-- A character other than the quote, a backslash and a line end stands for itself. -/
theorem plain {quote c : Char} (other : c ≠ quote) (unbroken : c ≠ '\n') (unescaped : c ≠ '\\') :
    IsInside quote [c] := by
  intro rest
  rw [List.singleton_append, afterLiteral?.eq_def]
  simp [other, unbroken, unescaped]

/-- A backslash takes the next character with it. -/
theorem escaped {quote : Char} (other : '\\' ≠ quote) {c : Char} (unbroken : c ≠ '\n') :
    IsInside quote ['\\', c] := by
  intro rest
  rw [List.cons_append, List.singleton_append, afterLiteral?.eq_def]
  simp [other, unbroken]

theorem all {quote : Char} {piece : List Char}
    (inside : ∀ c ∈ piece, c ≠ quote ∧ c ≠ '\n' ∧ c ≠ '\\') : IsInside quote piece := by
  induction piece with
  | nil => exact fun _ => rfl
  | cons c piece inductionHypothesis =>
      obtain ⟨other, unbroken, unescaped⟩ := inside c List.mem_cons_self
      exact (plain other unbroken unescaped).append
        (inductionHypothesis fun x member => inside x (List.mem_cons_of_mem c member))

theorem flatMap {quote : Char} {escape : Char → List Char}
    (each : ∀ c, IsInside quote (escape c)) (text : List Char) :
    IsInside quote (text.flatMap escape) := by
  induction text with
  | nil => exact fun _ => rfl
  | cons c text inductionHypothesis => exact (each c).append inductionHypothesis

/-- A piece between two quotes makes a literal. -/
theorem strips {quote : Char} {body : List Char} (inside : IsInside quote body)
    (opening : isQuote quote = true) : Strips (quote :: body ++ [quote]) ['\'', '\''] := by
  intro rest
  have literal : afterLiteral? quote (body ++ quote :: rest) = some rest := by
    rw [inside, afterLiteral?.eq_def]
    simp
  rw [List.append_assoc, List.cons_append, List.singleton_append, strip_literal opening literal]
  rfl

end IsInside

open IsInside (escaped)

/-- Every escaped character stays inside a single-quoted literal. -/
theorem isInside_literal (c : Char) : IsInside '\'' (Literal.escape c) := by
  unfold Literal.escape
  split_ifs with backslash quote lineFeed carriageReturn
  · exact .escaped (by decide) (by decide)
  · exact .escaped (by decide) (by decide)
  · exact .escaped (by decide) (by decide)
  · exact .escaped (by decide) (by decide)
  · have digits : IsInside '\'' ['2', '0', '2', '8'] := .all (by decide)
    rw [show "\\u2028".toList = ['\\', 'u', '2', '0', '2', '8'] by rfl]
    exact (escaped (by decide) (by decide)).append digits
  · have digits : IsInside '\'' ['2', '0', '2', '9'] := .all (by decide)
    rw [show "\\u2029".toList = ['\\', 'u', '2', '0', '2', '9'] by rfl]
    exact (escaped (by decide) (by decide)).append digits
  · exact .plain quote lineFeed backslash

/-- The code of a control character is written with digits. -/
theorem hexadecimal_control : ∀ code < 0x20, ∀ c ∈ Text.Hexadecimal.write 4 code,
    c ∈ "0123456789abcdef".toList := by
  decide

/-- Every escaped character stays inside a double-quoted literal. -/
theorem isInside_compact (c : Char) : IsInside '"' (Value.Compact.escape c) := by
  unfold Value.Compact.escape
  split_ifs with quote backslash backspace tab lineFeed formFeed carriageReturn control
  · exact .escaped (by decide) (by decide)
  · exact .escaped (by decide) (by decide)
  · exact .escaped (by decide) (by decide)
  · exact .escaped (by decide) (by decide)
  · exact .escaped (by decide) (by decide)
  · exact .escaped (by decide) (by decide)
  · exact .escaped (by decide) (by decide)
  · have plain : ∀ x ∈ "0123456789abcdef".toList, x ≠ '"' ∧ x ≠ '\n' ∧ x ≠ '\\' := by decide
    have digits : IsInside '"' (Text.Hexadecimal.write 4 c.toNat) :=
      .all fun x member => plain x (hexadecimal_control c.toNat control x member)
    exact (escaped (by decide) (by decide)).append digits
  · exact .plain quote lineFeed backslash

/-- A written text is emptied. -/
theorem strips_literal (text : String) : Strips (Literal.write text).toList ['\'', '\''] := by
  rw [Literal.write, String.toList_ofList]
  exact (IsInside.flatMap isInside_literal text.toList).strips rfl

/-- A text in compact form is emptied. -/
theorem strips_stringText (text : String) :
    Strips (Value.Compact.stringText text) ['\'', '\''] :=
  (IsInside.flatMap isInside_compact text.toList).strips rfl

end SvgComponent.Component.Check
