/-
This file shows that a reader of strings reads back a text that is spelled piece by piece.
-/

import Mathlib.Tactic.SplitIfs
import SvgComponent.Component.Children
import SvgComponent.Proofs.Text.Code
import SvgComponent.Value.Compact
import SvgComponent.Value.Reader

namespace SvgComponent.Value

/-- The rest of a string is read, and the codes before it are put in front. -/
def before (codes : List Nat) (found : Except ReadError (List Nat × List Char)) :
    Except ReadError (List Nat × List Char) :=
  found.map fun more => (codes ++ more.1, more.2)

/-- A reader takes the codes of a string up to its closing quote. A backslash begins an escape, and
a plain character stands for itself. -/
structure ReadsCodes (codes : Nat → Scanner (List Nat)) (quote : Char) (isPlain : Char → Prop)
    (escaped? : List Char → Option (List Nat × List Char)) : Prop where
  closing : ∀ fuel rest, codes (fuel + 1) (quote :: rest) = .ok ([], rest)
  plain : ∀ {c : Char}, isPlain c → ∀ fuel rest,
    codes (fuel + 1) (c :: rest) = before [c.toNat] (codes fuel rest)
  escaped : ∀ {text rest : List Char} {found : List Nat}, escaped? text = some (found, rest) →
    ∀ fuel, codes (fuel + 1) ('\\' :: text) = before found (codes fuel rest)

/-- A piece of a string stands for certain codes, whatever follows it. -/
def Spells (codes : Nat → Scanner (List Nat)) (piece : List Char) (spelled : List Nat) : Prop :=
  ∀ fuel rest, (piece ++ rest).length ≤ fuel → ∃ less, rest.length ≤ less ∧
    codes fuel (piece ++ rest) = before spelled (codes less rest)

namespace Spells

variable {codes : Nat → Scanner (List Nat)}

theorem nil : Spells codes [] [] := by
  intro fuel rest enough
  refine ⟨fuel, enough, ?_⟩
  cases found : codes fuel rest <;> simp [before, Except.map, found]

theorem append {first second : List Char} {firstCodes secondCodes : List Nat}
    (front : Spells codes first firstCodes) (back : Spells codes second secondCodes) :
    Spells codes (first ++ second) (firstCodes ++ secondCodes) := by
  intro fuel rest enough
  rw [List.append_assoc] at enough ⊢
  obtain ⟨less, left, same⟩ := front fuel (second ++ rest) enough
  obtain ⟨least, right, equal⟩ := back less rest left
  refine ⟨least, right, ?_⟩
  rw [same, equal]
  cases codes least rest <;> simp [before, Except.map]

theorem flatMap {escape : Char → List Char} (each : ∀ c, Spells codes (escape c) [c.toNat])
    (text : List Char) : Spells codes (text.flatMap escape) (text.map Char.toNat) := by
  induction text with
  | nil => exact nil
  | cons c text inductionHypothesis => exact (each c).append inductionHypothesis

section

variable {quote : Char} {isPlain : Char → Prop}
  {escaped? : List Char → Option (List Nat × List Char)}
  (reads : ReadsCodes codes quote isPlain escaped?)
include reads

theorem plain {c : Char} (itself : isPlain c) : Spells codes [c] [c.toNat] := by
  intro fuel rest enough
  cases fuel with
  | zero => simp at enough
  | succ fuel => exact ⟨fuel, by simpa using enough, reads.plain itself fuel rest⟩

/-- An escape stands for its codes. -/
theorem escaped {piece : List Char} {found : List Nat}
    (each : ∀ rest, escaped? (piece ++ rest) = some (found, rest)) :
    Spells codes ('\\' :: piece) found := by
  intro fuel rest enough
  cases fuel with
  | zero => simp at enough
  | succ fuel =>
      refine ⟨fuel, ?_, reads.escaped (each rest) fuel⟩
      simp only [List.cons_append, List.length_cons, List.length_append] at enough
      omega

/-- A text is read up to its closing quote. -/
theorem read {body : List Char} {spelled : List Nat} (spells : Spells codes body spelled)
    (rest : List Char) :
    codes (body ++ quote :: rest).length (body ++ quote :: rest) = .ok (spelled, rest) := by
  obtain ⟨less, left, same⟩ := spells _ (quote :: rest) (Nat.le_refl _)
  rw [same]
  cases less with
  | zero => simp at left
  | succ less => simp [reads.closing, before, Except.map]

/-- A reader that knows the six escapes of literals spells every character of a literal. -/
theorem literal
    (itself : ∀ c : Char, c ∉ ['\\', '\'', '\n', '\r', '\u2028', '\u2029'] → isPlain c)
    (known : ∀ entry ∈ [('\\', ['\\']), ('\'', ['\'']), ('\n', ['n']), ('\r', ['r']),
      ('\u2028', ['u', '2', '0', '2', '8']), ('\u2029', ['u', '2', '0', '2', '9'])],
      ∀ rest, escaped? (entry.2 ++ rest) = some ([entry.1.toNat], rest)) (c : Char) :
    Spells codes (Component.Literal.escape c) [c.toNat] := by
  simp only [List.forall_mem_cons] at known
  obtain ⟨slash, apostrophe, feed, carriage, separator, paragraph, -⟩ := known
  unfold Component.Literal.escape
  split_ifs with backslash quote lineFeed carriageReturn lineSeparator paragraphSeparator
  · subst backslash
    exact escaped reads slash
  · subst quote
    exact escaped reads apostrophe
  · subst lineFeed
    exact escaped reads feed
  · subst carriageReturn
    exact escaped reads carriage
  · subst lineSeparator
    exact escaped reads separator
  · subst paragraphSeparator
    exact escaped reads paragraph
  · exact plain reads (itself c (by simp [*]))

/-- A reader that knows the short escapes and the numbers of the other controls spells every
character of a string in compact form. -/
theorem compact
    (itself : ∀ c : Char, c ≠ '"' → c ≠ '\\' → 0x20 ≤ c.toNat → isPlain c)
    (known : ∀ entry ∈ [('"', '"'), ('\\', '\\'), ('\x08', 'b'), ('\t', 't'), ('\n', 'n'),
      ('\x0C', 'f'), ('\r', 'r')],
      ∀ rest, escaped? (entry.2 :: rest) = some ([entry.1.toNat], rest))
    (numbered : ∀ code < 0x20, ∀ rest,
      escaped? ('u' :: (Text.Hexadecimal.write 4 code ++ rest)) = some ([code], rest)) (c : Char) :
    Spells codes (Compact.escape c) [c.toNat] := by
  simp only [List.forall_mem_cons] at known
  obtain ⟨double, slash, back, tabulator, feed, form, carriage, -⟩ := known
  unfold Compact.escape
  split_ifs with quote backslash backspace tab lineFeed formFeed carriageReturn control
  · subst quote
    exact escaped reads double
  · subst backslash
    exact escaped reads slash
  · subst backspace
    exact escaped reads back
  · subst tab
    exact escaped reads tabulator
  · subst lineFeed
    exact escaped reads feed
  · subst formFeed
    exact escaped reads form
  · subst carriageReturn
    exact escaped reads carriage
  · exact escaped reads (numbered c.toNat control)
  · exact plain reads (itself c quote backslash (Nat.le_of_not_lt control))

end

end Spells
end SvgComponent.Value
