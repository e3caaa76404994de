/-
This file reads literals by the rules of scripts. A written literal is read back, and it ends where
the check of a module ends it, whatever follows it.
-/

import SvgComponent.Proofs.Component.Literal
import SvgComponent.Proofs.Value.Relaxed

namespace SvgComponent.Component.Script

open Text Value

/-- What stands after a backslash is read as in a relaxed string, but the code of any character may
also be written between braces. -/
def escaped? (text : List Char) : Option (List Nat × List Char) :=
  match text with
  | 'u' :: '{' :: rest =>
      match cut '}' rest with
      | (digits, some after) =>
          if !digits.isEmpty && digits.all Hexadecimal.isDigit &&
              Hexadecimal.value digits ≤ 0x10FFFF then
            some ([Hexadecimal.value digits], after)
          else none
      | (_, none) => none
  | _ => Relaxed.escaped? text

/-- The codes up to the closing quote. A literal does not go on over a line end. -/
def codes (quote : Char) : (fuel : Nat) → Scanner (List Nat)
  | 0, _ | _, [] => .error .malformed
  | fuel + 1, c :: rest =>
      if c = quote then .ok ([], rest)
      else if c = '\\' then
        match escaped? rest with
        | none => .error .malformed
        | some (found, rest) => do
            let (more, rest) ← codes quote fuel rest
            return (found ++ more, rest)
      else if Relaxed.isLineEnd c then .error .malformed
      else do
        let (more, rest) ← codes quote fuel rest
        return (c.toNat :: more, rest)

/-- The text of the single-quoted literal that stands here, and what follows the literal. -/
def literal : Scanner String
  | '\'' :: rest => do
      let (found, rest) ← codes '\'' rest.length rest
      return (String.ofList (Units.characters found), rest)
  | _ => .error .malformed

/-- A literal may hold every character but its quote, a backslash and a line end as it is. -/
theorem readsCodes :
    ReadsCodes (codes '\'') '\''
      (fun c => c ∉ ['\\', '\'', '\n', '\r', '\u2028', '\u2029']) escaped? where
  closing fuel rest := by simp [codes]
  plain := by
    intro c itself fuel rest
    simp only [List.mem_cons, List.not_mem_nil, or_false, not_or] at itself
    obtain ⟨unescaped, other, unbroken⟩ := itself
    rw [codes, if_neg other, if_neg unescaped]
    simp only [Relaxed.isLineEnd, unbroken, decide_false, Bool.or_self]
    cases codes '\'' fuel rest <;> rfl
  escaped := by
    intro text rest found each fuel
    rw [codes, if_neg (by decide), if_pos rfl, each]
    simp only [before]
    cases codes '\'' fuel rest <;> rfl

theorem spells_literal (c : Char) : Spells (codes '\'') (Literal.escape c) [c.toNat] := by
  refine Spells.literal readsCodes (fun c itself => itself) ?_ c
  simp only [List.forall_mem_cons]
  exact ⟨fun _ => rfl, fun _ => rfl, fun _ => rfl, fun _ => rfl, fun _ => rfl, fun _ => rfl,
    List.forall_mem_nil _⟩

/-- A script reads a written literal as its text, and the check of a module passes over the same
characters, whatever follows them. -/
theorem literal_delimited (text : String) (rest : List Char) :
    literal ((Literal.write text).toList ++ rest) = .ok (text, rest) ∧
      ∃ inside, (Literal.write text).toList ++ rest = '\'' :: inside ∧
        Check.afterLiteral? '\'' inside = some rest := by
  have body : (Literal.write text).toList ++ rest =
      '\'' :: (text.toList.flatMap Literal.escape ++ '\'' :: rest) := by
    simp [Literal.write]
  refine ⟨?_, _, body, ?_⟩
  · have spelled := Spells.flatMap spells_literal text.toList
    rw [body, literal, spelled.read readsCodes]
    simp [bind, Except.bind, pure, Except.pure, Units.characters_toNat]
  · have inside := Check.IsInside.flatMap Check.isInside_literal text.toList
    rw [inside, Check.afterLiteral?.eq_def]
    simp

/-- Two backslashes end no literal early, and one in front of its quote keeps it open. -/
example : literal "'\\\\\\''r'".toList = .ok ("\\'", "r'".toList) := by
  decide

/-- Numbers of characters may be written in three ways, and a line end behind a backslash stands for
nothing. -/
example : literal "'\\x41\\u0042\\u\x7b1F600\x7d\\\n\\uD83D\\uDE00'".toList = .ok ("AB😀😀", []) := by
  decide

/-- A line separator ends no literal. -/
example : literal "'a\u2028'".toList = .error .malformed := by
  decide

end SvgComponent.Component.Script
