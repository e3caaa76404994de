/-
This file shows that options in compact form are read back as the object literal of a query.
-/

import SvgComponent.Proofs.Value.Relaxed
import SvgComponent.Query.Parse

namespace SvgComponent.Query

open Value

/-- The text of an object stands between braces. -/
theorem isLiteral_object (members : List (String × Value)) :
    isLiteral (Compact.text (.object members)) = true := by
  cases members with
  | nil => rfl
  | cons member members =>
      rw [Compact.text, isLiteral, List.getLast?_concat]
      rfl

/-- A question mark and the compact text of options are a query for exactly these options. -/
theorem parse_compact {members : Options} (plain : IsPlain (.object members)) :
    parse ("?" ++ Compact.write (.object members)) = .ok members := by
  have literal := isLiteral_object members
  have read := Relaxed.readsLexemes.read_write nofun rfl plain
  have query : ("?" ++ Compact.write (.object members)).toList =
      '?' :: Compact.text (.object members) := by
    simp [Compact.write]
  rw [Compact.write] at read
  rw [parse, query]
  split
  · contradiction
  · case _ empty =>
      rw [(List.cons.inj empty).2] at literal
      contradiction
  · case _ text _ same =>
      rw [(List.cons.inj same).2] at literal read
      rw [if_pos literal, parseLiteral, Relaxed.read, read]
  · case _ other => exact absurd rfl (other _)

/-- Escapes of a query mean nothing inside an object literal, and objects may hold the same name at
different levels. -/
theorem parse_compact_nested :
    parse "?\x7b\"a%41\":\x7b\"\\\"\":[-70,null,\"%2C&\\n\"],\"a%41\":false\x7d,\"\":[]\x7d" =
      .ok [("a%41", .object [("\"", .list [.int (-70), .null, .string "%2C&\n"]),
        ("a%41", .bool false)]), ("", .list [])] := by
  have items : IsPlain (.list [.int (-70), .null, .string "%2C&\n"]) := by
    refine .list ?_
    simp only [List.forall_mem_cons]
    exact ⟨.int (by decide), .null, .string _, nofun⟩
  have inner : IsPlain (.object [("\"", .list [.int (-70), .null, .string "%2C&\n"]),
      ("a%41", .bool false)]) := by
    refine .object (by decide) ?_
    simp only [List.forall_mem_cons]
    exact ⟨items, .bool false, nofun⟩
  have plain : IsPlain (.object [("a%41", .object [("\"", .list [.int (-70), .null,
      .string "%2C&\n"]), ("a%41", .bool false)]), ("", .list [])]) := by
    refine .object (by decide) ?_
    simp only [List.forall_mem_cons]
    exact ⟨inner, .list nofun, nofun⟩
  refine (congrArg parse ?_).trans (parse_compact plain)
  decide +kernel

end SvgComponent.Query
