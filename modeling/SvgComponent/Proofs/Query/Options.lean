/-
This file shows that the tokens of one name decide its value, and that the first tokens of all names
decide the order of the options.
-/

import Mathlib.Data.List.Induction
import SvgComponent.Proofs.Mapping
import SvgComponent.Query.Token

namespace SvgComponent.Query.Token

/-- The value that a token makes out of the value that its name had before. -/
def update (current : Option Value) : Token → Value
  | scalar _ value => value
  | item _ value =>
      match current with
      | some (.list items) => .list (items ++ [value])
      | _ => .list [value]

theorem apply_eq (options : Options) (token : Token) :
    token.apply options =
      options.assign token.name (token.update (options.valueAt? token.name)) := by
  cases token with
  | scalar name value => rfl
  | item name value =>
      simp only [apply, update, Token.name]
      cases options.valueAt? name with
      | none => rfl
      | some current => cases current <;> rfl

/-- The names stand in the order in which they occurred first. -/
theorem keys_applied (tokens : List Token) :
    Mapping.keys (tokens.foldl apply []) = (tokens.map name).eraseDups := by
  induction tokens using List.reverseRecOn with
  | nil => rfl
  | append_singleton tokens token inductionHypothesis =>
      rw [List.foldl_concat, apply_eq, Mapping.keys_assign, inductionHypothesis, List.map_append,
        List.map_singleton, Mapping.eraseDups_concat]

theorem nodup_keys_applied (tokens : List Token) :
    (Mapping.keys (tokens.foldl apply [])).Nodup := by
  induction tokens using List.reverseRecOn with
  | nil => exact List.nodup_nil
  | append_singleton tokens token inductionHypothesis =>
      rw [List.foldl_concat, apply_eq]
      exact Mapping.nodup_keys_assign inductionHypothesis _ _

/-- Tokens of other names do not change a value. -/
theorem valueAt?_applied (tokens : List Token) (key : String) :
    Mapping.valueAt? (tokens.foldl apply []) key =
      (tokens.filter fun token => token.name = key).foldl
        (fun current token => some (token.update current)) none := by
  induction tokens using List.reverseRecOn with
  | nil => rfl
  | append_singleton tokens token inductionHypothesis =>
      rw [List.foldl_concat, apply_eq, Mapping.valueAt?_assign, inductionHypothesis,
        List.filter_append]
      by_cases own : token.name = key
      · subst own
        rw [if_pos rfl, List.filter_singleton, decide_eq_true rfl, cond_true, List.foldl_concat,
          inductionHypothesis]
      · rw [if_neg own, List.filter_singleton, decide_eq_false own, cond_false, List.append_nil]

end SvgComponent.Query.Token
