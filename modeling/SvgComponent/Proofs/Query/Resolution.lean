/-
This file shows what a query of pieces says in closed form: which pieces make it fail, and how the
tokens of one name resolve to a value.
-/

import Mathlib.Data.List.DropRight
import SvgComponent.Proofs.Query.Pieces
import SvgComponent.Proofs.Query.RoundTrip

namespace SvgComponent.Query

/-- A piece is an item of a list, an assignment of a scalar, or a flag. -/
inductive Form where
  | item (name value : List Char)
  | assignment (name value : List Char)
  | flag (name : List Char) (isOn : Bool)

/-- The components of a form have to be decoded. -/
def Form.components : Form → List (List Char)
  | item name value | assignment name value => [name, value]
  | flag name _ => [name]

/-- The first equals sign ends a name. The brackets of an item and the sign of a flag are not part
of the name. -/
inductive HasForm : List Char → Form → Prop
  | item {name : List Char} (unassigned : '=' ∉ name) (value : List Char) :
      HasForm (name ++ ['[', ']'] ++ '=' :: value) (.item name value)
  | assignment {name : List Char} (unassigned : '=' ∉ name) (single : ¬ ['[', ']'] <:+ name)
      (value : List Char) : HasForm (name ++ '=' :: value) (.assignment name value)
  | minus {name : List Char} (unassigned : '=' ∉ name) : HasForm ('-' :: name) (.flag name false)
  | plus {name : List Char} (unassigned : '=' ∉ name) : HasForm ('+' :: name) (.flag name true)
  | bare {name : List Char} (unassigned : '=' ∉ name)
      (unsigned : ∀ sign, name.head? = some sign → sign ∉ ['-', '+']) :
      HasForm name (.flag name true)

/-- A form stands for a token once its components have been decoded, the value before the name. -/
def Form.token : Form → Except Error Token
  | item name value => (decode value).bind fun word => (decode name).map fun key =>
      .item key (wordValue word)
  | assignment name value => (decode value).bind fun word => (decode name).map fun key =>
      .scalar key (wordValue word)
  | flag name isOn => (decode name).map fun key => .scalar key (.bool isOn)

/-- The token that a piece stands for. -/
def Denotes (piece : List Char) (token : Token) : Prop :=
  ∃ form, HasForm piece form ∧ form.token = .ok token

/-- A piece is undecodable if its name or its value cannot be decoded. -/
def IsUndecodable (piece : List Char) : Prop :=
  ∃ form, HasForm piece form ∧
    ∃ component ∈ form.components, ∃ error, decode component = .error error

def Token.isItem : Token → Bool
  | scalar _ _ => false
  | item _ _ => true

/-- The last of the tokens of a name decides: a scalar gives its own value, and an item the list of
all items behind the last scalar. -/
def resolved (named : List Token) : Value :=
  match named.getLast? with
  | some (.scalar _ value) => value
  | _ => .list ((named.rtakeWhile Token.isItem).map Token.value)

/-- Every name occurs once, where it stands first, with the value of its tokens. -/
def resolution (tokens : List Token) : Options :=
  (tokens.map Token.name).eraseDups.map fun key =>
    (key, resolved (tokens.filter fun token => token.name = key))

theorem itemName?_eq_some_iff {name inner : List Char} :
    itemName? name = some inner ↔ name = inner ++ ['[', ']'] := by
  constructor
  · intro found
    unfold itemName? at found
    split at found
    · case _ rest reversed =>
        obtain rfl := Option.some.inj found
        simpa using congrArg List.reverse reversed
    · contradiction
  · rintro rfl
    exact itemName?_brackets inner

theorem itemName?_eq_none_iff {name : List Char} :
    itemName? name = none ↔ ¬ ['[', ']'] <:+ name := by
  rw [Option.eq_none_iff_forall_ne_some]
  constructor
  · rintro none ⟨inner, rfl⟩
    exact none inner (itemName?_brackets inner)
  · intro single inner found
    rw [itemName?_eq_some_iff] at found
    exact single ⟨inner, found.symm⟩

/-- Every piece has a form. -/
theorem exists_hasForm (piece : List Char) : ∃ form, HasForm piece form := by
  rcases Text.cut_cases '=' piece with ⟨unassigned, -⟩ | ⟨front, value, rfl, unassigned, -⟩
  · cases piece with
    | nil => exact ⟨_, .bare unassigned (by simp)⟩
    | cons sign name =>
        have rest : '=' ∉ name := List.not_mem_of_not_mem_cons unassigned
        by_cases minus : sign = '-'
        · subst minus
          exact ⟨_, .minus rest⟩
        · by_cases plus : sign = '+'
          · subst plus
            exact ⟨_, .plus rest⟩
          · exact ⟨_, .bare unassigned (by simp [minus, plus])⟩
  · by_cases single : ['[', ']'] <:+ front
    · obtain ⟨name, rfl⟩ := single
      exact ⟨_, .item (fun inside => unassigned (List.mem_append_left _ inside)) value⟩
    · exact ⟨_, .assignment unassigned single value⟩

/-- A piece is read by its form. -/
theorem HasForm.read_eq {piece : List Char} {form : Form} (formed : HasForm piece form) :
    Token.read piece = form.token := by
  cases formed with
  | @item name unassigned value =>
      have whole : '=' ∉ name ++ ['[', ']'] := by simp [unassigned]
      rw [read_assignment whole, Token.ofAssignment, itemName?_brackets]
      rfl
  | assignment unassigned single value =>
      rw [read_assignment unassigned, Token.ofAssignment, itemName?_eq_none_iff.mpr single]
      rfl
  | minus unassigned =>
      rw [read_flag (by simp [unassigned])]
      rfl
  | plus unassigned =>
      rw [read_flag (by simp [unassigned])]
      rfl
  | bare unassigned unsigned =>
      rw [read_flag unassigned]
      unfold Token.ofFlag
      split
      · exact absurd List.mem_cons_self (unsigned '-' rfl)
      · exact absurd (by simp) (unsigned '+' rfl)
      · rfl

/-- A piece is read as the token that it stands for. -/
theorem read_eq_ok_iff {piece : List Char} {token : Token} :
    Token.read piece = .ok token ↔ Denotes piece token := by
  constructor
  · intro read
    obtain ⟨form, formed⟩ := exists_hasForm piece
    exact ⟨form, formed, by rw [← formed.read_eq, read]⟩
  · rintro ⟨form, formed, found⟩
    rw [formed.read_eq, found]

/-- A form stands for no token exactly if one of its components cannot be decoded. -/
theorem Form.token_fails_iff (form : Form) :
    (∃ error, form.token = .error error) ↔
      ∃ component ∈ form.components, ∃ error, decode component = .error error := by
  cases form with
  | item name value | assignment name value =>
      simp only [token, components, List.exists_mem_cons_iff]
      cases decode value with
      | error error => simp [Except.bind]
      | ok word => cases decode name <;> simp [Except.bind, Except.map]
  | flag name isOn =>
      simp only [token, components, List.exists_mem_cons_iff]
      cases decode name <;> simp [Except.map]

/-- A piece cannot be read exactly if it is undecodable. -/
theorem read_fails_iff {piece : List Char} :
    (∃ error, Token.read piece = .error error) ↔ IsUndecodable piece := by
  constructor
  · rintro ⟨error, failed⟩
    obtain ⟨form, formed⟩ := exists_hasForm piece
    rw [formed.read_eq] at failed
    exact ⟨form, formed, form.token_fails_iff.mp ⟨error, failed⟩⟩
  · rintro ⟨form, formed, undecodable⟩
    rw [formed.read_eq]
    exact form.token_fails_iff.mpr undecodable

/-- Pieces cannot be read exactly if one of them cannot. -/
theorem mapM_read_fails_iff {pieces : List (List Char)} :
    (∃ error, pieces.mapM Token.read = .error error) ↔
      ∃ piece ∈ pieces, ∃ error, Token.read piece = .error error := by
  induction pieces with
  | nil => simp [pure, Except.pure]
  | cons piece pieces inductionHypothesis =>
      rw [List.mapM_cons, List.exists_mem_cons_iff, ← inductionHypothesis]
      cases Token.read piece with
      | error error => simp [bind, Except.bind]
      | ok token =>
          cases pieces.mapM Token.read <;> simp [bind, Except.bind, pure, Except.pure]

theorem isScalar_wordValue (word : String) : IsScalar (wordValue word) := by
  unfold wordValue
  split_ifs with isNull isTrue isFalse
  · trivial
  · trivial
  · trivial
  · exact ⟨isNull, isTrue, isFalse⟩

/-- The value of every token is a scalar. -/
theorem Denotes.isScalar {piece : List Char} {token : Token} (denoted : Denotes piece token) :
    IsScalar token.value := by
  obtain ⟨form, -, found⟩ := denoted
  cases form with
  | item name value | assignment name value =>
      cases valued : decode value with
      | error error => simp [Form.token, valued, Except.bind] at found
      | ok word =>
          cases named : decode name with
          | error error => simp [Form.token, valued, named, Except.bind, Except.map] at found
          | ok key =>
              simp only [Form.token, valued, named, Except.bind, Except.map,
                Except.ok.injEq] at found
              rw [← found]
              exact isScalar_wordValue word
  | flag name isOn =>
      cases named : decode name with
      | error error => simp [Form.token, named, Except.map] at found
      | ok key =>
          simp only [Form.token, named, Except.map, Except.ok.injEq] at found
          rw [← found]
          trivial

@[simp] theorem resolved_scalar (named : List Token) (key : String) (value : Value) :
    resolved (named ++ [.scalar key value]) = value := by
  rw [resolved, List.getLast?_concat]

theorem resolved_item (named : List Token) (key : String) (value : Value) :
    resolved (named ++ [.item key value]) =
      .list ((named.rtakeWhile Token.isItem).map Token.value ++ [value]) := by
  rw [resolved, List.getLast?_concat]
  simp [List.rtakeWhile_concat, Token.isItem, Token.value]

/-- An item behind a scalar starts a new list. -/
theorem update_scalar {current : Value} (scalar : IsScalar current) (key : String) (value : Value) :
    Token.update (some current) (.item key value) = .list [value] := by
  cases current with
  | list items => contradiction
  | _ => rfl

theorem isScalar_of_denoted {pieces : List (List Char)} {tokens : List Token}
    (denoted : List.Forall₂ Denotes pieces tokens) : ∀ token ∈ tokens, IsScalar token.value := by
  induction denoted with
  | nil => exact nofun
  | cons first _ inductionHypothesis =>
      exact List.forall_mem_cons.mpr ⟨first.isScalar, inductionHypothesis⟩

/-- The tokens of one name, taken one after the other, leave the value that they resolve to. -/
theorem foldl_update_eq_resolved {named : List Token} (present : named ≠ [])
    (scalar : ∀ token ∈ named, IsScalar token.value) :
    named.foldl (fun current token => some (token.update current)) none =
      some (resolved named) := by
  induction named using List.reverseRecOn with
  | nil => contradiction
  | append_singleton others last inductionHypothesis =>
      rw [List.foldl_concat]
      cases last with
      | scalar key value => rw [resolved_scalar, Token.update]
      | item key value =>
          -- The token before an item decides whether its list is continued.
          rcases List.eq_nil_or_concat' others with rfl | ⟨before, previous, rfl⟩
          · rfl
          · rw [inductionHypothesis (by simp) fun token member =>
              scalar token (List.mem_append_left _ member), resolved_item]
            cases previous with
            | scalar other given =>
                have single : IsScalar given := scalar (.scalar other given) (by simp)
                rw [resolved_scalar, update_scalar single, List.rtakeWhile_concat]
                rfl
            | item other given =>
                rw [resolved_item, Token.update, List.rtakeWhile_concat]
                simp [Token.isItem, Token.value]

/-- Tokens with scalar values have the effect of their resolution. -/
theorem applied_eq_resolution {tokens : List Token}
    (scalar : ∀ token ∈ tokens, IsScalar token.value) :
    tokens.foldl Token.apply [] = resolution tokens := by
  have ordered : Mapping.keys (tokens.foldl Token.apply []) = Mapping.keys (resolution tokens) := by
    rw [Token.keys_applied, resolution, Mapping.keys, List.map_map]
    exact (List.map_id _).symm
  have distinct := Token.nodup_keys_applied tokens
  apply Mapping.eq_of_valueAt? distinct ordered
  intro key
  by_cases known : key ∈ Mapping.keys (resolution tokens)
  · obtain ⟨entry, member, rfl⟩ := List.mem_map.mp known
    rw [Mapping.valueAt?_of_mem (ordered ▸ distinct) member, Token.valueAt?_applied]
    obtain ⟨name, occurs, rfl⟩ := List.mem_map.mp member
    obtain ⟨token, inside, named⟩ := List.mem_map.mp (List.mem_eraseDups.mp occurs)
    have own : token ∈ tokens.filter fun token => token.name = name := by
      simp [inside, named]
    exact foldl_update_eq_resolved (List.ne_nil_of_mem own) fun token member =>
      scalar token (List.mem_filter.mp member).1
  · rw [(Mapping.valueAt?_eq_none_iff _ key).mpr known, Mapping.valueAt?_eq_none_iff, ordered]
    exact known

/-- A query that is cut into pieces fails exactly if the name or the value of one of them cannot be
decoded. Otherwise it has the options that the tokens of its pieces resolve to. -/
theorem parse_resolves {query : String} {pieces : List (List Char)}
    (cut : pieces? query = some pieces) :
    ((∃ error, parse query = .error error) ↔ ∃ piece ∈ pieces, IsUndecodable piece) ∧
      ∀ options, parse query = .ok options ↔
        ∃ tokens, List.Forall₂ Denotes pieces tokens ∧ options = resolution tokens := by
  have read (found : List Token) :
      pieces.mapM Token.read = .ok found ↔ List.Forall₂ Denotes pieces found := by
    rw [mapM_read_eq_ok_iff]
    simp only [read_eq_ok_iff]
  rw [parse_of_pieces cut]
  constructor
  · simp only [← read_fails_iff, ← mapM_read_fails_iff]
    cases pieces.mapM Token.read <;> simp [Except.map]
  · intro options
    simp only [← read]
    cases found : pieces.mapM Token.read with
    | error error => simp [Except.map]
    | ok tokens =>
        have scalar := isScalar_of_denoted ((read tokens).mp found)
        simp [Except.map, applied_eq_resolution scalar, eq_comm]

/-- A scalar ends a list under another spelling of its name, a later item starts a new list, and
tokens of other names stand between them. A single broken value makes the whole query fail. -/
theorem parse_resolves_spellings :
    parse "?a[]=0,%61=x&-b&a[]=null,+b,a[]=%2C&" =
        .ok [("a", .list [.null, .string ","]), ("b", .bool true), ("", .bool true)] ∧
      ∃ error, parse "?a=1&b=%f,c" = .error error := by
  have whole : pieces? "?a[]=0,%61=x&-b&a[]=null,+b,a[]=%2C&" =
      some ["a[]=0".toList, "%61=x".toList, "-b".toList, "a[]=null".toList, "+b".toList,
        "a[]=%2C".toList, []] := by decide +kernel
  have broken : pieces? "?a=1&b=%f,c" = some ["a=1".toList, "b=%f".toList, "c".toList] := by
    decide +kernel
  constructor
  · refine ((parse_resolves whole).2 _).mpr
      ⟨[.item "a" (.string "0"), .scalar "a" (.string "x"), .scalar "b" (.bool false),
        .item "a" .null, .scalar "b" (.bool true), .item "a" (.string ","),
        .scalar "" (.bool true)], ?_, by decide +kernel⟩
    simp only [List.forall₂_cons, List.Forall₂.nil, and_true, ← read_eq_ok_iff]
    decide +kernel
  · have unassigned : '=' ∉ ['b'] := by decide
    have single : ¬ ['[', ']'] <:+ ['b'] := by decide
    have form : HasForm "b=%f".toList (.assignment ['b'] "%f".toList) :=
      .assignment unassigned single "%f".toList
    have undecodable : decode "%f".toList = .error (.malformedEscape "%f") := by decide +kernel
    exact (parse_resolves broken).1.mpr ⟨"b=%f".toList, by simp, _, form, "%f".toList,
      by simp [Form.components], _, undecodable⟩

end SvgComponent.Query
