/-
This file shows that options can be written as a query, in many ways, and that every way is read as
the same options.
-/

import SvgComponent.Proofs.Query.Options
import SvgComponent.Proofs.Query.Percent
import SvgComponent.Query.Parse

namespace SvgComponent.Query

/-- A scalar is one of three words, or a text that is none of them. -/
def IsScalar : Value → Prop
  | .null | .bool _ => True
  | .string text => text ≠ "null" ∧ text ≠ "true" ∧ text ≠ "false"
  | _ => False

/-- Tokens can write scalars and lists of scalars that are not empty. -/
def IsWritable : Value → Prop
  | .list items => items ≠ [] ∧ ∀ item ∈ items, IsScalar item
  | value => IsScalar value

/-- Options whose names are distinct and whose values tokens can write. -/
structure AreWritable (options : Options) : Prop where
  distinct : (Mapping.keys options).Nodup
  values : ∀ entry ∈ options, IsWritable entry.2

/-- The three words are written as they are, and texts with percent escapes. -/
def writeScalar : Value → List Char
  | .null => "null".toList
  | .bool true => "true".toList
  | .bool false => "false".toList
  | .string text => Percent.encode text
  | _ => []

/-- The tokens that write one option: one token for a scalar, and one for every item of a list. -/
def tokensOf (name : String) : Value → List Token
  | .list items => items.map (.item name)
  | value => [.scalar name value]

namespace Token

def value : Token → Value
  | scalar _ value | item _ value => value

def write : Token → List Char
  | scalar name value => Percent.encode name ++ '=' :: writeScalar value
  | item name value => Percent.encode name ++ '[' :: ']' :: '=' :: writeScalar value

end Token

/-- The tokens of all options, mixed. The tokens of one name keep their order, and the first tokens
of all names stand in the order of the options. -/
structure Mixes (options : Options) (tokens : List Token) : Prop where
  own : ∀ entry ∈ options, (tokens.filter fun token => token.name = entry.1) =
    tokensOf entry.1 entry.2
  first : (tokens.map Token.name).eraseDups = Mapping.keys options

/-- The text of pieces with one separator between each two of them. -/
inductive Joins : List (List Char) → List Char → Prop
  | none : Joins [] []
  | last (piece : List Char) : Joins [piece] piece
  | more (piece : List Char) (separator : Char) (separates : isSeparator separator = true)
      {next : List Char} {others : List (List Char)} {text : List Char}
      (joined : Joins (next :: others) text) :
      Joins (piece :: next :: others) (piece ++ separator :: text)

/-- The query writes the options as tokens. -/
def Writes (query : String) (options : Options) : Prop :=
  ∃ tokens text, Mixes options tokens ∧ Joins (tokens.map Token.write) text ∧
    query.toList = '?' :: text

-- A property of all members of a list is decided by the members, not by all characters.
attribute [local instance (high)] List.decidableBAll

/-- A scalar is written without the marks of a query. -/
theorem writeScalar_mem {value : Value} {c : Char} (member : c ∈ writeScalar value) :
    c ∉ [',', '&', '=', '[', ']', '\x7b'] := by
  have words : ∀ word ∈ ["null".toList, "true".toList, "false".toList],
      ∀ c ∈ word, c ∉ [',', '&', '=', '[', ']', '\x7b'] := by decide
  cases value with
  | null => exact words _ (by simp [writeScalar]) c member
  | bool flag => cases flag <;> exact words _ (by simp [writeScalar]) c member
  | string text => exact (Percent.encode_mem member).2
  | int number => contradiction
  | float number => contradiction
  | list items => contradiction
  | object members => contradiction

/-- A word of ASCII letters is decoded to itself. -/
theorem decode_word {word : String} (plain : Percent.encode word = word.toList) :
    decode word.toList = .ok word := by
  rw [← plain, decode_encode]

/-- A written scalar is decoded to a text that stands for it. -/
theorem decode_writeScalar {value : Value} (scalar : IsScalar value) :
    ∃ text, decode (writeScalar value) = .ok text ∧ wordValue text = value := by
  cases value with
  | null => exact ⟨"null", decode_word (by decide), rfl⟩
  | bool flag =>
      cases flag with
      | false => exact ⟨"false", decode_word (by decide), rfl⟩
      | true => exact ⟨"true", decode_word (by decide), rfl⟩
  | string text =>
      obtain ⟨notNull, notTrue, notFalse⟩ := scalar
      exact ⟨text, decode_encode text, by simp [wordValue, notNull, notTrue, notFalse]⟩
  | int number => contradiction
  | float number => contradiction
  | list items => contradiction
  | object members => contradiction

theorem encode_notMem (text : String) {mark : Char}
    (known : mark ∈ [',', '&', '=', '[', ']', '\x7b']) : mark ∉ Percent.encode text :=
  fun member => (Percent.encode_mem member).2 known

/-- An encoded name does not end in brackets. -/
theorem itemName?_encode (name : String) : itemName? (Percent.encode name) = none := by
  rw [itemName?]
  split
  · case _ rest reversed =>
      have member : ']' ∈ Percent.encode name := by
        rw [← List.mem_reverse, reversed]
        exact List.mem_cons_self
      exact absurd member (encode_notMem name (by decide))
  · rfl

theorem itemName?_brackets (name : List Char) : itemName? (name ++ ['[', ']']) = some name := by
  simp [itemName?]

/-- A written token is read as itself. -/
theorem read_write {token : Token} (scalar : IsScalar token.value) :
    Token.read token.write = .ok token := by
  obtain ⟨text, decoded, meant⟩ := decode_writeScalar scalar
  cases token with
  | scalar name value =>
      have absent : '=' ∉ Percent.encode name := encode_notMem name (by decide)
      change decode (writeScalar value) = .ok text at decoded
      change wordValue text = value at meant
      simp only [Token.read, Token.write, Text.cut_append _ absent, Token.ofAssignment, decoded,
        itemName?_encode, decode_encode]
      rw [← meant]
      rfl
  | item name value =>
      have absent : '=' ∉ Percent.encode name ++ ['[', ']'] := by
        rw [List.mem_append]
        rintro (inside | bracket)
        · exact encode_notMem name (by decide) inside
        · exact absurd bracket (by decide)
      have written : Token.write (.item name value) =
          Percent.encode name ++ ['[', ']'] ++ '=' :: writeScalar value := by
        simp [Token.write]
      change decode (writeScalar value) = .ok text at decoded
      change wordValue text = value at meant
      simp only [Token.read, written, Text.cut_append _ absent, Token.ofAssignment, decoded,
        itemName?_brackets, decode_encode]
      rw [← meant]
      rfl

/-- Written tokens are read one by one. -/
theorem mapM_read_write {tokens : List Token} (scalar : ∀ token ∈ tokens, IsScalar token.value) :
    (tokens.map Token.write).mapM Token.read = .ok tokens := by
  induction tokens with
  | nil => rfl
  | cons token tokens inductionHypothesis =>
      rw [List.map_cons, List.mapM_cons, read_write (scalar token List.mem_cons_self),
        inductionHypothesis fun other member => scalar other (List.mem_cons_of_mem token member)]
      rfl

/-- A written token has no separator and does not open an object. -/
theorem write_mem {token : Token} {c : Char} (member : c ∈ token.write) :
    c ∉ [',', '&', '\x7b'] := by
  have kept (text : List Char)
      (marks : c ∈ text → c ∉ [',', '&', '=', '[', ']', '\x7b']) (inside : c ∈ text) :
      c ∉ [',', '&', '\x7b'] := by
    have unmarked := marks inside
    simp only [List.mem_cons, List.not_mem_nil, or_false, not_or] at unmarked ⊢
    tauto
  cases token with
  | scalar name value =>
      rcases List.mem_append.mp member with inside | inside
      · exact kept _ (fun member => (Percent.encode_mem member).2) inside
      · rcases List.mem_cons.mp inside with rfl | inside
        · decide
        · exact kept _ writeScalar_mem inside
  | item name value =>
      rcases List.mem_append.mp member with inside | inside
      · exact kept _ (fun member => (Percent.encode_mem member).2) inside
      · simp only [List.mem_cons] at inside
        rcases inside with rfl | rfl | rfl | inside
        · decide
        · decide
        · decide
        · exact kept _ writeScalar_mem inside

theorem write_ne_nil (token : Token) : token.write ≠ [] := by
  cases token <;> simp [Token.write]

/-- Pieces without separators are split where they were joined. -/
theorem Joins.split {pieces : List (List Char)} {text : List Char} (joined : Joins pieces text)
    (some : pieces ≠ []) (inside : ∀ piece ∈ pieces, ∀ c ∈ piece, isSeparator c = false) :
    Text.split isSeparator text = pieces := by
  induction joined with
  | none => contradiction
  | last piece => exact Text.split_single (inside piece List.mem_cons_self)
  | more piece separator separates joined inductionHypothesis =>
      rw [Text.split_append (inside piece List.mem_cons_self) separates,
        inductionHypothesis (List.cons_ne_nil _ _) fun other member =>
          inside other (List.mem_cons_of_mem piece member)]

/-- A joined text begins as its first piece does. -/
theorem Joins.head? {piece : List Char} {pieces : List (List Char)} {text : List Char}
    (joined : Joins (piece :: pieces) text) (some : piece ≠ []) : text.head? = piece.head? := by
  cases joined with
  | last => rfl
  | more _ _ separates joined => exact List.head?_append_of_ne_nil _ some

namespace Mixes

/-- Every token of a mixture holds a scalar of one of the options. -/
theorem scalar {options : Options} {tokens : List Token} (mixed : Mixes options tokens)
    (writable : ∀ entry ∈ options, IsWritable entry.2) : ∀ token ∈ tokens, IsScalar token.value := by
  intro token member
  have named : token.name ∈ Mapping.keys options := by
    rw [← mixed.first, List.mem_eraseDups]
    exact List.mem_map_of_mem member
  obtain ⟨⟨name, value⟩, known, same⟩ := List.mem_map.mp named
  have own : token ∈ tokensOf name value := by
    rw [← mixed.own _ known, List.mem_filter]
    exact ⟨member, decide_eq_true same.symm⟩
  have scalars := writable _ known
  cases value with
  | list items =>
      obtain ⟨item, inside, rfl⟩ := List.mem_map.mp own
      exact scalars.2 item inside
  | _ =>
      obtain rfl := List.mem_singleton.mp own
      exact scalars

/-- Without options there are no tokens. -/
theorem nil_iff {options : Options} {tokens : List Token} (mixed : Mixes options tokens) :
    tokens = [] ↔ options = [] := by
  have ordered := mixed.first
  constructor
  · rintro rfl
    exact List.map_eq_nil_iff.mp ordered.symm
  · rintro rfl
    cases tokens with
    | nil => rfl
    | cons token tokens =>
        rw [List.map_cons, List.eraseDups_cons] at ordered
        contradiction

end Mixes

/-- The items of a list are collected in their order. -/
theorem update_items (name : String) (front items : List Value) :
    (items.map (Token.item name)).foldl (fun current token => some (token.update current))
      (some (.list front)) = some (.list (front ++ items)) := by
  induction items generalizing front with
  | nil => rw [List.append_nil]; rfl
  | cons item items inductionHypothesis =>
      rw [List.map_cons, List.foldl_cons, Token.update, inductionHypothesis, List.append_assoc,
        List.singleton_append]

/-- The tokens that write a value put it together again. -/
theorem update_tokensOf (name : String) {value : Value} (writable : IsWritable value) :
    (tokensOf name value).foldl (fun current token => some (token.update current)) none =
      some value := by
  cases value with
  | list items =>
      cases items with
      | nil => exact absurd rfl writable.1
      | cons item items => exact update_items name [item] items
  | _ => rfl

/-- Mixed tokens have the effect of their options. -/
theorem Mixes.applied {options : Options} {tokens : List Token} (mixed : Mixes options tokens)
    (writable : AreWritable options) : tokens.foldl Token.apply [] = options := by
  have ordered : Mapping.keys (tokens.foldl Token.apply []) = Mapping.keys options := by
    rw [Token.keys_applied, mixed.first]
  apply Mapping.eq_of_valueAt? (Token.nodup_keys_applied tokens) ordered
  intro key
  by_cases known : key ∈ Mapping.keys options
  · obtain ⟨entry, member, rfl⟩ := List.mem_map.mp known
    rw [Token.valueAt?_applied, mixed.own entry member, Mapping.valueAt?_of_mem writable.distinct member,
      update_tokensOf entry.1 (writable.values entry member)]
  · rw [(Mapping.valueAt?_eq_none_iff options key).mpr known, Mapping.valueAt?_eq_none_iff, ordered]
    exact known

/-- Joined tokens are read as they were written. -/
theorem parseTokens_joined {tokens : List Token} (some : tokens ≠ [])
    (scalar : ∀ token ∈ tokens, IsScalar token.value) {text : List Char}
    (joined : Joins (tokens.map Token.write) text) :
    parseTokens text = .ok (tokens.foldl Token.apply []) := by
  have unseparated : ∀ piece ∈ tokens.map Token.write, ∀ c ∈ piece, isSeparator c = false := by
    intro piece member c inside
    obtain ⟨token, -, rfl⟩ := List.mem_map.mp member
    have unmarked := write_mem inside
    simp only [List.mem_cons, not_or] at unmarked
    simp [isSeparator, unmarked]
  rw [parseTokens, joined.split (by simpa using some) unseparated, mapM_read_write scalar]
  rfl

/-- A text of tokens is no object literal. -/
theorem isLiteral_joined {token : Token} {tokens : List Token} {text : List Char}
    (joined : Joins ((token :: tokens).map Token.write) text) : isLiteral text = false := by
  have first : text.head? = token.write.head? := joined.head? (write_ne_nil token)
  cases written : token.write with
  | nil => exact absurd written (write_ne_nil token)
  | cons c rest =>
      have unmarked : c ∉ [',', '&', '\x7b'] := write_mem (written ▸ List.mem_cons_self)
      simp only [List.mem_cons, List.not_mem_nil, or_false, not_or] at unmarked
      rw [written] at first
      simp [isLiteral, first, unmarked]

theorem name_tokensOf {name : String} {value : Value} {token : Token}
    (member : token ∈ tokensOf name value) : token.name = name := by
  cases value with
  | list items =>
      obtain ⟨item, -, rfl⟩ := List.mem_map.mp member
      rfl
  | _ =>
      obtain rfl := List.mem_singleton.mp member
      rfl

theorem tokensOf_ne_nil (name : String) {value : Value} (writable : IsWritable value) :
    tokensOf name value ≠ [] := by
  cases value with
  | list items => simpa [tokensOf] using writable.1
  | _ => exact List.cons_ne_nil _ _

/-- The tokens of one name among the tokens of all options that stand one after the other. -/
theorem filter_tokensOf {options : Options} (distinct : (Mapping.keys options).Nodup)
    (entry : String × Value) (member : entry ∈ options) :
    ((options.flatMap fun option => tokensOf option.1 option.2).filter
      fun token => token.name = entry.1) = tokensOf entry.1 entry.2 := by
  induction options with
  | nil => contradiction
  | cons first options inductionHypothesis =>
      rw [Mapping.keys_cons, List.nodup_cons] at distinct
      rw [List.flatMap_cons, List.filter_append]
      rcases List.mem_cons.mp member with rfl | later
      · have all : (tokensOf entry.1 entry.2).filter (fun token => token.name = entry.1) =
            tokensOf entry.1 entry.2 :=
          List.filter_eq_self.mpr fun token inside => decide_eq_true (name_tokensOf inside)
        have none : (options.flatMap fun option => tokensOf option.1 option.2).filter
            (fun token => token.name = entry.1) = [] := by
          rw [List.filter_eq_nil_iff]
          intro token inside
          obtain ⟨option, known, inside⟩ := List.mem_flatMap.mp inside
          rw [name_tokensOf inside, decide_eq_true_eq]
          intro same
          exact distinct.1 (same ▸ List.mem_map_of_mem known)
        rw [all, none, List.append_nil]
      · have none : (tokensOf first.1 first.2).filter (fun token => token.name = entry.1) = [] := by
          rw [List.filter_eq_nil_iff]
          intro token inside
          rw [name_tokensOf inside, decide_eq_true_eq]
          intro same
          exact distinct.1 (same ▸ List.mem_map_of_mem later)
        rw [none, List.nil_append, inductionHypothesis distinct.2 later]

/-- A list of one name has one name. -/
theorem eraseDups_all {name : String} {names : List String} (some : names ≠ [])
    (all : ∀ other ∈ names, other = name) : names.eraseDups = [name] := by
  cases names with
  | nil => contradiction
  | cons first others =>
      obtain rfl := all first List.mem_cons_self
      have none : others.filter (fun other => !other == first) = [] := by
        rw [List.filter_eq_nil_iff]
        intro other member
        simp [all other (List.mem_cons_of_mem first member)]
      rw [List.eraseDups_cons, none]
      rfl

theorem eraseDups_tokensOf {options : Options} (writable : AreWritable options) :
    ((options.flatMap fun option => tokensOf option.1 option.2).map Token.name).eraseDups =
      Mapping.keys options := by
  obtain ⟨distinct, writable⟩ := writable
  induction options with
  | nil => rfl
  | cons first options inductionHypothesis =>
      rw [Mapping.keys_cons, List.nodup_cons] at distinct
      have own : ((tokensOf first.1 first.2).map Token.name).eraseDups = [first.1] := by
        apply eraseDups_all
        · simpa using tokensOf_ne_nil first.1 (writable first List.mem_cons_self)
        · intro other member
          obtain ⟨token, inside, rfl⟩ := List.mem_map.mp member
          exact name_tokensOf inside
      have apart : (((options.flatMap fun option => tokensOf option.1 option.2).map
          Token.name).removeAll ((tokensOf first.1 first.2).map Token.name)) =
          (options.flatMap fun option => tokensOf option.1 option.2).map Token.name := by
        rw [List.removeAll, List.filter_eq_self]
        intro other member
        obtain ⟨token, inside, rfl⟩ := List.mem_map.mp member
        obtain ⟨option, known, inside⟩ := List.mem_flatMap.mp inside
        have absent : token.name ∉ (tokensOf first.1 first.2).map Token.name := by
          intro shared
          obtain ⟨other, own, same⟩ := List.mem_map.mp shared
          rw [name_tokensOf own, name_tokensOf inside] at same
          exact distinct.1 (same ▸ List.mem_map_of_mem known)
        simpa using absent
      rw [List.flatMap_cons, List.map_append, List.eraseDups_append, own, apart,
        inductionHypothesis distinct.2 fun entry member =>
          writable entry (List.mem_cons_of_mem first member)]
      rfl

theorem exists_joins (pieces : List (List Char)) : ∃ text, Joins pieces text := by
  induction pieces with
  | nil => exact ⟨[], .none⟩
  | cons piece pieces inductionHypothesis =>
      obtain ⟨text, joined⟩ := inductionHypothesis
      cases pieces with
      | nil => exact ⟨piece, .last piece⟩
      | cons next others => exact ⟨_, .more piece '&' rfl joined⟩

/-- Options can be written with their tokens one after the other. -/
theorem exists_writes {options : Options} (writable : AreWritable options) :
    ∃ query, Writes query options := by
  let tokens := options.flatMap fun option => tokensOf option.1 option.2
  obtain ⟨text, joined⟩ := exists_joins (tokens.map Token.write)
  refine ⟨String.ofList ('?' :: text), tokens, text, ?_, joined, String.toList_ofList⟩
  exact ⟨filter_tokensOf writable.distinct, eraseDups_tokensOf writable⟩

/-- Options can be written as tokens of a query. However their tokens are mixed and separated, the
query is read as exactly these options. -/
theorem parse_writes {options : Options} (writable : AreWritable options) :
    (∃ query, Writes query options) ∧ ∀ query, Writes query options → parse query = .ok options := by
  refine ⟨exists_writes writable, ?_⟩
  rintro query ⟨tokens, text, mixed, joined, written⟩
  rw [parse, written]
  cases tokens with
  | nil =>
      cases joined
      obtain rfl := mixed.nil_iff.mp rfl
      rfl
  | cons token tokens =>
      have applied := mixed.applied writable
      have parsed := parseTokens_joined (List.cons_ne_nil token tokens)
        (mixed.scalar writable.values) joined
      have literal := isLiteral_joined joined
      cases text with
      | nil =>
          have first := joined.head? (write_ne_nil token)
          exact absurd (List.head?_eq_none_iff.mp first.symm) (write_ne_nil token)
      | cons c rest =>
          simp only [literal, parsed, applied]
          rfl

/-- The tokens of a list stand around those of a scalar, and the names and texts need escapes. -/
theorem parse_writes_mixed :
    Writes "?%5B%5D[]=%C3%A9,=true&%5B%5D[]=null"
      [("[]", .list [.string "é", .null]), ("", .bool true)] ∧
    parse "?%5B%5D[]=%C3%A9,=true&%5B%5D[]=null" =
      .ok [("[]", .list [.string "é", .null]), ("", .bool true)] := by
  have writable : AreWritable [("[]", .list [.string "é", .null]), ("", .bool true)] := by
    refine ⟨by decide, ?_⟩
    simp [IsWritable, IsScalar]
  have written : Writes "?%5B%5D[]=%C3%A9,=true&%5B%5D[]=null"
      [("[]", .list [.string "é", .null]), ("", .bool true)] := by
    refine ⟨[.item "[]" (.string "é"), .scalar "" (.bool true), .item "[]" .null],
      "%5B%5D[]=%C3%A9,=true&%5B%5D[]=null".toList, ?_, ?_, by decide⟩
    · refine ⟨?_, by decide⟩
      simp [tokensOf, Token.name]
    · exact .more "%5B%5D[]=%C3%A9".toList ',' rfl
        (.more "=true".toList '&' rfl (.last "%5B%5D[]=null".toList))
  exact ⟨written, (parse_writes writable).2 _ written⟩

end SvgComponent.Query
