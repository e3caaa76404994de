/-
This file shows which pieces of a query decide an option, and which pieces turn it off.
-/

import Mathlib.Tactic.SplitIfs
import SvgComponent.Proofs.Query.Options
import SvgComponent.Proofs.Text.Scan
import SvgComponent.Query.Parse

namespace SvgComponent.Query

deriving instance DecidableEq for Token

/-- The pieces between the separators of a query. An object literal is not cut into pieces. -/
def pieces? (query : String) : Option (List (List Char)) :=
  match query.toList with
  | [] | ['?'] => some []
  | '?' :: text => if isLiteral text then none else some (Text.split isSeparator text)
  | _ => none

/-- The tokens that the pieces are read as. -/
def tokens (pieces : List (List Char)) : List Token :=
  pieces.filterMap fun piece => (Token.read piece).toOption

/-- The tokens of one name. -/
def tokensNamed (name : String) (pieces : List (List Char)) : List Token :=
  (tokens pieces).filter fun token => token.name = name

/-- A piece names an option if its decoded name is that of the option. -/
def Names (name : String) (piece : List Char) : Prop :=
  ∃ token, Token.read piece = .ok token ∧ token.name = name

/-- A flag with a minus sign turns its option off, and so does an assignment of the word for false.
An item never does. -/
inductive TurnsOff (name : String) : List Char → Prop
  | flag {component : List Char} (unassigned : '=' ∉ component)
      (named : decode component = .ok name) : TurnsOff name ('-' :: component)
  | assignment {component value : List Char} (unassigned : '=' ∉ component)
      (single : itemName? component = none) (named : decode component = .ok name)
      (word : decode value = .ok "false") : TurnsOff name (component ++ '=' :: value)

/-- The last piece that names the option turns it off. -/
def LastTurnsOff (name : String) (pieces : List (List Char)) : Prop :=
  ∃ before piece after, pieces = before ++ piece :: after ∧ TurnsOff name piece ∧
    ∀ other ∈ after, ¬ Names name other

/-- All pieces are read if each of them is read as one token. -/
theorem mapM_read_eq_ok_iff {pieces : List (List Char)} {found : List Token} :
    pieces.mapM Token.read = .ok found ↔
      List.Forall₂ (fun piece token => Token.read piece = .ok token) pieces found := by
  induction pieces generalizing found with
  | nil =>
      rw [List.mapM_nil, List.forall₂_nil_left_iff]
      exact ⟨fun read => (Except.ok.inj read).symm, fun empty => congrArg Except.ok empty.symm⟩
  | cons piece pieces inductionHypothesis =>
      rw [List.mapM_cons, List.forall₂_cons_left_iff]
      cases first : Token.read piece with
      | error error => simp [bind, Except.bind]
      | ok token =>
          simp only [Except.ok.injEq, ← inductionHypothesis]
          cases pieces.mapM Token.read with
          | error error => simp [bind, Except.bind]
          | ok others => simp [bind, Except.bind, pure, Except.pure, eq_comm]

theorem mapM_read_tokens {pieces : List (List Char)} {found : List Token}
    (read : pieces.mapM Token.read = .ok found) : tokens pieces = found := by
  rw [mapM_read_eq_ok_iff] at read
  induction read with
  | nil => rfl
  | cons first _ inductionHypothesis =>
      rw [tokens, List.filterMap_cons, first, ← inductionHypothesis]
      rfl

/-- A query that is cut into pieces applies the tokens of its pieces, if all of them can be read. -/
theorem parse_of_pieces {query : String} {pieces : List (List Char)}
    (cut : pieces? query = some pieces) :
    parse query = (pieces.mapM Token.read).map fun found => found.foldl Token.apply [] := by
  rw [pieces?] at cut
  split at cut
  · case _ empty =>
      obtain rfl := Option.some.inj cut
      rw [parse, empty]
      rfl
  · case _ mark =>
      obtain rfl := Option.some.inj cut
      rw [parse, mark]
      rfl
  · case _ text other marked =>
      rw [Option.ite_none_left_eq_some] at cut
      obtain ⟨listed, cut⟩ := cut
      obtain rfl := Option.some.inj cut
      rw [parse, marked]
      simp only [if_neg listed]
      rfl
  · contradiction

/-- A query that is cut into pieces has the options that the tokens of its pieces apply. -/
theorem parse_pieces {query : String} {pieces : List (List Char)} {options : Options}
    (cut : pieces? query = some pieces) (parsed : parse query = .ok options) :
    options = (tokens pieces).foldl Token.apply [] := by
  rw [parse_of_pieces cut] at parsed
  cases read : pieces.mapM Token.read with
  | error error => simp [read, Except.map] at parsed
  | ok found =>
      rw [mapM_read_tokens read]
      simpa [read, Except.map] using parsed.symm

namespace Token

/-- A value that is no list comes from the last token of its name, and this token is no item. -/
theorem valueAt?_applied_iff {value : Value} (single : ∀ items, value ≠ .list items) (key : String)
    (tokens : List Token) :
    Mapping.valueAt? (tokens.foldl apply []) key = some value ↔
      (tokens.filter fun token => token.name = key).getLast? = some (.scalar key value) := by
  have own : ∀ token ∈ tokens.filter fun token => token.name = key, token.name = key :=
    fun token member => of_decide_eq_true (List.mem_filter.mp member).2
  rw [valueAt?_applied]
  generalize tokens.filter (fun token => token.name = key) = named at own ⊢
  rcases List.eq_nil_or_concat' named with rfl | ⟨others, last, rfl⟩
  · simp
  · rw [List.foldl_concat, List.getLast?_concat]
    cases last with
    | scalar name given =>
        obtain rfl : name = key := own (.scalar name given) (by simp)
        simp [update]
    | item name given =>
        have listed (current : Option Value) :
            ∃ items, update current (.item name given) = .list items := by
          cases current with
          | none => exact ⟨[given], rfl⟩
          | some current => cases current <;> exact ⟨_, rfl⟩
        obtain ⟨items, listed⟩ := listed _
        rw [listed]
        simp [(single items).symm]

end Token

theorem wordValue_false_iff (word : String) : wordValue word = .bool false ↔ word = "false" := by
  constructor
  · intro off
    rw [wordValue] at off
    split_ifs at off <;> simp_all
  · rintro rfl
    rfl

/-- Only a flag with a minus sign has the value false. -/
theorem ofFlag_off_iff {name : String} {piece : List Char} :
    Token.ofFlag piece = .ok (.scalar name (.bool false)) ↔
      ∃ component, piece = '-' :: component ∧ decode component = .ok name := by
  constructor
  · intro read
    unfold Token.ofFlag at read
    split at read
    · case _ component =>
        refine ⟨component, rfl, ?_⟩
        cases named : decode component <;>
          simp_all [bind, Except.bind, pure, Except.pure]
    · case _ component =>
        cases named : decode component <;>
          simp [named, bind, Except.bind, pure, Except.pure] at read
    · cases named : decode piece <;>
        simp [named, bind, Except.bind, pure, Except.pure] at read
  · rintro ⟨component, rfl, named⟩
    rw [Token.ofFlag, named]
    rfl

/-- An assignment has the value false if it is single and its value is the word for false. -/
theorem ofAssignment_off_iff {name : String} {component value : List Char} :
    Token.ofAssignment component value = .ok (.scalar name (.bool false)) ↔
      itemName? component = none ∧ decode component = .ok name ∧ decode value = .ok "false" := by
  rw [Token.ofAssignment]
  cases word : decode value with
  | error error => simp [bind, Except.bind]
  | ok text =>
      cases item : itemName? component with
      | none =>
          cases decode component <;>
            simp [bind, Except.bind, pure, Except.pure, wordValue_false_iff]
      | some inner =>
          cases named : decode inner <;> simp [bind, Except.bind, pure, Except.pure, named]

theorem read_flag {piece : List Char} (unassigned : '=' ∉ piece) :
    Token.read piece = Token.ofFlag piece := by
  rcases Text.cut_cases '=' piece with ⟨-, cut⟩ | ⟨front, rest, rfl, -, -⟩
  · rw [Token.read, cut]
  · simp at unassigned

theorem read_assignment {component : List Char} (unassigned : '=' ∉ component) (value : List Char) :
    Token.read (component ++ '=' :: value) = Token.ofAssignment component value := by
  rw [Token.read, Text.cut_append value unassigned]

/-- A piece is read as the value false for an option exactly if it turns the option off. -/
theorem read_off_iff (name : String) (piece : List Char) :
    Token.read piece = .ok (.scalar name (.bool false)) ↔ TurnsOff name piece := by
  constructor
  · intro read
    rcases Text.cut_cases '=' piece with ⟨unassigned, -⟩ | ⟨component, value, rfl, unassigned, -⟩
    · rw [read_flag unassigned, ofFlag_off_iff] at read
      obtain ⟨component, rfl, named⟩ := read
      exact .flag (List.not_mem_of_not_mem_cons unassigned) named
    · rw [read_assignment unassigned, ofAssignment_off_iff] at read
      obtain ⟨single, named, word⟩ := read
      exact .assignment unassigned single named word
  · rintro (⟨unassigned, named⟩ | ⟨unassigned, single, named, word⟩)
    · rw [read_flag (by simp [unassigned]), ofFlag_off_iff]
      exact ⟨_, rfl, named⟩
    · rw [read_assignment unassigned, ofAssignment_off_iff]
      exact ⟨single, named, word⟩

/-- The last token of a name holds the value false exactly if the last piece that names the option
turns it off. -/
theorem getLast?_tokensNamed_iff (name : String) (pieces : List (List Char)) :
    (tokensNamed name pieces).getLast? = some (.scalar name (.bool false)) ↔
      LastTurnsOff name pieces := by
  have unnamed (piece : List Char) :
      (((Token.read piece).toOption).filter fun token => token.name = name) = none ↔
        ¬ Names name piece := by
    cases read : Token.read piece with
    | error error => simp [Names, read, Except.toOption]
    | ok token => simp [Names, read, Except.toOption]
  rw [tokensNamed, tokens, List.filter_filterMap, List.getLast?_filterMap,
    List.findSome?_eq_some_iff]
  constructor
  · rintro ⟨after, piece, before, same, found, others⟩
    refine ⟨before.reverse, piece, after.reverse, by simpa using congrArg List.reverse same, ?_, ?_⟩
    · rw [← read_off_iff]
      cases read : Token.read piece with
      | error error => simp [read, Except.toOption] at found
      | ok token => simpa [read, Except.toOption, Token.name] using found
    · intro other member
      exact (unnamed other).mp (others other (List.mem_reverse.mp member))
  · rintro ⟨before, piece, after, rfl, off, others⟩
    refine ⟨after.reverse, piece, before.reverse, by simp, ?_, ?_⟩
    · rw [(read_off_iff name piece).mpr off]
      simp [Except.toOption, Token.name]
    · intro other member
      exact (unnamed other).mpr (others other (List.mem_reverse.mp member))

end SvgComponent.Query
