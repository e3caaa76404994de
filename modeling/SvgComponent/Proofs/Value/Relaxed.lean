/-
This file shows that the relaxed dialect reads back what is written as literals and in compact form.
-/

import SvgComponent.Proofs.Mapping
import SvgComponent.Proofs.Text.Scan
import SvgComponent.Proofs.Value.Compact
import SvgComponent.Proofs.Value.Spelling
import SvgComponent.Value.Relaxed

namespace SvgComponent.Value

open Text

-- A property of all members of a list is decided by the members, not by all characters.
attribute [local instance (high)] List.decidableBAll

/-- A mapping of texts as an object. -/
def ofStrings (mapping : Mapping String String) : Value :=
  .object (mapping.map fun entry => (entry.1, .string entry.2))

theorem Compact.write_ofStrings (mapping : Mapping String String) :
    write (.ofStrings mapping) = writeStrings mapping :=
  rfl

namespace Relaxed

/-- A string may hold every character but its quote, a backslash and two line ends as it is. -/
theorem readsCodes {quote : Char} (opening : isQuote quote = true) :
    ReadsCodes (units quote) quote (fun c => c ∉ [quote, '\\', '\n', '\r']) escaped? where
  closing fuel rest := by simp [units]
  plain := by
    intro c itself fuel rest
    simp only [List.mem_cons, List.not_mem_nil, or_false, not_or] at itself
    obtain ⟨other, unescaped, unbroken, unreturned⟩ := itself
    rw [units, if_neg other, if_neg unescaped]
    simp only [unbroken, unreturned, decide_false, Bool.or_self]
    cases units quote fuel rest <;> rfl
  escaped := by
    intro text rest found each fuel
    have other : '\\' ≠ quote := by
      rintro rfl
      contradiction
    rw [units, if_neg other, if_pos rfl, each]
    simp only [before]
    cases units quote fuel rest <;> rfl

theorem spells_literal (c : Char) :
    Spells (units '\'') (Component.Literal.escape c) [c.toNat] := by
  refine Spells.literal (readsCodes rfl) (fun c itself => ?_) ?_ c
  · simp only [List.mem_cons, List.not_mem_nil, or_false, not_or] at itself ⊢
    exact ⟨itself.2.1, itself.1, itself.2.2.1, itself.2.2.2.1⟩
  · simp only [List.forall_mem_cons]
    exact ⟨fun _ => rfl, fun _ => rfl, fun _ => rfl, fun _ => rfl, fun _ => rfl, fun _ => rfl,
      List.forall_mem_nil _⟩

theorem spells_compact (c : Char) : Spells (units '"') (Compact.escape c) [c.toNat] := by
  refine Spells.compact (readsCodes rfl) (fun c quote backslash visible => ?_) ?_ ?_ c
  · simp only [List.mem_cons, List.not_mem_nil, or_false, not_or]
    refine ⟨quote, backslash, ?_, ?_⟩ <;>
    · rintro rfl
      contradiction
  · simp only [List.forall_mem_cons]
    exact ⟨fun _ => rfl, fun _ => rfl, fun _ => rfl, fun _ => rfl, fun _ => rfl, fun _ => rfl,
      fun _ => rfl, List.forall_mem_nil _⟩
  · intro code control rest
    rw [escaped?, if_pos rfl, Text.Hexadecimal.read?_write control]
    rfl

/-- A text between two quotes is read as a string. -/
theorem string_spelled {quote : Char} (opening : isQuote quote = true) {text : String}
    {body : List Char} (spells : Spells (units quote) body (text.toList.map Char.toNat))
    (rest : List Char) : string (quote :: body ++ quote :: rest) = .ok (text, rest) := by
  rw [List.cons_append, string, if_pos opening, spells.read (readsCodes opening)]
  simp [bind, Except.bind, pure, Except.pure, Text.Units.characters_toNat]

/-- A literal is read back, whatever follows it. -/
theorem string_literal (text : String) (rest : List Char) :
    string ((Component.Literal.write text).toList ++ rest) = .ok (text, rest) := by
  have spelled := string_spelled rfl (Spells.flatMap spells_literal text.toList) rest
  rw [Component.Literal.write, String.toList_ofList, List.append_assoc]
  exact spelled

/-- A string in compact form is read back, whatever follows it. -/
theorem string_compact (text : String) (rest : List Char) :
    string (Compact.stringText text ++ rest) = .ok (text, rest) := by
  have spelled := string_spelled rfl (Spells.flatMap spells_compact text.toList) rest
  rw [Compact.stringText, List.append_assoc]
  exact spelled

/-- A string in compact form is read back as a key. -/
theorem key_compact (text : String) (rest : List Char) :
    key (Compact.stringText text ++ rest) = .ok (text, rest) := by
  have quoted : (Compact.stringText text ++ rest).head?.any isQuote = true := rfl
  rw [key, if_pos quoted, string_compact]

/-- Nothing is skipped in front of a visible character, unless it may begin a comment. -/
theorem skip_visible {c : Char} (visible : isBlank c = false) (other : c ≠ '/') (rest : List Char) :
    dialect.skip (c :: rest) = c :: rest := by
  simp [dialect, skip, skipWithin, visible, other]

/-- The characters with which a number could go on. -/
def continuesNumber (c : Char) : Bool :=
  c.isDigit || c = '.' || isExponentMark c || c = 'x' || c = 'X'

/-- A number ends in front of a text. -/
def EndsNumber (rest : List Char) : Prop :=
  ∀ c, rest.head? = some c → continuesNumber c = false

theorem EndsNumber.isDigit {rest : List Char} (ended : EndsNumber rest) :
    ∀ c, rest.head? = some c → c.isDigit = false := by
  intro c first
  have other := ended c first
  simp only [continuesNumber, Bool.or_eq_false_iff] at other
  exact other.1.1.1.1

theorem exponent_none {rest : List Char} (ended : EndsNumber rest) :
    exponent rest = .ok (none, rest) := by
  cases rest with
  | nil => rfl
  | cons c rest =>
      have other := ended c rfl
      simp only [continuesNumber, Bool.or_eq_false_iff] at other
      simp [exponent, other.1.1.2]

/-- A numeral without point and exponent is a whole number. -/
theorem decimal_numeral {magnitude : Nat} {rest : List Char}
    (short : (Nat.toDigits 10 magnitude).length ≤ Numeral.mostDigits) (ended : EndsNumber rest)
    (negative : Bool) :
    decimal negative (Nat.toDigits 10 magnitude ++ rest) =
      .ok (.int (if negative then -magnitude else magnitude), rest) := by
  have whole : (Nat.toDigits 10 magnitude ++ rest).takeWhile Char.isDigit =
      Nat.toDigits 10 magnitude :=
    takeWhile_before (fun c member => Numeral.isDigit_toDigits member) ended.isDigit
  have unpadded : ¬ ((Nat.toDigits 10 magnitude).head? = some '0' ∧
      1 < (Nat.toDigits 10 magnitude).length) := by
    rintro ⟨zero, long⟩
    rw [Numeral.leading_zero zero] at long
    contradiction
  rw [decimal]
  simp only [whole, List.drop_left]
  split
  · case _ point =>
      have other := ended '.' rfl
      contradiction
  · simp [unpadded, exponent_none ended, Numeral.value?_toDigits short, bind, Except.bind, pure,
      Except.pure]

theorem unsigned_numeral {magnitude : Nat} {rest : List Char}
    (short : (Nat.toDigits 10 magnitude).length ≤ Numeral.mostDigits) (ended : EndsNumber rest)
    (negative : Bool) :
    unsigned negative (Nat.toDigits 10 magnitude ++ rest) =
      .ok (.int (if negative then -magnitude else magnitude), rest) := by
  have infinite : "Infinity".toList.isPrefixOf? (Nat.toDigits 10 magnitude ++ rest) = none :=
    Numeral.isPrefixOf?_toDigits rfl _ magnitude rest
  have notNumber : "NaN".toList.isPrefixOf? (Nat.toDigits 10 magnitude ++ rest) = none :=
    Numeral.isPrefixOf?_toDigits rfl _ magnitude rest
  have unmarked (mark : Char) (other : continuesNumber mark = true) (after : List Char) :
      Nat.toDigits 10 magnitude ++ rest ≠ '0' :: mark :: after := by
    intro equal
    have zero : (Nat.toDigits 10 magnitude).head? = some '0' := by
      have first := congrArg List.head? equal
      rwa [List.head?_append_of_ne_nil _ Nat.toDigits_ne_nil] at first
    rw [Numeral.leading_zero zero, List.singleton_append] at equal
    have first := ended mark (by rw [(List.cons.inj equal).2]; rfl)
    rw [other] at first
    contradiction
  rw [unsigned, infinite, notNumber]
  · exact decimal_numeral short ended negative
  · exact unmarked 'x' rfl
  · exact unmarked 'X' rfl

theorem number_int {value : Int} {rest : List Char}
    (short : (Nat.toDigits 10 value.natAbs).length ≤ Numeral.mostDigits)
    (ended : EndsNumber rest) :
    number (Compact.text (.int value) ++ rest) = .ok (.int value, rest) := by
  apply Compact.read_int
  · rw [number, unsigned_numeral short ended]
    rfl
  · rw [number, unsigned_numeral short ended]
    · rfl
    · exact fun after => Numeral.toDigits_append_ne rfl _ rest after
    · exact fun after => Numeral.toDigits_append_ne rfl _ rest after

theorem visible_mark {c : Char} (mark : Compact.isMark c = true) :
    isBlank c = false ∧ c ≠ '/' := by
  have each : ∀ code < 0x80, Compact.isMark (Char.ofNat code) = true →
      isBlank (Char.ofNat code) = false ∧ Char.ofNat code ≠ '/' := by decide
  have small := Compact.isMark_code mark
  rw [← Char.ofNat_toNat c] at mark ⊢
  exact each c.toNat small mark

/-- The relaxed dialect reads the lexemes of compact texts. -/
theorem readsLexemes : Compact.IsReadBy dialect EndsNumber where
  skip := by
    intro c mark rest
    obtain ⟨visible, other⟩ := visible_mark mark
    exact skip_visible visible other rest
  string := string_compact
  key := key_compact
  number := number_int
  ended := by
    intro c member rest x first
    obtain rfl := Option.some.inj first
    have each : ∀ c ∈ [',', ']', '\x7d'], continuesNumber c = false := by decide
    exact each c member

/-- A text begins with a character that is not skipped and closes no object. -/
def Opens (text : List Char) : Prop :=
  ∃ c rest, text = c :: rest ∧ isBlank c = false ∧ c ≠ '/' ∧ c ≠ '\x7d'

theorem Opens.skip {text : List Char} (opens : Opens text) (rest : List Char) :
    dialect.skip (text ++ rest) = text ++ rest := by
  obtain ⟨c, more, rfl, visible, other, -⟩ := opens
  exact skip_visible visible other (more ++ rest)

/-- A written text is read as a value, whatever follows it. -/
structure Reads (written : List Char) (found : Value) : Prop where
  opens : Opens written
  value : ∀ fuel rest, 2 * written.length < fuel →
    dialect.value fuel (written ++ rest) = .ok (found, rest)

/-- A written text in front of a colon is read as a key. -/
structure ReadsKey (written : List Char) (name : String) : Prop where
  opens : Opens written
  key : ∀ rest, key (written ++ ':' :: rest) = .ok (name, ':' :: rest)

/-- Members with commas between them are read one after the other. -/
inductive ReadsMembers : List Char → List (String × Value) → Prop
  | last {key item : List Char} {name : String} {found : Value} (named : ReadsKey key name)
      (read : Reads item found) : ReadsMembers (key ++ ':' :: item) [(name, found)]
  | more {key item others : List Char} {name : String} {found : Value}
      {members : List (String × Value)} (named : ReadsKey key name) (read : Reads item found)
      (later : ReadsMembers others members) :
      ReadsMembers (key ++ ':' :: item ++ ',' :: others) ((name, found) :: members)

theorem opens_compact (text : String) : Opens (Compact.stringText text) :=
  ⟨'"', _, rfl, by decide, by decide, by decide⟩

theorem reads_string (text : String) : Reads (Compact.stringText text) (.string text) where
  opens := opens_compact text
  value fuel rest enough := by
    have read : Compact.ReadsBack dialect (fun _ => True) (.string text) :=
      Compact.readsBack_string readsLexemes text
    exact read fuel rest trivial enough

theorem nameUnits_word {word : List Char} (letters : ∀ c ∈ word, c.isAlpha = true)
    (rest : List Char) {fuel : Nat} (enough : (word ++ ':' :: rest).length ≤ fuel) (first : Bool) :
    nameUnits fuel first (word ++ ':' :: rest) = (word.map Char.toNat, ':' :: rest) := by
  induction word generalizing fuel first with
  | nil =>
      cases fuel with
      | zero => simp at enough
      | succ fuel =>
          have ended : (if first then startsName ':' else continuesName ':') = false := by
            cases first <;> decide +kernel
          rw [List.nil_append, nameUnits, if_neg (by rw [ended]; exact Bool.false_ne_true)]
          simp
  | cons c word inductionHypothesis =>
      cases fuel with
      | zero => contradiction
      | succ fuel =>
          have letter := letters c List.mem_cons_self
          have inside : (if first then startsName c else continuesName c) = true := by
            cases first <;> simp [startsName, continuesName, letter]
          rw [List.cons_append, nameUnits, if_pos inside,
            inductionHypothesis (fun x member => letters x (List.mem_cons_of_mem c member))
              (by simpa using enough) false]
          rfl

/-- No letter is skipped. -/
theorem isBlank_letter {c : Char} (letter : c.isAlpha = true) : isBlank c = false :=
  (visible_mark (by simp [Compact.isMark, Char.isAlphanum, letter])).1

/-- A word of letters is read as a key. -/
theorem readsKey_word {word : String} (some : word.toList ≠ [])
    (letters : ∀ c ∈ word.toList, c.isAlpha = true) : ReadsKey word.toList word := by
  cases shape : word.toList with
  | nil => contradiction
  | cons c more =>
      rw [shape] at letters
      have letter := letters c List.mem_cons_self
      refine ⟨⟨c, more, rfl, isBlank_letter letter, ?_, ?_⟩, ?_⟩
      · rintro rfl
        contradiction
      · rintro rfl
        contradiction
      · intro rest
        have unquoted : (c :: more ++ ':' :: rest).head?.any isQuote = false := by
          simp only [List.cons_append, List.head?_cons, Option.any_some, isQuote,
            Bool.or_eq_false_iff, decide_eq_false_iff_not]
          constructor <;> rintro rfl <;> contradiction
        rw [key, if_neg (by rw [unquoted]; exact Bool.false_ne_true), name,
          nameUnits_word letters rest (Nat.le_refl _)]
        simp only [Text.Units.characters_toNat, ← shape, String.ofList_toList]
        rw [shape]
        rfl

theorem next_closing (rest : List Char) :
    dialect.next '\x7d' ('\x7d' :: rest) = .ok (false, rest) :=
  Dialect.next_closing (skip_visible (by decide) (by decide)) rest

/-- After a comma, another member begins. -/
theorem next_comma {text : List Char} (opens : Opens text) (rest : List Char) :
    dialect.next '\x7d' (',' :: (text ++ rest)) = .ok (true, text ++ rest) := by
  have next := opens.skip rest
  obtain ⟨c, more, rfl, -, -, other⟩ := opens
  exact Dialect.next_comma (by decide) other (skip_visible (by decide) (by decide) _) next

/-- A member is read up to what follows it. -/
theorem members_step {key item : List Char} {name : String} {found : Value}
    (named : ReadsKey key name) (read : Reads item found) {fuel : Nat}
    (enough : 2 * item.length < fuel) (rest : List Char) :
    dialect.members (fuel + 1) (key ++ ':' :: (item ++ rest)) =
      (dialect.next '\x7d' rest).bind fun next =>
        if next.1 then
          (dialect.members fuel next.2).map fun others => ((name, found) :: others.1, others.2)
        else .ok ([(name, found)], next.2) := by
  refine Dialect.members_step (named.key _) (skip_visible (by decide) (by decide) _) ?_
  rw [read.opens.skip rest]
  exact read.value fuel rest enough

namespace ReadsMembers

variable {written : List Char} {members : List (String × Value)}

theorem opens (read : ReadsMembers written members) : Opens written := by
  cases read with
  | last named _ | more named _ _ =>
      obtain ⟨c, more, rfl, visible⟩ := named.opens
      exact ⟨c, _, rfl, visible⟩

theorem members_eq (read : ReadsMembers written members) (fuel : Nat) (rest : List Char)
    (enough : 2 * written.length < fuel) :
    dialect.members fuel (written ++ '\x7d' :: rest) = .ok (members, rest) := by
  induction read generalizing fuel with
  | last named read =>
      cases fuel with
      | zero => contradiction
      | succ fuel =>
          simp only [List.length_append, List.length_cons] at enough
          rw [List.append_assoc, List.cons_append, members_step named read (by omega), next_closing]
          rfl
  | more named read later inductionHypothesis =>
      cases fuel with
      | zero => contradiction
      | succ fuel =>
          simp only [List.length_append, List.length_cons] at enough
          simp only [List.append_assoc, List.cons_append]
          rw [members_step named read (by omega), next_comma later.opens]
          simp only [Except.bind, if_true]
          rw [inductionHypothesis fuel (by omega)]
          rfl

/-- Members between braces are read as an object. -/
theorem reads (read : ReadsMembers written members) (distinct : (Mapping.keys members).Nodup) :
    Reads ('\x7b' :: written ++ ['\x7d']) (.object members) where
  opens := ⟨'\x7b', _, rfl, by decide, by decide, by decide⟩
  value := by
    intro fuel rest enough
    cases fuel with
    | zero => contradiction
    | succ fuel =>
        simp only [List.length_append, List.length_cons] at enough
        have inside := read.members_eq fuel rest (by omega)
        have kept := read.opens.skip ('\x7d' :: rest)
        obtain ⟨c, more, shape, -, -, other⟩ := read.opens
        rw [shape, List.cons_append] at inside kept
        rw [shape, List.append_assoc, List.cons_append, List.cons_append, List.singleton_append,
          Dialect.value_object kept other, inside]
        simp only [Except.map, Mapping.ofEntries_eq_self distinct]

end ReadsMembers

/-- A mapping in compact form is read back with its keys in their order. -/
theorem reads_strings {mapping : Mapping String String} (distinct : (Mapping.keys mapping).Nodup) :
    Reads (Compact.writeStrings mapping).toList (ofStrings mapping) := by
  rw [Compact.writeStrings, Compact.write, String.toList_ofList, ofStrings]
  constructor
  · cases mapping with
    | nil => exact ⟨'\x7b', _, rfl, by decide, by decide, by decide⟩
    | cons entry mapping => exact ⟨'\x7b', _, rfl, by decide, by decide, by decide⟩
  · intro fuel rest enough
    have read : Compact.ReadsBack dialect (fun _ => True)
        (.object (mapping.map fun entry => (entry.1, .string entry.2))) := by
      refine Compact.readsBack_object readsLexemes ?_ fun member known => ?_
      · simpa [Mapping.keys, Function.comp_def] using distinct
      · obtain ⟨entry, -, rfl⟩ := List.mem_map.mp known
        exact ⟨.string entry.2, Compact.readsBack_string readsLexemes entry.2⟩
    exact read fuel rest trivial enough

end Relaxed
end SvgComponent.Value
