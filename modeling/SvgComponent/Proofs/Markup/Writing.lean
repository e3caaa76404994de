/-
This file states the ways in which a tree of elements and texts can be written as markup.
-/

import SvgComponent.Markup.Compile
import SvgComponent.Proofs.Markup.CharacterReference

namespace SvgComponent.Markup

open Text

/-- A tree says what is to be written: the tags and attributes of its elements, and its texts. -/
inductive Tree where
  | text (content : String)
  | element (tag : String) (attributes : List (String × String)) (children : List Tree)

namespace Tree

def isElement : Tree → Bool
  | text _ => false
  | element _ _ _ => true

mutual

/-- The node that a tree is compiled to. -/
def node : Tree → Node
  | text content => .text content
  | element tag attributes children => .element (Head.ofAttributes tag attributes) (nodes children)

def nodes : List Tree → List Node
  | [] => []
  | tree :: trees => tree.node :: nodes trees

end

end Tree

/-- A tag is a name of an element that is not dropped. -/
def IsTag (tag : String) : Prop :=
  (∃ c rest, tag.toList = c :: rest ∧ Tag.isNameStart c = true ∧
    ∀ x ∈ rest, Tag.isNameCharacter x = true) ∧
  Token.isDropped tag.toList = false

/-- An attribute name has at least one character. -/
def IsAttribute (name : String) : Prop :=
  name.toList ≠ [] ∧ ∀ c ∈ name.toList, Tag.isAttributeName c = true

/-- Siblings can be written if their names can be read, their texts are not blank and no two texts
follow each other. -/
inductive AreWritable : List Tree → Prop
  | nil : AreWritable []
  | text {content : String} {others : List Tree} (visible : isBlankText content.toList = false)
      (apart : ∀ tree, others.head? = some tree → tree.isElement = true)
      (writable : AreWritable others) : AreWritable (.text content :: others)
  | element {tag : String} {attributes : List (String × String)} {children others : List Tree}
      (named : IsTag tag) (attributed : ∀ entry ∈ attributes, IsAttribute entry.1)
      (inside : AreWritable children) (writable : AreWritable others) :
      AreWritable (.element tag attributes children :: others)

/-- A text is escaped if the special characters are replaced by references. -/
inductive Escaped (special : List Char) : List Char → List Char → Prop
  | nil : Escaped special [] []
  | plain {c : Char} {text raw : List Char} (ordinary : c ∉ special)
      (others : Escaped special text raw) : Escaped special (c :: text) (c :: raw)
  | reference {c : Char} {reference text raw : List Char}
      (stands : CharacterReference.StandsFor reference c) (others : Escaped special text raw) :
      Escaped special (c :: text) (reference ++ raw)

/-- The attributes of a start tag, each with blank text before it and its value in either quotes.
Blank text may stand around the equals sign. The values are listed as they are escaped. -/
inductive WrittenAttributes : List (String × String) → List (List Char) → List Char → Prop
  | nil : WrittenAttributes [] [] []
  | cons (name value : String) {before left right raw rest : List Char} {quote : Char}
      {others : List (String × String)} {values : List (List Char)} (spaced : before ≠ [])
      (blank : isBlankText before = true) (blankLeft : isBlankText left = true)
      (blankRight : isBlankText right = true) (quoted : quote = '"' ∨ quote = '\'')
      (escaped : Escaped ['&', '<', quote] value.toList raw)
      (written : WrittenAttributes others values rest) :
      WrittenAttributes ((name, value) :: others) (raw :: values)
        (before ++ name.toList ++ left ++ ['='] ++ right ++ [quote] ++ raw ++ [quote] ++ rest)

/-- The markup of siblings. Every element may be written as a pair of tags, and one without children
as a single tag. The texts and the values of attributes are listed as they are escaped. -/
inductive Written : List Tree → (texts values : List (List Char)) → List Char → Prop
  | nil : Written [] [] [] []
  | text {content : String} {raw rest : List Char} {others : List Tree}
      {texts values : List (List Char)} (escaped : Escaped ['&', '<'] content.toList raw)
      (written : Written others texts values rest) :
      Written (.text content :: others) (raw :: texts) values (raw ++ rest)
  | selfClosed (tag : String) {attributes : List (String × String)}
      {inner spaces rest : List Char} {others : List Tree} {texts values own : List (List Char)}
      (attributed : WrittenAttributes attributes own inner) (blank : isBlankText spaces = true)
      (written : Written others texts values rest) :
      Written (.element tag attributes [] :: others) texts (own ++ values)
        (['<'] ++ tag.toList ++ inner ++ spaces ++ ['/', '>'] ++ rest)
  | pair (tag : String) {attributes : List (String × String)} {children others : List Tree}
      {inner spaces content closing rest : List Char}
      {texts values own innerTexts innerValues : List (List Char)}
      (attributed : WrittenAttributes attributes own inner) (blank : isBlankText spaces = true)
      (inside : Written children innerTexts innerValues content)
      (blankClosing : isBlankText closing = true) (written : Written others texts values rest) :
      Written (.element tag attributes children :: others) (innerTexts ++ texts)
        (own ++ innerValues ++ values)
        (['<'] ++ tag.toList ++ inner ++ spaces ++ ['>'] ++ content ++
          ['<', '/'] ++ tag.toList ++ closing ++ ['>'] ++ rest)

/-- The attributes of a start tag have these values between quotes, escaped or not. -/
inductive QuotedAttributes : List (List Char) → List Char → Prop
  | nil : QuotedAttributes [] []
  | cons {name : String} {before left right raw rest : List Char} {quote : Char}
      {others : List (List Char)} (named : IsAttribute name) (blank : isBlankText before = true)
      (blankLeft : isBlankText left = true) (blankRight : isBlankText right = true)
      (quoted : quote = '"' ∨ quote = '\'') (absent : quote ∉ raw)
      (attributed : QuotedAttributes others rest) :
      QuotedAttributes (raw :: others)
        (before ++ name.toList ++ left ++ ['='] ++ right ++ [quote] ++ raw ++ [quote] ++ rest)

/-- A numeral in one of the raw texts has too many digits. -/
def AnyOversized (raws : List (List Char)) : Prop :=
  ∃ raw ∈ raws, CharacterReference.HasOversizedNumeral raw

theorem not_anyOversized_nil : ¬ AnyOversized [] := by
  rintro ⟨raw, member, -⟩
  contradiction

theorem anyOversized_cons (raw : List Char) (raws : List (List Char)) :
    AnyOversized (raw :: raws) ↔
      CharacterReference.decode? raw = none ∨ AnyOversized raws := by
  rw [AnyOversized, List.exists_mem_cons_iff, CharacterReference.decode?_eq_none_iff]
  rfl

theorem anyOversized_append (first second : List (List Char)) :
    AnyOversized (first ++ second) ↔ AnyOversized first ∨ AnyOversized second := by
  simp only [AnyOversized, List.mem_append, or_and_right, exists_or]

namespace Escaped

/-- An escaped text decodes to the text or not at all. -/
theorem decode?_cases {special text raw : List Char} (escaped : Escaped special text raw)
    (ampersand : '&' ∈ special) :
    CharacterReference.decode? raw = some text ∨ CharacterReference.decode? raw = none := by
  induction escaped with
  | nil => exact .inl rfl
  | plain ordinary _ inductionHypothesis =>
      have other := ne_of_mem_of_not_mem ampersand ordinary
      rw [CharacterReference.decode?_visible _ (Ne.symm other)]
      rcases inductionHypothesis with decoded | undecoded
      · simp [decoded]
      · simp [undecoded]
  | @reference _ _ _ raw stands _ inductionHypothesis =>
      rcases CharacterReference.decode?_standsFor stands raw with reading | oversized
      · rw [reading]
        rcases inductionHypothesis with decoded | undecoded
        · simp [decoded]
        · simp [undecoded]
      · exact .inr oversized

/-- An escaped text that can be decoded decodes to the text. -/
theorem decode? {special text raw : List Char} (escaped : Escaped special text raw)
    (ampersand : '&' ∈ special) (readable : CharacterReference.decode? raw ≠ none) :
    CharacterReference.decode? raw = some text :=
  (escaped.decode?_cases ampersand).resolve_right readable

/-- Neither an angle bracket nor the quote in use stands in an escaped text. -/
theorem notMem {special text raw : List Char} (escaped : Escaped special text raw) {x : Char}
    (known : x ∈ special) (mark : x ∈ ['<', '"', '\'']) : x ∉ raw := by
  induction escaped with
  | nil => exact List.not_mem_nil
  | plain ordinary _ inductionHypothesis =>
      rw [List.mem_cons, not_or]
      exact ⟨ne_of_mem_of_not_mem known ordinary, inductionHypothesis⟩
  | reference stands _ inductionHypothesis =>
      rw [List.mem_append, not_or]
      exact ⟨CharacterReference.notMem_standsFor stands mark, inductionHypothesis⟩

/-- The quote around a value does not stand in it. -/
theorem quote_notMem {quote : Char} {text raw : List Char}
    (escaped : Escaped ['&', '<', quote] text raw) (quoted : quote = '"' ∨ quote = '\'') :
    quote ∉ raw := by
  apply escaped.notMem
  · simp
  · rcases quoted with rfl | rfl <;> decide

/-- An escaped text is blank exactly if the text is. -/
theorem isBlankText {special text raw : List Char} (escaped : Escaped special text raw) :
    Text.isBlankText raw = Text.isBlankText text := by
  induction escaped with
  | nil => rfl
  | plain _ _ inductionHypothesis =>
      simpa only [Text.isBlankText, List.all_cons] using congrArg _ inductionHypothesis
  | reference stands _ _ =>
      obtain ⟨visible, marked⟩ := CharacterReference.standsFor_visible stands
      rw [Text.isBlankText] at marked
      rw [Text.isBlankText, Text.isBlankText, List.all_append, marked, List.all_cons, visible]
      rfl

end Escaped

/-- Written attributes have their escaped values between quotes. -/
theorem WrittenAttributes.quoted {attributes : List (String × String)} {values : List (List Char)}
    {inner : List Char} (written : WrittenAttributes attributes values inner)
    (named : ∀ entry ∈ attributes, IsAttribute entry.1) : QuotedAttributes values inner := by
  induction written with
  | nil => exact .nil
  | cons name value spaced blank blankLeft blankRight quoted escaped _ inductionHypothesis =>
      obtain ⟨valid, others⟩ := List.forall_mem_cons.mp named
      exact .cons valid blank blankLeft blankRight quoted (escaped.quote_notMem quoted)
        (inductionHypothesis others)

end SvgComponent.Markup
