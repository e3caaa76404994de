/-
This file shows which line ends of a markup stand in its module as they are: none but separators,
and these only where a value of an attribute or a declaration of a style has them.
-/

import SvgComponent.Proofs.Component.Assembly
import SvgComponent.Proofs.Component.Expression
import SvgComponent.Proofs.Markup.Representation

namespace SvgComponent

-- A property of all members of a list is decided by the members, not by all characters.
attribute [local instance (high)] List.decidableBAll

namespace Mapping

/-- A character stands in a key or a value of a mapping. -/
def Mentions (mapping : Mapping String String) (c : Char) : Prop :=
  ∃ entry ∈ mapping, c ∈ entry.1.toList ∨ c ∈ entry.2.toList

theorem mentions_cons (entry : String × String) (mapping : Mapping String String) (c : Char) :
    Mentions (entry :: mapping) c ↔
      (c ∈ entry.1.toList ∨ c ∈ entry.2.toList) ∨ Mentions mapping c := by
  simp [Mentions, or_and_right, exists_or]

end Mapping

namespace Markup.Head

/-- A head is read if it is made of a start tag whose attributes have names. -/
def IsRead (head : Head) : Prop :=
  ∃ tag attributes, head = ofAttributes tag attributes ∧
    ∀ entry ∈ attributes, IsAttribute entry.1

/-- A character stands in a declaration of the style. -/
def Declares (head : Head) (c : Char) : Prop :=
  ∃ text, head.attributes.valueAt? "style" = some text ∧ (Style.parse text).Mentions c

/-- A character stands in the value of an attribute that is neither the class nor the style. -/
def Lists (head : Head) (c : Char) : Prop :=
  ∃ entry ∈ head.attributes, isListed entry.1 = true ∧ c ∈ entry.2.toList

/-- A character stands in the style or in an attribute of an element other than its class. -/
def Shows (head : Head) (c : Char) : Prop :=
  head.Declares c ∨ head.Lists c

end Markup.Head

namespace Component

open Markup
open Value (Compact.escape Compact.stringText Compact.writeString Compact.writeStrings)

/-- The characters that end a line of a script. -/
def lineEnds : List Char :=
  ['\n', '\r', '\u2028', '\u2029']

/-- The line ends that are no control characters. -/
def separators : List Char :=
  ['\u2028', '\u2029']

/-- Whatever is escaped in a single-quoted literal leaves no line end. -/
theorem escape_notMem (x : Char) : ∀ y ∈ Literal.escape x, y ∉ lineEnds := by
  unfold Literal.escape
  split_ifs with backslash quote lineFeed carriageReturn line paragraph
  · decide
  · decide
  · decide
  · decide
  · decide
  · decide
  · simp [lineEnds, lineFeed, carriageReturn, line, paragraph]

/-- In a double-quoted literal a character is escaped without line ends, or it stands for itself and
is no line end but a separator. -/
theorem escape_cases (x : Char) :
    (x ∉ separators ∧ ∀ y ∈ Compact.escape x, y ∉ lineEnds) ∨
      (Compact.escape x = [x] ∧ (x ∈ lineEnds → x ∈ separators)) := by
  unfold Compact.escape
  -- The separators come to the last case, since they are neither special nor control characters.
  split_ifs with quote backslash backspace tab lineFeed formFeed carriageReturn control
  · exact .inl ⟨by simp [quote, separators], by decide⟩
  · exact .inl ⟨by simp [backslash, separators], by decide⟩
  · exact .inl ⟨by simp [backspace, separators], by decide⟩
  · exact .inl ⟨by simp [tab, separators], by decide⟩
  · exact .inl ⟨by simp [lineFeed, separators], by decide⟩
  · exact .inl ⟨by simp [formFeed, separators], by decide⟩
  · exact .inl ⟨by simp [carriageReturn, separators], by decide⟩
  · have other : ∀ y ∈ separators, ¬ y.toNat < 0x20 := by decide
    refine .inl ⟨fun member => other x member control, ?_⟩
    have front : ∀ y ∈ ['\\', 'u'], y ∉ lineEnds := by decide
    have plain : ∀ y ∈ "0123456789abcdef".toList, y ∉ lineEnds := by decide
    exact List.forall_mem_append.mpr ⟨front, fun y member =>
      plain y (Check.hexadecimal_control x.toNat control y member)⟩
  · exact .inr ⟨rfl, by simp [lineEnds, separators, lineFeed, carriageReturn]⟩

section Literals

variable {c : Char} (ends : c ∈ lineEnds)
include ends

theorem notMem_template {text : String} (plain : ∀ x ∈ text.toList, isTemplate x = true) :
    c ∉ text.toList := by
  intro member
  have other : ∀ x ∈ lineEnds, isTemplate x = false := by decide
  have template := plain c member
  rw [other c ends] at template
  contradiction

/-- A single-quoted literal has no line ends. -/
theorem notMem_literal (content : String) : c ∉ (Literal.write content).toList := by
  have quote : c ≠ '\'' := ne_of_mem_of_not_mem ends (by decide)
  rw [Literal.write, String.toList_ofList]
  simp only [List.cons_append, List.mem_cons, List.mem_append, List.mem_flatMap, List.not_mem_nil,
    quote, or_false, false_or, not_exists, not_and]
  exact fun x _ member => escape_notMem x c member ends

/-- A double-quoted literal has the separators of its content and no other line ends. -/
theorem mem_stringText_iff (content : String) :
    c ∈ Compact.stringText content ↔ c ∈ separators ∧ c ∈ content.toList := by
  have quote : c ≠ '"' := ne_of_mem_of_not_mem ends (by decide)
  have each (x : Char) : c ∈ Compact.escape x ↔ c ∈ separators ∧ c = x := by
    rcases escape_cases x with ⟨other, escaped⟩ | ⟨plain, kept⟩
    · refine iff_of_false (fun member => escaped c member ends) ?_
      rintro ⟨member, rfl⟩
      exact other member
    · rw [plain, List.mem_singleton]
      constructor
      · rintro rfl
        exact ⟨kept ends, rfl⟩
      · exact And.right
  simp only [Compact.stringText, List.cons_append, List.mem_cons, List.mem_append,
    List.mem_flatMap, List.not_mem_nil, quote, or_false, false_or, each]
  constructor
  · rintro ⟨x, member, separator, rfl⟩
    exact ⟨separator, member⟩
  · rintro ⟨separator, member⟩
    exact ⟨c, member, separator, rfl⟩

theorem mem_membersText_iff (mapping : Mapping String String) :
    c ∈ Value.Compact.membersText (mapping.map fun entry => (entry.1, .string entry.2)) ↔
      c ∈ separators ∧ mapping.Mentions c := by
  have comma : c ≠ ',' := ne_of_mem_of_not_mem ends (by decide)
  have colon : c ≠ ':' := ne_of_mem_of_not_mem ends (by decide)
  induction mapping with
  | nil => simp [Value.Compact.membersText, Mapping.Mentions]
  | cons entry mapping inductionHypothesis =>
      simp only [List.map_cons, Value.Compact.membersText, Value.Compact.text, List.cons_append,
        List.mem_cons, List.mem_append, comma, colon, false_or, mem_stringText_iff ends,
        inductionHypothesis, Mapping.mentions_cons, and_or_left]

/-- A mapping is written with the separators of its keys and values and no other line ends. -/
theorem mem_writeStrings_iff (mapping : Mapping String String) :
    c ∈ (Compact.writeStrings mapping).toList ↔ c ∈ separators ∧ mapping.Mentions c := by
  have marks : c ∉ ['\x7b', ':', '\x7d'] := fun member =>
    (by decide : ∀ x ∈ ['\x7b', ':', '\x7d'], x ∉ lineEnds) c member ends
  simp only [List.mem_cons, List.not_mem_nil, or_false, not_or] at marks
  rw [Compact.writeStrings, Value.Compact.write, String.toList_ofList]
  cases mapping with
  | nil => simp [Value.Compact.text, Mapping.Mentions, marks]
  | cons entry mapping =>
      simp only [List.map_cons, Value.Compact.text, List.cons_append, List.mem_cons,
        List.mem_append, List.not_mem_nil, marks, false_or, or_false, mem_stringText_iff ends,
        mem_membersText_iff ends, Mapping.mentions_cons, and_or_left]

theorem mem_writeString_iff (content : String) :
    c ∈ (Compact.writeString content).toList ↔ c ∈ separators ∧ c ∈ content.toList := by
  rw [Compact.writeString, Value.Compact.write, String.toList_ofList]
  exact mem_stringText_iff ends content

/-- Commas between texts are no line ends. -/
theorem mem_intercalate_iff (texts : List String) :
    c ∈ (String.intercalate "," texts).toList ↔ ∃ text ∈ texts, c ∈ text.toList := by
  have comma : c ≠ ',' := ne_of_mem_of_not_mem ends (by decide)
  induction texts with
  | nil => simp
  | cons text texts inductionHypothesis =>
      cases texts with
      | nil => simp
      | cons next others =>
          simp only [String.intercalate_cons_cons, String.toList_append, List.mem_append,
            inductionHypothesis, List.exists_mem_cons_iff]
          simp [comma]

theorem mem_between_iff {before after : String}
    (opening : ∀ x ∈ before.toList, isTemplate x = true)
    (closing : ∀ x ∈ after.toList, isTemplate x = true) (text : String) :
    c ∈ (before ++ text ++ after).toList ↔ c ∈ text.toList := by
  simp only [String.toList_append, List.mem_append, notMem_template ends opening,
    notMem_template ends closing, false_or, or_false]

theorem mem_call_iff {function : String} (named : ∀ x ∈ function.toList, isTemplate x = true)
    (texts : List String) :
    c ∈ (call function texts).toList ↔ ∃ text ∈ texts, c ∈ text.toList := by
  have opening : ∀ x ∈ (function ++ "(").toList, isTemplate x = true := by
    rw [String.toList_append]
    exact List.forall_mem_append.mpr ⟨named, by decide⟩
  rw [call, mem_between_iff ends opening (by decide), mem_intercalate_iff ends]

theorem mem_array_iff (texts : List String) :
    c ∈ (array texts).toList ↔ ∃ text ∈ texts, c ∈ text.toList := by
  rw [array, mem_between_iff ends (by decide) (by decide), mem_intercalate_iff ends]

/-- A text that is left out is empty. -/
theorem mem_joinPresent_iff (items : List (Option String)) :
    c ∈ (joinPresent items).toList ↔ ∃ text, some text ∈ items ∧ c ∈ text.toList := by
  rw [joinPresent, mem_intercalate_iff ends]
  simp only [List.mem_filterMap, Option.filter_eq_some_iff]
  constructor
  · rintro ⟨text, ⟨item, member, rfl, -⟩, inside⟩
    exact ⟨text, member, inside⟩
  · rintro ⟨text, member, inside⟩
    refine ⟨text, ⟨some text, member, rfl, ?_⟩, inside⟩
    rw [decide_eq_true_iff]
    rintro rfl
    contradiction

/-- A field has the line ends of its literal. -/
theorem mem_field_iff {name : String} (named : ∀ x ∈ name.toList, isTemplate x = true)
    (literal : Option String) :
    (∃ field, field? name literal = some field ∧ c ∈ field.toList) ↔
      ∃ text, literal = some text ∧ c ∈ text.toList := by
  cases literal with
  | none => simp [field?]
  | some text =>
      by_cases empty : text = ""
      · subst empty
        simp [field?]
      · have opening : ∀ x ∈ (name ++ ":").toList, isTemplate x = true := by
          rw [String.toList_append]
          exact List.forall_mem_append.mpr ⟨named, by decide⟩
        have plain := notMem_template ends opening
        rw [field?_some name empty]
        simp only [Option.some.injEq, exists_eq_left']
        rw [String.toList_append, List.mem_append, or_iff_right plain]

/-- A class has no line ends, since blank characters become spaces in it. -/
theorem notMem_classText (text : String) : c ∉ (classText text).toList := by
  intro member
  have blank : ∀ x ∈ lineEnds, Text.isBlank x = true ∧ x ≠ ' ' := by decide
  rw [classText, String.toList_ofList] at member
  have condensed := Text.trim_subset _ member
  exact (blank c ends).2 (Text.eq_space_of_mem_condense condensed (blank c ends).1)

/-- A name of an attribute has no line ends. -/
theorem notMem_name {name : String} (named : IsAttribute name) : c ∉ name.toList := by
  intro member
  have blank : ∀ x ∈ lineEnds, Tag.isAttributeName x = false := by decide
  have allowed := named.2 c member
  rw [blank c ends] at allowed
  contradiction

/-- The class of an element has no line ends. -/
theorem notMem_staticClass {head : Head} (read : head.IsRead) :
    ¬ ∃ text, head.staticClass = some text ∧ c ∈ text.toList := by
  obtain ⟨tag, attributes, rfl, -⟩ := read
  rintro ⟨text, present, inside⟩
  rw [(ofAttributes_literals tag attributes).1, Option.map_map] at present
  obtain ⟨content, -, rfl⟩ := Option.map_eq_some_iff.mp present
  rw [Function.comp_apply, mem_writeString_iff ends] at inside
  exact notMem_classText ends content inside.2

/-- The style of an element has the separators of its declarations. -/
theorem mem_staticStyle_iff {head : Head} (read : head.IsRead) :
    (∃ text, head.staticStyle = some text ∧ c ∈ text.toList) ↔
      c ∈ separators ∧ head.Declares c := by
  obtain ⟨tag, attributes, rfl, -⟩ := read
  have empty : ¬ (Style.parse "").Mentions c := by
    rintro ⟨entry, member, -⟩
    contradiction
  rw [(ofAttributes_literals tag attributes).2, Head.Declares]
  change _ ↔ _ ∧ ∃ text, (Mapping.ofEntries attributes).valueAt? "style" = some text ∧ _
  cases (Mapping.ofEntries attributes).valueAt? "style" with
  | none => simp [nonempty?]
  | some text =>
      by_cases missing : text = ""
      · subst missing
        simp [nonempty?, empty]
      · simp [nonempty?, missing, mem_writeStrings_iff ends]

/-- Of the attributes that are read, only the values have line ends. -/
theorem mentions_filter_iff {head : Head} (read : head.IsRead) (kept : String → Bool) :
    Mapping.Mentions (head.attributes.filter fun entry => kept entry.1) c ↔
      ∃ entry ∈ head.attributes, kept entry.1 = true ∧ c ∈ entry.2.toList := by
  obtain ⟨tag, attributes, rfl, named⟩ := read
  constructor
  · rintro ⟨entry, member, inside⟩
    obtain ⟨known, listed⟩ := List.mem_filter.mp member
    have name := notMem_name ends (named entry (Mapping.mem_of_mem_ofEntries known))
    exact ⟨entry, known, listed, inside.resolve_left name⟩
  · rintro ⟨entry, known, listed, inside⟩
    exact ⟨entry, List.mem_filter.mpr ⟨known, listed⟩, .inr inside⟩

/-- The attributes that are written have the separators of their values. -/
theorem mem_writtenAttributes_iff {head : Head} (read : head.IsRead) :
    (∃ text, (writtenAttributes head).map Compact.writeStrings = some text ∧ c ∈ text.toList) ↔
      c ∈ separators ∧ head.Lists c := by
  have entries : Mapping.ofEntries head.entries =
      head.attributes.filter fun entry => isListed entry.1 := by
    obtain ⟨tag, attributes, rfl, -⟩ := read
    exact Mapping.ofEntries_filter isListed attributes
  rw [Head.Lists, ← mentions_filter_iff ends read isListed, ← entries, ← writtenAttributes_getD]
  cases writtenAttributes head with
  | none => simp [Mapping.Mentions]
  | some mapping => simp [mem_writeStrings_iff ends]

/-- The fields of an element have the separators of its declarations and of the attributes that are
listed. -/
theorem mem_fields_iff {head : Head} (read : head.IsRead) :
    (∃ field ∈ fields head, c ∈ field.toList) ↔
      c ∈ separators ∧ head.Shows c := by
  rw [fields_eq]
  simp only [List.mem_append, Option.mem_toList, or_and_right, exists_or]
  rw [mem_field_iff ends (by decide), mem_field_iff ends (by decide),
    mem_field_iff ends (by decide), or_iff_right (notMem_staticClass ends read),
    mem_staticStyle_iff ends read, mem_writtenAttributes_iff ends read, Head.Shows, and_or_left]

theorem mem_data_iff {head : Head} (read : head.IsRead) :
    (∃ text, data? head = some text ∧ c ∈ text.toList) ↔
      c ∈ separators ∧ head.Shows c := by
  have unwritten (none : head.attributes = []) : fields head = [] := by
    obtain ⟨tag, attributes, rfl, -⟩ := read
    obtain rfl := Mapping.ofEntries_eq_nil none
    rfl
  -- Data is left out without attributes or without fields, and the fields alone decide about it.
  rw [← mem_fields_iff ends read]
  cases written : fields head with
  | nil => simp [data?, written]
  | cons field others =>
      have attributed : head.attributes ≠ [] := by
        intro none
        rw [unwritten none] at written
        contradiction
      rw [data?, written, if_neg (by simpa using attributed)]
      simp only [Option.some.injEq, exists_eq_left']
      rw [mem_between_iff ends (by decide) (by decide), mem_intercalate_iff ends]

theorem mem_childrenArgument_iff (texts : List String) :
    (∃ text ∈ childrenArgument texts, c ∈ text.toList) ↔ ∃ text ∈ texts, c ∈ text.toList := by
  cases texts with
  | nil => simp [childrenArgument]
  | cons text texts => simp [childrenArgument, mem_array_iff ends]

end Literals

mutual

/-- The expression of a node has the separators of the declarations and the values of attributes
anywhere in it, and no other line ends. -/
theorem mem_expression_iff {c : Char} (ends : c ∈ lineEnds) : (node : Node) →
    (∀ head ∈ node.heads, head.IsRead) → ∀ text, expression? node = some text →
      (c ∈ text.toList ↔ c ∈ separators ∧ ∃ head ∈ node.heads, head.Shows c)
  | .text content, _, text, found => by
      obtain rfl := Option.some.inj found
      have nothing : ¬ ∃ head ∈ (Node.text content).heads, head.Shows c := nofun
      rw [mem_call_iff ends (by decide)]
      simp [notMem_literal ends, nothing]
  | .bare, _, _, found => nomatch found
  | .element head children, read, text, found => by
      rw [Node.heads_element, List.forall_mem_cons] at read
      obtain ⟨here, inside⟩ := read
      rw [expression?_element] at found
      obtain ⟨texts, written, rfl⟩ := Option.map_eq_some_iff.mp found
      have below := mem_expressions_iff ends children inside texts written
      have data := mem_data_iff ends here
      rw [mem_call_iff ends (by decide), Node.heads_element]
      simp only [List.mem_cons, List.mem_append, Option.mem_toList, or_and_right,
        exists_or, exists_eq_left, notMem_literal ends, false_or]
      rw [data, mem_childrenArgument_iff ends, below, and_or_left]

theorem mem_expressions_iff {c : Char} (ends : c ∈ lineEnds) : (nodes : List Node) →
    (∀ head ∈ Node.headsOf nodes, head.IsRead) → ∀ texts, expressions? nodes = some texts →
      ((∃ text ∈ texts, c ∈ text.toList) ↔
        c ∈ separators ∧ ∃ head ∈ Node.headsOf nodes, head.Shows c)
  | [], _, texts, found => by
      obtain rfl := Option.some.inj found
      have nothing : ¬ ∃ head ∈ Node.headsOf [], head.Shows c := nofun
      simp [nothing]
  | node :: nodes, read, texts, found => by
      rw [Node.headsOf_cons, List.forall_mem_append] at read
      obtain ⟨here, inside⟩ := read
      obtain ⟨first, written, others⟩ := Option.bind_eq_some_iff.mp found
      obtain ⟨rest, remaining, whole⟩ := Option.bind_eq_some_iff.mp others
      obtain rfl := Option.some.inj whole
      have front := mem_expression_iff ends node here first written
      have back := mem_expressions_iff ends nodes inside rest remaining
      rw [List.exists_mem_cons_iff, front, back, Node.headsOf_cons]
      simp only [List.mem_append, or_and_right, exists_or, and_or_left]

end

section Fragments

variable {c : Char} (ends : c ∈ lineEnds)
include ends

/-- Of joined texts only the first has line ends if the others are names. -/
theorem mem_joined_iff (names : List String)
    (named : ∀ name ∈ names, ∀ x ∈ name.toList, isTemplate x = true) (item : Option String) :
    c ∈ (joinPresent (item :: names.map some)).toList ↔
      ∃ text, item = some text ∧ c ∈ text.toList := by
  rw [mem_joinPresent_iff ends]
  constructor
  · rintro ⟨text, member, inside⟩
    rcases List.mem_cons.mp member with present | later
    · exact ⟨text, present.symm, inside⟩
    · obtain ⟨name, known, same⟩ := List.mem_map.mp later
      obtain rfl := Option.some.inj same
      exact absurd inside (notMem_template ends (named name known))
  · rintro ⟨text, present, inside⟩
    exact ⟨text, List.mem_cons.mpr (.inl present.symm), inside⟩

theorem notMem_classes {head : Head} (read : head.IsRead) :
    c ∉ (joinPresent [head.staticClass, some "classNames", some "staticClass"]).toList := by
  have joined := mem_joined_iff ends ["classNames", "staticClass"] (by decide) head.staticClass
  exact joined.not.mpr (notMem_staticClass ends read)

theorem mem_styles_iff {head : Head} (read : head.IsRead) :
    c ∈ (joinPresent [head.staticStyle, some "style", some "staticStyle"]).toList ↔
      c ∈ separators ∧ head.Declares c := by
  have joined := mem_joined_iff ends ["style", "staticStyle"] (by decide) head.staticStyle
  exact joined.trans (mem_staticStyle_iff ends read)

theorem mem_attributes_iff {head : Head} (read : head.IsRead) :
    c ∈ (attributesFragment head).toList ↔
      c ∈ separators ∧ ∃ entry ∈ head.attributes, entry.1 ≠ "class" ∧ c ∈ entry.2.toList := by
  have plain : c ∉ "attrs".toList := notMem_template ends (by decide)
  have mentions := mentions_filter_iff ends read fun name => name ≠ "class"
  simp only [decide_eq_true_iff] at mentions
  rw [attributesFragment, Mapping.without, ← mentions]
  split
  · case _ empty =>
      have nothing : ¬ Mapping.Mentions
          (head.attributes.filter fun entry => entry.1 ≠ "class") c := by
        rw [List.isEmpty_iff.mp empty]
        rintro ⟨entry, member, -⟩
        contradiction
      exact iff_of_false plain fun both => nothing both.2
  · rw [mem_between_iff ends (by decide) (by decide), mem_writeStrings_iff ends]

theorem mem_childrenFragment_iff {children : List Node}
    (read : ∀ head ∈ Node.headsOf children, head.IsRead) {text : String}
    (found : childrenFragment? children = some text) :
    c ∈ text.toList ↔ c ∈ separators ∧ ∃ head ∈ Node.headsOf children, head.Shows c := by
  have plain : c ∉ "children".toList := notMem_template ends (by decide)
  rw [childrenFragment?] at found
  split at found
  · case _ empty =>
      obtain rfl := Option.some.inj found
      obtain rfl := List.isEmpty_iff.mp empty
      have nothing : ¬ ∃ head ∈ Node.headsOf [], head.Shows c := nofun
      exact iff_of_false plain fun both => nothing both.2
  · obtain ⟨inner, whole, rfl⟩ := Option.map_eq_some_iff.mp found
    obtain ⟨texts, written, rfl⟩ := Option.map_eq_some_iff.mp whole
    rw [mem_between_iff ends (by decide) (by decide), mem_array_iff ends,
      mem_expressions_iff ends children read texts written]

end Fragments

/-- All heads of a compiled tree are read. -/
theorem isRead_of_compile {preserve : Bool} {markup : String} {root : Element}
    (compiled : compile preserve markup = .ok root) :
    ∀ head ∈ root.toNode.heads, head.IsRead := by
  rw [heads_of_compile compiled]
  intro head member
  obtain ⟨start, begun, rfl⟩ := List.mem_map.mp member
  exact ⟨start.1, start.2, rfl, (named_of_mem_starts begun).2⟩

/-- Of the characters that end a line, the fragments of a compiled root have none but separators as
they are. The class has none of them. The style has those of its declarations, the attributes have
those of their values, and the children have those of both, wherever they stand in the tree. Tags,
texts and names of attributes have none. -/
theorem fragments_line_ends {preserve : Bool} {markup : String} {root : Element}
    (compiled : compile preserve markup = .ok root) :
    ∃ fragments, Fragments.ofElement? root = some fragments ∧ ∀ c ∈ lineEnds,
      c ∉ fragments.classes.toList ∧
      (c ∈ fragments.styles.toList ↔ c ∈ separators ∧ root.head.Declares c) ∧
      (c ∈ fragments.attributes.toList ↔ c ∈ separators ∧
        ∃ entry ∈ root.head.attributes, entry.1 ≠ "class" ∧ c ∈ entry.2.toList) ∧
      (c ∈ fragments.children.toList ↔ c ∈ separators ∧
        ∃ head ∈ Node.headsOf root.children, head.Shows c) := by
  obtain ⟨tag, attributes, named, inside⟩ := compile_compiled compiled
  obtain ⟨source, written, -⟩ := source?_empties named inside
  obtain ⟨fragments, found, -⟩ := Option.map_eq_some_iff.mp written
  have read := isRead_of_compile compiled
  rw [Element.toNode, Node.heads_element, List.forall_mem_cons] at read
  refine ⟨fragments, found, fun c ends => ?_⟩
  obtain ⟨children, below, whole⟩ := Option.bind_eq_some_iff.mp found
  obtain rfl := Option.some.inj whole
  exact ⟨notMem_classes ends read.1, mem_styles_iff ends read.1, mem_attributes_iff ends read.1,
    mem_childrenFragment_iff ends read.2 below⟩

/-- Separators in a class, a style, a value and a text. -/
theorem fragments_line_ends_separators :
    let image := Element.mk
      (Head.ofAttributes "svg" [("a", "\u2028"), ("class", "b\u2029c"), ("style", "d:e\u2028f")])
      [.element (Head.ofAttributes "g" [("h", "\u2029")]) [], .text "i\u2028"]
    compile false ("<svg a='\u2028' class='b\u2029c' style='d:e\u2028f'>" ++
        "<g h='\u2029'/>i\u2028</svg>") = .ok image ∧
      ∃ fragments, Fragments.ofElement? image = some fragments ∧ ∀ c ∈ lineEnds,
        c ∉ fragments.classes.toList ∧
        (c ∈ fragments.styles.toList ↔ c ∈ separators ∧ image.head.Declares c) ∧
        (c ∈ fragments.attributes.toList ↔ c ∈ separators ∧
          ∃ entry ∈ image.head.attributes, entry.1 ≠ "class" ∧ c ∈ entry.2.toList) ∧
        (c ∈ fragments.children.toList ↔ c ∈ separators ∧
          ∃ head ∈ Node.headsOf image.children, head.Shows c) := by
  intro image
  have compiled : compile false ("<svg a='\u2028' class='b\u2029c' style='d:e\u2028f'>" ++
      "<g h='\u2029'/>i\u2028</svg>") = .ok image := rfl
  exact ⟨compiled, fragments_line_ends compiled⟩

end Component
end SvgComponent
