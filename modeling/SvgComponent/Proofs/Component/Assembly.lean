/-
This file shows that every module of a compiled tree is put together from literals and from the
text of the template.
-/

import SvgComponent.Proofs.Component.Module

namespace SvgComponent.Component

open Markup

-- A property of all members of a list is decided by the members, not by all characters.
attribute [local instance (high)] List.decidableBAll

/-- The template is printable ASCII and has no quotes or backslashes of its own. -/
def isTemplate (c : Char) : Bool :=
  0x20 ≤ c.toNat && c.toNat < 0x7F && !Check.isQuote c && c != '\\'

/-- A text is assembled from text of the template and from literals of either kind. -/
inductive IsAssembled : String → Prop
  | template {text : String} (plain : ∀ c ∈ text.toList, isTemplate c = true) : IsAssembled text
  | literal (content : String) : IsAssembled (Literal.write content)
  | string (content : String) : IsAssembled (Value.Compact.writeString content)
  | append {first second : String} (front : IsAssembled first) (back : IsAssembled second) :
      IsAssembled (first ++ second)

namespace IsAssembled

/-- Commas are text of the template. -/
theorem isJoined : IsJoined IsAssembled :=
  ⟨template (by decide), template (by decide), append⟩

/-- Text of the template may stand around an assembled text. -/
theorem between {before after text : String} (opening : ∀ c ∈ before.toList, isTemplate c = true)
    (assembled : IsAssembled text) (closing : ∀ c ∈ after.toList, isTemplate c = true) :
    IsAssembled (before ++ text ++ after) :=
  ((template opening).append assembled).append (template closing)

theorem call {function : String} (named : ∀ c ∈ function.toList, isTemplate c = true)
    {texts : List String} (each : ∀ text ∈ texts, IsAssembled text) :
    IsAssembled (call function texts) :=
  (((template named).append (template (by decide))).append (isJoined.intercalate each)).append
    (template (by decide))

theorem array {texts : List String} (each : ∀ text ∈ texts, IsAssembled text) :
    IsAssembled (array texts) :=
  between (by decide) (isJoined.intercalate each) (by decide)

end IsAssembled

/-- The members of a mapping after the first one. -/
theorem isAssembled_members (mapping : Mapping String String) :
    IsAssembled (String.ofList
      (Value.Compact.membersText (mapping.map fun entry => (entry.1, .string entry.2)))) := by
  induction mapping with
  | nil => exact .template (by decide)
  | cons entry mapping inductionHypothesis =>
      have comma : IsAssembled "," := .template (by decide)
      have colon : IsAssembled ":" := .template (by decide)
      have member := (((comma.append (.string entry.1)).append colon).append
        (.string entry.2)).append inductionHypothesis
      convert member using 1
      rw [← String.toList_inj]
      simp [Value.Compact.membersText, Value.Compact.writeString, Value.Compact.write,
        Value.Compact.text]

theorem isAssembled_writeStrings (mapping : Mapping String String) :
    IsAssembled (Value.Compact.writeStrings mapping) := by
  cases mapping with
  | nil => exact .template (by decide)
  | cons entry mapping =>
      have opening : IsAssembled "\x7b" := .template (by decide)
      have colon : IsAssembled ":" := .template (by decide)
      have closing : IsAssembled "\x7d" := .template (by decide)
      have whole := ((((opening.append (.string entry.1)).append colon).append
        (.string entry.2)).append (isAssembled_members mapping)).append closing
      convert whole using 1
      rw [← String.toList_inj]
      simp [Value.Compact.writeStrings, Value.Compact.writeString, Value.Compact.write,
        Value.Compact.text]

/-- The literals of a compiled head are assembled. -/
theorem isAssembled_staticClass (tag : String) (attributes : List (String × String)) :
    ∀ text, (Head.ofAttributes tag attributes).staticClass = some text → IsAssembled text := by
  intro text found
  rcases staticClass_compiled tag attributes with missing | ⟨content, present⟩
  · rw [missing] at found
    contradiction
  · obtain rfl := Option.some.inj (present.symm.trans found)
    exact .string content

theorem isAssembled_staticStyle (tag : String) (attributes : List (String × String)) :
    ∀ text, (Head.ofAttributes tag attributes).staticStyle = some text → IsAssembled text := by
  intro text found
  rcases staticStyle_compiled tag attributes with ⟨missing, -⟩ | ⟨mapping, present, -⟩
  · rw [missing] at found
    contradiction
  · obtain rfl := Option.some.inj (present.symm.trans found)
    exact isAssembled_writeStrings mapping

/-- A field is assembled if its literal is. -/
theorem isAssembled_field {name : String} (named : ∀ c ∈ name.toList, isTemplate c = true)
    {literal : Option String} (each : ∀ text, literal = some text → IsAssembled text) :
    ∀ field, field? name literal = some field → IsAssembled field := by
  intro field found
  obtain ⟨text, kept, rfl⟩ := Option.map_eq_some_iff.mp found
  obtain ⟨rfl, -⟩ := Option.filter_eq_some_iff.mp kept
  exact ((IsAssembled.template named).append (.template (by decide))).append (each text rfl)

theorem isAssembled_fields (tag : String) (attributes : List (String × String)) :
    ∀ field ∈ fields (Head.ofAttributes tag attributes), IsAssembled field := by
  intro field member
  simp only [fields, List.mem_filterMap, id_eq, exists_eq_right, List.mem_cons, List.not_mem_nil,
    or_false] at member
  rcases member with classed | styled | attributed
  · exact isAssembled_field (by decide) (isAssembled_staticClass tag attributes) field classed.symm
  · exact isAssembled_field (by decide) (isAssembled_staticStyle tag attributes) field styled.symm
  · refine isAssembled_field (by decide) ?_ field attributed.symm
    intro text found
    split at found
    · contradiction
    · obtain rfl := Option.some.inj found
      exact isAssembled_writeStrings _

theorem isAssembled_data (tag : String) (attributes : List (String × String)) :
    ∀ data ∈ (data? (Head.ofAttributes tag attributes)).toList, IsAssembled data := by
  intro data member
  rw [data?] at member
  split at member
  · contradiction
  · obtain rfl := List.mem_singleton.mp member
    have joined := IsAssembled.isJoined.intercalate (isAssembled_fields tag attributes)
    exact .between (by decide) joined (by decide)

mutual

/-- The expression of a compiled node is assembled. -/
theorem isAssembled_expression : (node : Node) → node.IsCompiled →
    ∀ text, expression? node = some text → IsAssembled text
  | .text content, _, text, found => by
      obtain rfl := Option.some.inj found
      exact .call (by decide) (by simpa using .literal content)
  | .bare, compiled, _, _ => by cases compiled
  | .element head children, compiled, text, found => by
      cases compiled with
      | element tag attributes inside =>
          rw [expression?_element] at found
          obtain ⟨texts, written, rfl⟩ := Option.map_eq_some_iff.mp found
          have each := isAssembled_expressions children inside texts written
          refine .call (by decide) (List.forall_mem_cons.mpr ⟨.literal _, ?_⟩)
          exact List.forall_mem_append.mpr
            ⟨isAssembled_data tag attributes, forall_childrenArgument (.array each)⟩

theorem isAssembled_expressions : (nodes : List Node) → Node.AllCompiled nodes →
    ∀ texts, expressions? nodes = some texts → ∀ text ∈ texts, IsAssembled text
  | [], _, texts, found => by
      obtain rfl := Option.some.inj found
      exact nofun
  | node :: nodes, compiled, texts, found => by
      obtain ⟨here, later⟩ := List.forall_mem_cons.mp compiled
      obtain ⟨first, written, others⟩ := Option.bind_eq_some_iff.mp found
      obtain ⟨rest, remaining, whole⟩ := Option.bind_eq_some_iff.mp others
      obtain rfl := Option.some.inj whole
      exact List.forall_mem_cons.mpr ⟨isAssembled_expression node here first written,
        isAssembled_expressions nodes later rest remaining⟩

end

/-- Every fragment of a module is assembled. -/
structure Fragments.AreAssembled (fragments : Fragments) : Prop where
  classes : IsAssembled fragments.classes
  styles : IsAssembled fragments.styles
  attributes : IsAssembled fragments.attributes
  children : IsAssembled fragments.children

theorem isAssembled_attributes (head : Head) : IsAssembled (attributesFragment head) := by
  rw [attributesFragment]
  split
  · exact .template (by decide)
  · exact .between (by decide) (isAssembled_writeStrings _) (by decide)

theorem isAssembled_children {children : List Node} (compiled : Node.AllCompiled children)
    {text : String} (found : childrenFragment? children = some text) : IsAssembled text := by
  rw [childrenFragment?] at found
  split at found
  · obtain rfl := Option.some.inj found
    exact .template (by decide)
  · obtain ⟨inner, whole, rfl⟩ := Option.map_eq_some_iff.mp found
    obtain ⟨texts, written, rfl⟩ := Option.map_eq_some_iff.mp whole
    exact .between (by decide) (.array (isAssembled_expressions children compiled texts written))
      (by decide)

/-- The fragments of a compiled root are assembled. -/
theorem areAssembled_ofElement {tag : String} {attributes : List (String × String)} {root : Element}
    (named : root.head = Head.ofAttributes tag attributes)
    (compiled : Node.AllCompiled root.children) {fragments : Fragments}
    (found : Fragments.ofElement? root = some fragments) : fragments.AreAssembled := by
  obtain ⟨children, written, whole⟩ := Option.bind_eq_some_iff.mp found
  obtain rfl := Option.some.inj whole
  rw [named]
  refine ⟨?_, ?_, isAssembled_attributes _, isAssembled_children compiled written⟩
  · apply IsAssembled.isJoined.joinPresent
    intro text member
    simp only [List.mem_cons, List.not_mem_nil, or_false, Option.some.injEq] at member
    rcases member with classed | rfl | rfl
    · exact isAssembled_staticClass tag attributes text classed.symm
    · exact .template (by decide)
    · exact .template (by decide)
  · apply IsAssembled.isJoined.joinPresent
    intro text member
    simp only [List.mem_cons, List.not_mem_nil, or_false, Option.some.injEq] at member
    rcases member with styled | rfl | rfl
    · exact isAssembled_staticStyle tag attributes text styled.symm
    · exact .template (by decide)
    · exact .template (by decide)

theorem isAssembled_preamble : ∀ line ∈ preamble, IsAssembled line := fun line member =>
  .template ((by decide : ∀ line ∈ preamble, ∀ c ∈ line.toList, isTemplate c = true) line member)

/-- Every line of a module is assembled. -/
theorem isAssembled_lines {fragments : Fragments} (each : fragments.AreAssembled) :
    ∀ line ∈ preamble ++ creation "'svg'" fragments ++ ending, IsAssembled line := by
  have back : ∀ line ∈ ending, IsAssembled line := fun line member =>
    .template ((by decide : ∀ line ∈ ending, ∀ c ∈ line.toList, isTemplate c = true) line member)
  have middle : ∀ line ∈ creation "'svg'" fragments, IsAssembled line := by
    have indent : IsAssembled "      " := .template (by decide)
    have deeper : IsAssembled "        " := .template (by decide)
    have comma : IsAssembled "," := .template (by decide)
    have tag : IsAssembled "'svg'" := .literal "svg"
    simp only [creation, List.forall_mem_cons]
    exact ⟨(indent.append tag).append comma, .template (by decide),
      .between (by decide) each.classes (by decide), .between (by decide) each.styles (by decide),
      (deeper.append each.attributes).append comma, .template (by decide), .template (by decide),
      indent.append each.children, nofun⟩
  exact List.forall_mem_append.mpr
    ⟨List.forall_mem_append.mpr ⟨isAssembled_preamble, middle⟩, back⟩

end SvgComponent.Component
