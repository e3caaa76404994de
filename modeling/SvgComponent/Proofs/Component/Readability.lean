/-
This file shows that the array of any nodes can be read back, and that only bare nodes have none.
-/

import SvgComponent.Proofs.Component.Expression

namespace SvgComponent

namespace Markup

/-- What is written for a head: without attributes only the tag, and otherwise no empty literal. -/
def Head.emitted (head : Head) : Head :=
  if head.attributes.isEmpty then
    { head with staticClass := none, staticStyle := none, entries := [] }
  else
    { head with
      staticClass := nonempty? head.staticClass
      staticStyle := nonempty? head.staticStyle }

namespace Node

mutual

/-- A node with only what is written for its heads. -/
def emitted : Node → Node
  | text content => text content
  | element head children => element head.emitted (emittedAll children)
  | bare => bare

def emittedAll : List Node → List Node
  | [] => []
  | node :: nodes => emitted node :: emittedAll nodes

end

/-- A bare node can be reached from a node through children. -/
inductive HasBare : Node → Prop
  | here : HasBare .bare
  | inside {head : Head} {children : List Node} {child : Node} (member : child ∈ children)
      (found : HasBare child) : HasBare (.element head children)

theorem hasBare_element_iff (head : Head) (children : List Node) :
    HasBare (.element head children) ↔ ∃ child ∈ children, HasBare child := by
  constructor
  · rintro (_ | ⟨member, found⟩)
    exact ⟨_, member, found⟩
  · rintro ⟨child, member, found⟩
    exact .inside member found

end Node
end Markup

namespace Component

open Markup

/-- The literals of a head are missing, empty, or stand for a text and a mapping. -/
structure Readable (head : Head) : Prop where
  staticClass : ∀ literal ∈ head.staticClass, literal ≠ "" →
    ∃ content, literal = Value.Compact.writeString content
  staticStyle : ∀ literal ∈ head.staticStyle, literal ≠ "" →
    ∃ declarations : Mapping String String,
      (Mapping.keys declarations).Nodup ∧ literal = Value.Compact.writeStrings declarations

/-- All elements in a tree have readable heads. No node is bare. -/
inductive IsReadable : Node → Prop
  | text (content : String) : IsReadable (.text content)
  | element {head : Head} {children : List Node} (readable : Readable head)
      (inside : ∀ child ∈ children, IsReadable child) : IsReadable (.element head children)

theorem nonempty?_idem (literal : Option String) :
    (nonempty? literal).filter (· ≠ "") = literal.filter (· ≠ "") := by
  rw [nonempty?, Option.filter_filter]
  simp

/-- A literal that is neither missing nor empty is the text of its content. -/
theorem nonempty?_literal {α : Type} {write : α → String} (valid : α → Prop)
    {literal : Option String}
    (each : ∀ text ∈ literal, text ≠ "" → ∃ content, valid content ∧ text = write content) :
    ∃ content : Option α, nonempty? literal = content.map write ∧
      ∀ part ∈ content, valid part := by
  cases kept : nonempty? literal with
  | none => exact ⟨none, rfl, nofun⟩
  | some text =>
      obtain ⟨member, visible⟩ := Option.filter_eq_some_iff.mp kept
      obtain ⟨content, held, rfl⟩ := each text member (of_decide_eq_true visible)
      refine ⟨some content, rfl, ?_⟩
      rintro part ⟨⟩
      exact held

theorem data?_emitted (head : Head) : data? head.emitted = data? head := by
  rw [Head.emitted]
  split
  · case _ unattributed => simp [data?, unattributed]
  · simp only [data?, fields, field?, nonempty?_idem]
    rfl

theorem legible_emitted {head : Head} (readable : Readable head) : Legible head.emitted := by
  rw [Head.emitted]
  split
  · exact ⟨⟨none, rfl⟩, ⟨none, rfl, nofun⟩, fun _ => rfl⟩
  · case _ attributed =>
      refine ⟨?_, ?_, fun unattributed => absurd (List.isEmpty_iff.mpr unattributed) attributed⟩
      · obtain ⟨content, same, -⟩ := nonempty?_literal (fun _ => True)
          fun literal member visible => by simpa using readable.staticClass literal member visible
        exact ⟨content, same⟩
      · exact nonempty?_literal (fun declarations => (Mapping.keys declarations).Nodup)
          readable.staticStyle

mutual

theorem expression?_emitted : (node : Node) → expression? node.emitted = expression? node
  | .text _ | .bare => rfl
  | .element head children => by
      have tagged : head.emitted.tag = head.tag := by
        rw [Head.emitted]
        split <;> rfl
      rw [Node.emitted, expression?_element, expression?_element, expressions?_emitted children,
        data?_emitted, tagged]

theorem expressions?_emitted : (nodes : List Node) →
    expressions? (Node.emittedAll nodes) = expressions? nodes
  | [] => rfl
  | node :: nodes => by
      rw [Node.emittedAll, expressions?, expressions?, expression?_emitted node,
        expressions?_emitted nodes]

end

theorem mem_emittedAll {nodes : List Node} {node : Node} (member : node ∈ Node.emittedAll nodes) :
    ∃ original ∈ nodes, node = original.emitted := by
  induction nodes with
  | nil => contradiction
  | cons first others inductionHypothesis =>
      rcases List.mem_cons.mp member with rfl | later
      · exact ⟨first, List.mem_cons_self, rfl⟩
      · obtain ⟨original, inside, same⟩ := inductionHypothesis later
        exact ⟨original, List.mem_cons_of_mem first inside, same⟩

theorem isLegible_emitted {node : Node} (readable : IsReadable node) : IsLegible node.emitted := by
  induction readable with
  | text content => exact .text content
  | element readable _ inductionHypothesis =>
      refine .element (legible_emitted readable) fun child member => ?_
      obtain ⟨original, inside, rfl⟩ := mem_emittedAll member
      exact inductionHypothesis original inside

mutual

theorem expression?_eq_none_iff : (node : Node) → (expression? node = none ↔ node.HasBare)
  | .text _ => by
      refine iff_of_false (by simp [expression?]) ?_
      rintro ⟨⟩
  | .bare => iff_of_true rfl .here
  | .element head children => by
      rw [expression?_element, Option.map_eq_none_iff, expressions?_eq_none_iff children,
        Node.hasBare_element_iff]

theorem expressions?_eq_none_iff : (nodes : List Node) →
    (expressions? nodes = none ↔ ∃ node ∈ nodes, node.HasBare)
  | [] => by simp [expressions?]
  | node :: nodes => by
      rw [List.exists_mem_cons_iff, ← expression?_eq_none_iff node, ← expressions?_eq_none_iff nodes,
        expressions?]
      cases expression? node with
      | none => simp
      | some first => cases expressions? nodes <;> simp

end

namespace Decode

/-- An array of nodes, which may be empty. -/
def array? (text : List Char) : Option (List View × List Char) := do
  let inside ← mark? "[" text
  match nodes? inside.length inside with
  | some found => some found
  | none => (mark? "]" inside).map fun rest => ([], rest)

theorem array?_reads {texts : List String} {views : List View}
    (each : List.Forall₂ (fun text view => ReadsNode text.toList view) texts views)
    (rest : List Char) : array? ((array texts).toList ++ rest) = some (views, rest) := by
  have shape : (array texts).toList ++ rest =
      "[".toList ++ ((String.intercalate "," texts).toList ++ ']' :: rest) := by
    rw [array, String.toList_append, String.toList_append]
    simp
  rw [shape, array?, mark?_append]
  simp only [bind, Option.bind]
  cases each with
  | nil =>
      have unread : nodes? (']' :: rest).length (']' :: rest) = none := by
        cases rest <;> rfl
      have closed : mark? "]" (']' :: rest) = some rest := mark?_append "]" rest
      rw [String.intercalate_nil, String.toList_empty, List.nil_append, unread, closed]
      rfl
  | cons first others =>
      rw [nodes?_reads (.cons first others) (List.cons_ne_nil _ _) _ rest (by
        simp only [List.length_append, List.length_cons]
        omega)]

end Decode

/-- The array of readable nodes is read back, whatever follows it: the text of every text, and the
tag, the data and the children of every element. Empty data stands for an element without data. Any
nodes have an array unless a bare node can be reached from them. -/
theorem children?_readable (nodes : List Node) :
    ((∀ node ∈ nodes, IsReadable node) →
      ∃ text, children? nodes = some text ∧ ∀ rest,
        Decode.array? (text.toList ++ rest) =
          some (View.ofNodes (Node.emittedAll nodes), rest)) ∧
    (children? nodes = none ↔ ∃ node ∈ nodes, node.HasBare) := by
  refine ⟨fun readable => ?_, ?_⟩
  · have legible : ∀ node ∈ Node.emittedAll nodes, IsLegible node := by
      intro node member
      obtain ⟨original, inside, rfl⟩ := mem_emittedAll member
      exact isLegible_emitted (readable original inside)
    obtain ⟨texts, written, each⟩ := Decode.expressions?_reads _ legible
    rw [expressions?_emitted] at written
    exact ⟨array texts, by rw [children?, written]; rfl, Decode.array?_reads each⟩
  · rw [children?, Option.map_eq_none_iff, expressions?_eq_none_iff]

/-- An empty class is not written, the last of two attributes with one name counts, and without
attributes no data is written at all. -/
theorem children?_readable_mixed :
    let inner := Node.element ⟨"b", [], [("c", "d")], some (Value.Compact.writeString "e"), none⟩ []
    let style := Value.Compact.writeStrings [("fill", "\"red\"")]
    let outer := Node.element
      ⟨"g", [("id", "x")], [("id", "x"), ("id", "y")], some "", some style⟩ [inner, .text "it's"]
    ∃ text, children? [outer, .text "],["] = some text ∧
      Decode.array? (text.toList ++ "]".toList) =
        some ([.element "g" ⟨none, some style, [("id", "y")]⟩
          [.element "b" .empty [], .text "it's"], .text "],["], "]".toList) := by
  intro inner style outer
  have innerReadable : IsReadable inner := by
    refine .element ⟨?_, nofun⟩ nofun
    rintro literal ⟨⟩ -
    exact ⟨"e", rfl⟩
  have outerReadable : IsReadable outer := by
    refine .element ⟨?_, ?_⟩ ?_
    · rintro literal ⟨⟩ visible
      contradiction
    · rintro literal ⟨⟩ -
      exact ⟨[("fill", "\"red\"")], by decide, rfl⟩
    · simp only [List.forall_mem_cons]
      exact ⟨innerReadable, .text "it's", nofun⟩
  obtain ⟨read, -⟩ := children?_readable [outer, .text "],["]
  obtain ⟨text, written, found⟩ := read (by
    simp only [List.forall_mem_cons]
    exact ⟨outerReadable, .text "],[", nofun⟩)
  exact ⟨text, written, found _⟩

end Component
end SvgComponent
