/-
This file shows what every compiled tree is made of.
-/

import SvgComponent.Proofs.Markup.Acceptance

namespace SvgComponent.Markup

open Text

/-- A compiled node is a text, or an element whose head comes from a start tag. -/
inductive Node.IsCompiled : Node → Prop
  | text (content : String) : IsCompiled (.text content)
  | element (tag : String) (attributes : List (String × String)) {children : List Node}
      (inside : ∀ child ∈ children, IsCompiled child) :
      IsCompiled (.element (Head.ofAttributes tag attributes) children)

/-- All nodes of a list are compiled. -/
def Node.AllCompiled (nodes : List Node) : Prop :=
  ∀ node ∈ nodes, node.IsCompiled

namespace Node.AllCompiled

theorem nil : AllCompiled [] := by
  intro node member
  contradiction

theorem cons {node : Node} {nodes : List Node} (first : node.IsCompiled)
    (others : AllCompiled nodes) : AllCompiled (node :: nodes) := by
  intro other member
  rcases List.mem_cons.mp member with rfl | later
  · exact first
  · exact others other later

theorem addBlank {children : List Node} (compiled : AllCompiled children) (preserve : Bool) :
    AllCompiled (Build.addBlank preserve children) := by
  intro node member
  rcases Build.mem_of_mem_addBlank member with rfl | known
  · exact .text " "
  · exact compiled node known

theorem closed {children : List Node} (compiled : AllCompiled children) :
    AllCompiled (Build.closed children) :=
  fun node member => compiled node (Build.mem_of_mem_closed member)

end Node.AllCompiled

namespace Derivation

mutual

theorem extend?_compiled {preserve : Bool} {children extended : List Node}
    (compiled : Node.AllCompiled children) :
    (derivation : Derivation) → derivation.extend? preserve children = some extended →
      Node.AllCompiled extended
  | .text raw, found => by
      unfold extend? at found
      split at found
      · obtain rfl := Option.some.inj found
        exact compiled.addBlank preserve
      · obtain ⟨content, -, rfl⟩ := Option.map_eq_some_iff.mp found
        exact compiled.cons (.text _)
  | .verbatim content, found => by
      unfold extend? at found
      split at found
      · obtain rfl := Option.some.inj found
        exact compiled.addBlank preserve
      · obtain rfl := Option.some.inj found
        exact compiled.cons (.text _)
  | .selfClosed tag attributes, found => by
      obtain rfl := Option.some.inj found
      exact compiled.cons (.element tag attributes Node.AllCompiled.nil)
  | .pair tag attributes content, found => by
      rw [extend?] at found
      obtain ⟨inner, built, rfl⟩ := Option.map_eq_some_iff.mp found
      have inside := extendAll?_compiled .nil content built
      exact compiled.cons (.element tag attributes inside.closed)

theorem extendAll?_compiled {preserve : Bool} {children extended : List Node}
    (compiled : Node.AllCompiled children) :
    (derivations : List Derivation) → extendAll? preserve children derivations = some extended →
      Node.AllCompiled extended
  | [], found => by
      obtain rfl := Option.some.inj found
      exact compiled
  | first :: others, found => by
      rw [extendAll?] at found
      obtain ⟨middle, head, tail⟩ := Option.bind_eq_some_iff.mp found
      exact extendAll?_compiled (extend?_compiled compiled first head) others tail

end

/-- An element that is built from a derivation is compiled. -/
theorem element?_compiled {preserve : Bool} {root : Derivation} {built : Element}
    (found : root.element? preserve = some built) :
    ∃ tag attributes, built.head = Head.ofAttributes tag attributes ∧
      Node.AllCompiled built.children := by
  cases root with
  | text raw => contradiction
  | verbatim content => contradiction
  | selfClosed tag attributes =>
      obtain rfl := Option.some.inj found
      exact ⟨tag, attributes, rfl, .nil⟩
  | pair tag attributes content =>
      obtain ⟨inner, built, rfl⟩ := Option.map_eq_some_iff.mp found
      exact ⟨tag, attributes, rfl, (extendAll?_compiled .nil content built).closed⟩

end Derivation

/-- The root of compiled markup comes from its start tag, and the nodes below it are compiled. -/
theorem compile_compiled {preserve : Bool} {markup : String} {root : Element}
    (compiled : compile preserve markup = .ok root) :
    ∃ tag attributes, root.head = Head.ofAttributes tag attributes ∧
      Node.AllCompiled root.children := by
  obtain ⟨complete, derivation, document⟩ := isWellFormed_of_compile compiled
  rw [compile_document preserve complete document] at compiled
  cases built : derivation.element? preserve with
  | none => simp [built] at compiled
  | some element =>
      rw [built] at compiled
      obtain rfl := Except.ok.inj compiled
      exact Derivation.element?_compiled built

end SvgComponent.Markup
