/-
This file shows how blank texts stand among siblings when they are preserved.
-/

import Mathlib.Data.List.Chain
import SvgComponent.Proofs.Markup.Occurrence

namespace SvgComponent.Markup

open Text

/-- Blank texts among the first siblings are single spaces. None of them comes first and no two of
them are neighbours. -/
structure Node.BeginSpaced (nodes : List Node) : Prop where
  single : ∀ node ∈ nodes, Build.isBlankNode node = true → node = .text " "
  first : ∀ node, nodes.head? = some node → Build.isBlankNode node = false
  apart : nodes.IsChain fun node next =>
    Build.isBlankNode node = true → Build.isBlankNode next = false

/-- Among all siblings, no blank text comes last either. -/
structure Node.AreSpaced (nodes : List Node) : Prop extends BeginSpaced nodes where
  last : ∀ node, nodes.getLast? = some node → Build.isBlankNode node = false

namespace Node.BeginSpaced

theorem nil : BeginSpaced [] :=
  ⟨nofun, nofun, .nil⟩

/-- A visible node may follow all others, and a space may follow a visible node. -/
theorem concat {nodes : List Node} (spaced : BeginSpaced nodes) {node : Node}
    (fits : Build.isBlankNode node = true → node = .text " " ∧
      ∃ before, nodes.getLast? = some before ∧ Build.isBlankNode before = false) :
    BeginSpaced (nodes ++ [node]) where
  single := by
    intro other member blank
    rcases List.mem_append.mp member with known | last
    · exact spaced.single other known blank
    · obtain rfl := List.mem_singleton.mp last
      exact (fits blank).1
  first := by
    intro other begins
    cases nodes with
    | nil =>
        obtain rfl := Option.some.inj begins
        by_contra blank
        obtain ⟨-, before, present, -⟩ := fits (by simpa using blank)
        contradiction
    | cons first others => exact spaced.first other begins
  apart := by
    refine List.isChain_append.mpr ⟨spaced.apart, .singleton _, ?_⟩
    intro before ends after follows blankBefore
    obtain rfl := Option.some.inj follows
    by_contra blank
    obtain ⟨-, other, present, visible⟩ := fits (by simpa using blank)
    obtain rfl : before = other := Option.some.inj (ends.symm.trans present)
    rw [visible] at blankBefore
    contradiction

/-- In a list from the last node on, a visible node may be put in front. -/
theorem cons_visible {children : List Node} (spaced : BeginSpaced children.reverse) {node : Node}
    (visible : Build.isBlankNode node = false) : BeginSpaced (node :: children).reverse := by
  rw [List.reverse_cons]
  exact spaced.concat (by simp [visible])

theorem front {nodes : List Node} {node : Node} (spaced : BeginSpaced (nodes ++ [node])) :
    BeginSpaced nodes where
  single other member := spaced.single other (List.mem_append_left _ member)
  first other begins := spaced.first other (by simp [begins])
  apart := spaced.apart.left_of_append

/-- Siblings are spaced if a blank text at their end is left out. -/
theorem areSpaced_front {nodes : List Node} {node : Node} (spaced : BeginSpaced (nodes ++ [node]))
    (blank : Build.isBlankNode node = true) : AreSpaced nodes where
  toBeginSpaced := spaced.front
  last := by
    intro before ends
    by_contra blankBefore
    have apart := (List.isChain_append.mp spaced.apart).2.2 before ends node rfl
      (by simpa using blankBefore)
    rw [apart] at blank
    contradiction

end Node.BeginSpaced

namespace Build

/-- A closed element has spaced children. -/
theorem areSpaced_closed {children : List Node} (spaced : Node.BeginSpaced children.reverse) :
    Node.AreSpaced (closed children) := by
  cases children with
  | nil => exact ⟨spaced, nofun⟩
  | cons last others =>
      rw [List.reverse_cons] at spaced
      simp only [closed]
      split
      · case _ blank => exact spaced.areSpaced_front blank
      · case _ visible =>
          refine ⟨by rwa [List.reverse_cons], ?_⟩
          intro node ends
          rw [List.reverse_cons, List.getLast?_concat] at ends
          obtain rfl := Option.some.inj ends
          simpa using visible

/-- A preserved blank text becomes a space behind a visible node, or is dropped. -/
theorem beginSpaced_addBlank {children : List Node} (spaced : Node.BeginSpaced children.reverse) :
    Node.BeginSpaced (addBlank true children).reverse := by
  cases children with
  | nil => exact spaced
  | cons last others =>
      simp only [addBlank, Bool.true_and]
      split
      · case _ other =>
          rw [List.reverse_cons]
          refine spaced.concat fun _ => ⟨rfl, last, by simp, ?_⟩
          by_contra blank
          have space := spaced.single last (by simp) (by simpa using blank)
          simp [space, isSpace] at other
      · exact spaced

/-- Apart from blank texts, every contribution adds a visible node, and without references a text
stands for itself. -/
theorem spacing_isKept :
    IsKept true (fun event => ∀ raw, event = .text raw → '&' ∉ raw)
      (fun children => Node.BeginSpaced children.reverse)
      (fun element => Node.AreSpaced element.children) where
  empty := .nil
  blank := beginSpaced_addBlank
  text {children raw content} allowed visible decoded before := by
    rw [CharacterReference.decode?_plain (allowed raw rfl)] at decoded
    obtain rfl := Option.some.inj decoded
    exact before.cons_visible ((isBlankNode_text raw).trans visible)
  verbatim {children content} visible before :=
    before.cons_visible ((isBlankNode_text content).trans visible)
  element inner before := before.cons_visible rfl
  close allowed before := areSpaced_closed before

end Build

/-- The texts of a markup hold no other characters than the markup. -/
theorem contributions_text_subset {markup : String} {raw : List Char}
    (member : .text raw ∈ contributions markup) : raw ⊆ markup.toList := by
  obtain ⟨token, known, textual⟩ := List.mem_map.mp (List.mem_filter.mp member).1
  exact Token.tokensFrom_text_subset known textual

/-- Without references, preserved blank texts are single spaces. They are never the first or the
last children of an element and never neighbours. -/
theorem compile_spaced {markup : String} {root : Element} (plain : '&' ∉ markup.toList)
    (compiled : compile true markup = .ok root) :
    ∀ element, root.toNode.Contains element → Node.AreSpaced element.children := by
  apply Build.spacing_isKept.compile _ compiled
  rintro _ member raw rfl inside
  exact plain (contributions_text_subset member inside)

/-- One space is left of blank texts that a section, a comment, an instruction and dropped elements
separate, and none at the beginning or at the end of an element. -/
theorem compile_spaced_pieces :
    let image := Element.mk (Head.ofAttributes "svg" [])
      [.element (Head.ofAttributes "g" []) [], .text " ",
        .element (Head.ofAttributes "g" []) [.text "a b "]]
    compile true ("<svg> <![CDATA[\t]]>\n<g/> <!-- --> <?p?>\t<![CDATA[ ]]>" ++
        "<g>a b <style>x</style> </g><script/>\n</svg>") = .ok image ∧
      ∀ element, image.toNode.Contains element → Node.AreSpaced element.children := by
  intro image
  have compiled : compile true ("<svg> <![CDATA[\t]]>\n<g/> <!-- --> <?p?>\t<![CDATA[ ]]>" ++
      "<g>a b <style>x</style> </g><script/>\n</svg>") = .ok image := rfl
  exact ⟨compiled, compile_spaced (by decide) compiled⟩

end SvgComponent.Markup
