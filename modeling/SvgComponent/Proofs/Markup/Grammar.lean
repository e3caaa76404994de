/-
This file states the grammar of markup over its events, and the tree that a derivation stands for.
-/

import SvgComponent.Markup.Compile
import SvgComponent.Proofs.Markup.CharacterReference

namespace SvgComponent.Markup

open Text

/-- A blank event is a text without a visible character. References count as visible. -/
def Event.isBlank : Event → Bool
  | .text raw => isBlankText raw
  | .verbatim content => isBlankText content
  | _ => false

/-- This tree derives an element, or a text inside an element. -/
inductive Derivation where
  | text (raw : List Char)
  | verbatim (content : List Char)
  | selfClosed (tag : String) (attributes : List (String × String))
  | pair (tag : String) (attributes : List (String × String)) (content : List Derivation)

namespace Derivation

def isElement : Derivation → Bool
  | selfClosed _ _ | pair _ _ _ => true
  | text _ | verbatim _ => false

mutual

/-- The events that are derived. An end tag has the name of its start tag. -/
def events : Derivation → List Event
  | text raw => [.text raw]
  | verbatim content => [.verbatim content]
  | selfClosed tag attributes => [.startTag tag attributes true]
  | pair tag attributes content =>
      .startTag tag attributes false :: (eventsOf content ++ [.endTag tag])

def eventsOf : List Derivation → List Event
  | [] => []
  | first :: others => first.events ++ eventsOf others

end

mutual

/-- The node that is derived. There is none if a text cannot be decoded. -/
def node? : Derivation → Option Node
  | text raw => (CharacterReference.decode? raw).map fun content => .text (String.ofList content)
  | verbatim content => some (.text (String.ofList content))
  | selfClosed tag attributes => some (.element (Head.ofAttributes tag attributes) [])
  | pair tag attributes content =>
      (nodes? content).map (.element (Head.ofAttributes tag attributes))

def nodes? : List Derivation → Option (List Node)
  | [] => some []
  | first :: others => do
      let node ← first.node?
      let nodes ← nodes? others
      return node :: nodes

end

end Derivation

/-- A document derives one element and has only blank texts around it. -/
def IsDocument (events : List Event) (root : Derivation) : Prop :=
  root.isElement = true ∧ ∃ before after : List Event,
    events = before ++ root.events ++ after ∧
      (∀ event ∈ before, event.isBlank = true) ∧ ∀ event ∈ after, event.isBlank = true

/-- Events are viable if they begin some document. -/
def IsViable (events : List Event) : Prop :=
  ∃ more root, IsDocument (events ++ more) root

mutual

/-- A node without the blank texts below it. -/
def Node.pruned : Node → Node
  | .element head children => .element head (Node.prunedAll children)
  | .text content => .text content
  | .bare => .bare

/-- The nodes without the blank texts at any depth. -/
def Node.prunedAll : List Node → List Node
  | [] => []
  | node :: nodes =>
      if Build.isBlankNode node then Node.prunedAll nodes
      else node.pruned :: Node.prunedAll nodes

end

namespace Node

theorem prunedAll_append (first second : List Node) :
    prunedAll (first ++ second) = prunedAll first ++ prunedAll second := by
  induction first with
  | nil => rfl
  | cons node nodes inductionHypothesis =>
      simp only [List.cons_append, prunedAll, inductionHypothesis]
      split <;> rfl

/-- A blank text leaves nothing. -/
theorem prunedAll_blank {node : Node} (blank : Build.isBlankNode node = true) :
    prunedAll [node] = [] := by
  simp [prunedAll, blank]

theorem prunedAll_visible {node : Node} (visible : Build.isBlankNode node = false) :
    prunedAll [node] = [node.pruned] := by
  simp [prunedAll, visible]

/-- Adding a blank text or closing an element changes blank texts only. -/
theorem prunedAll_addBlank (preserve : Bool) (children : List Node) :
    prunedAll (Build.addBlank preserve children).reverse = prunedAll children.reverse := by
  cases children with
  | nil => rfl
  | cons last others =>
      simp only [Build.addBlank]
      split
      · rw [List.reverse_cons, prunedAll_append, prunedAll_blank (by decide), List.append_nil]
      · rfl

theorem prunedAll_closed (children : List Node) :
    prunedAll (Build.closed children) = prunedAll children.reverse := by
  cases children with
  | nil => rfl
  | cons last others =>
      simp only [Build.closed]
      split
      · case _ blank =>
          rw [List.reverse_cons, prunedAll_append, prunedAll_blank blank, List.append_nil]
      · rfl

end Node

end SvgComponent.Markup
