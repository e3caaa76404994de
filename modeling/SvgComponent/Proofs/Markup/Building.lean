/-
This file shows what the events of a derivation do to the open elements.
-/

import SvgComponent.Proofs.Markup.Grammar

namespace SvgComponent.Markup

open Text

namespace Derivation

mutual

/-- The children of an element, from the last one on, after a derivation has been read. -/
def extend? (preserve : Bool) (children : List Node) : Derivation → Option (List Node)
  | text raw =>
      if isBlankText raw then some (Build.addBlank preserve children)
      else (CharacterReference.decode? raw).map fun content =>
        .text (String.ofList content) :: children
  | verbatim content =>
      if isBlankText content then some (Build.addBlank preserve children)
      else some (.text (String.ofList content) :: children)
  | selfClosed tag attributes => some (.element (Head.ofAttributes tag attributes) [] :: children)
  | pair tag attributes content =>
      (extendAll? preserve [] content).map fun inner =>
        .element (Head.ofAttributes tag attributes) (Build.closed inner) :: children

def extendAll? (preserve : Bool) (children : List Node) : List Derivation → Option (List Node)
  | [] => some children
  | first :: others =>
      (first.extend? preserve children).bind fun extended => extendAll? preserve extended others

end

/-- The element that is built from a derivation. -/
def element? (preserve : Bool) : Derivation → Option Element
  | selfClosed tag attributes => some ⟨Head.ofAttributes tag attributes, []⟩
  | pair tag attributes content =>
      (extendAll? preserve [] content).map fun inner =>
        ⟨Head.ofAttributes tag attributes, Build.closed inner⟩
  | text _ | verbatim _ => none

/-- An element is added to the children as a whole. -/
theorem extend?_element (preserve : Bool) (children : List Node) {root : Derivation}
    (element : root.isElement = true) :
    root.extend? preserve children =
      (root.element? preserve).map fun built => built.toNode :: children := by
  cases root with
  | text raw => contradiction
  | verbatim content => contradiction
  | selfClosed tag attributes => rfl
  | pair tag attributes content =>
      simp only [extend?, element?, Option.map_map]
      rfl

/-- No reference stands in a blank text. -/
theorem decode?_blank {raw : List Char} (blank : isBlankText raw = true) :
    CharacterReference.decode? raw = some raw := by
  apply CharacterReference.decode?_plain
  intro member
  have visible := List.all_eq_true.mp blank '&' member
  contradiction

mutual

/-- Apart from blank texts, the children grow by the node that is derived. -/
theorem extend?_pruned (preserve : Bool) (children : List Node) :
    (derivation : Derivation) →
      (derivation.extend? preserve children).map (fun extended => Node.prunedAll extended.reverse) =
        derivation.node?.map fun node => Node.prunedAll (children.reverse ++ [node])
  | .text raw => by
      unfold extend? node?
      split
      · case _ blank =>
          rw [decode?_blank blank, Option.map_some, Option.map_some, Option.map_some,
            Node.prunedAll_addBlank, Node.prunedAll_append, Node.prunedAll_blank, List.append_nil]
          simpa [Build.isBlankNode] using blank
      · simp [Function.comp_def]
  | .verbatim content => by
      unfold extend? node?
      split
      · case _ blank =>
          rw [Option.map_some, Option.map_some,
            Node.prunedAll_addBlank, Node.prunedAll_append, Node.prunedAll_blank, List.append_nil]
          simpa [Build.isBlankNode] using blank
      · simp
  | .selfClosed tag attributes => by simp [extend?, node?]
  | .pair tag attributes content => by
      have inner := extendAll?_pruned preserve [] content
      simp only [extend?, node?, Option.map_map, Function.comp_def, List.reverse_cons,
        Node.prunedAll_append]
      cases built : extendAll? preserve [] content with
      | none =>
          cases derived : nodes? content with
          | none => rfl
          | some nodes => simp [built, derived] at inner
      | some extended =>
          cases derived : nodes? content with
          | none => simp [built, derived] at inner
          | some nodes =>
              simp only [built, derived, Option.map_some, Option.some.injEq, List.reverse_nil,
                List.nil_append] at inner
              simp [Node.prunedAll, Build.isBlankNode, Node.pruned, Node.prunedAll_closed, inner]

theorem extendAll?_pruned (preserve : Bool) (children : List Node) :
    (derivations : List Derivation) →
      (extendAll? preserve children derivations).map
          (fun extended => Node.prunedAll extended.reverse) =
        (nodes? derivations).map fun nodes => Node.prunedAll (children.reverse ++ nodes)
  | [] => by simp [extendAll?, nodes?]
  | first :: others => by
      have head := extend?_pruned preserve children first
      simp only [extendAll?, nodes?, Option.bind_eq_bind, Option.pure_def]
      cases built : first.extend? preserve children with
      | none =>
          cases derived : first.node? with
          | none => rfl
          | some node => simp [built, derived] at head
      | some extended =>
          cases derived : first.node? with
          | none => simp [built, derived] at head
          | some node =>
              simp only [built, derived, Option.map_some, Option.some.injEq] at head
              have tail := extendAll?_pruned preserve extended others
              simp only [Option.bind_some, tail]
              cases nodes? others with
              | none => rfl
              | some nodes =>
                  have joined : Node.prunedAll (extended.reverse ++ nodes) =
                      Node.prunedAll (children.reverse ++ node :: nodes) := by
                    rw [Node.prunedAll_append, head, ← Node.prunedAll_append, List.append_assoc,
                      List.singleton_append]
                  simp [joined]

end

/-- A derived element is no blank text. -/
theorem isBlankNode_node? {root : Derivation} {node : Node} (element : root.isElement = true)
    (derived : root.node? = some node) : Build.isBlankNode node = false := by
  cases root with
  | text raw => contradiction
  | verbatim content => contradiction
  | selfClosed tag attributes =>
      obtain rfl := Option.some.inj derived
      rfl
  | pair tag attributes content =>
      obtain ⟨nodes, -, rfl⟩ := Option.map_eq_some_iff.mp derived
      rfl

/-- Apart from blank texts, the element that is built is the node that is derived. -/
theorem element?_pruned {preserve : Bool} {root : Derivation} {built : Element}
    (found : root.element? preserve = some built) :
    ∃ node, root.node? = some node ∧ built.toNode.pruned = node.pruned := by
  have element : root.isElement = true := by
    cases root with
    | text raw => contradiction
    | verbatim content => contradiction
    | selfClosed tag attributes => rfl
    | pair tag attributes content => rfl
  have grown := extend?_pruned preserve [] root
  rw [extend?_element preserve [] element, found] at grown
  cases derived : root.node? with
  | none => simp [derived] at grown
  | some node =>
      refine ⟨node, rfl, ?_⟩
      simp only [derived, Option.map_some, List.reverse_singleton, List.reverse_nil,
        List.nil_append, Option.some.injEq] at grown
      rw [Node.prunedAll_visible (isBlankNode_node? element derived),
        Node.prunedAll_visible rfl] at grown
      exact (List.cons.inj grown).1

end Derivation

namespace Build

theorem isBlankNode_text (content : List Char) :
    isBlankNode (.text (String.ofList content)) = isBlankText content := by
  rw [isBlankNode, String.toList_ofList]

/-- A closed element has no other children than the open one. -/
theorem mem_of_mem_closed {children : List Node} {child : Node}
    (member : child ∈ closed children) : child ∈ children := by
  cases children with
  | nil => exact member
  | cons last others =>
      simp only [closed] at member
      split at member
      · exact List.mem_cons_of_mem last (List.mem_reverse.mp member)
      · exact List.mem_reverse.mp member

/-- Without a blank node, closing an element keeps all its children. -/
theorem closed_visible {children : List Node}
    (visible : ∀ node ∈ children, isBlankNode node = false) :
    closed children = children.reverse := by
  cases children with
  | nil => rfl
  | cons last others => simp [closed, visible last List.mem_cons_self]

/-- A blank text adds at most a space. -/
theorem mem_of_mem_addBlank {preserve : Bool} {children : List Node} {child : Node}
    (member : child ∈ addBlank preserve children) : child = .text " " ∨ child ∈ children := by
  cases children with
  | nil => exact .inr member
  | cons last others =>
      simp only [addBlank] at member
      split at member
      · exact List.mem_cons.mp member
      · exact .inr member

/-- A run takes one step for each event and stops at the first error. -/
def run (preserve : Bool) (build : Build) (events : List Event) : Except Error Build :=
  events.foldlM (step preserve) build

@[simp] theorem run_nil (preserve : Bool) (build : Build) : run preserve build [] = .ok build := rfl

theorem run_cons (preserve : Bool) (build : Build) (event : Event) (events : List Event) :
    run preserve build (event :: events) =
      (step preserve build event).bind fun next => run preserve next events := rfl

/-- A run that succeeds takes its first step. -/
theorem run_cons_eq_ok_iff {preserve : Bool} {build next : Build} {event : Event}
    {events : List Event} :
    run preserve build (event :: events) = .ok next ↔
      ∃ middle, step preserve build event = .ok middle ∧ run preserve middle events = .ok next := by
  rw [run_cons]
  cases step preserve build event <;> simp [Except.bind]

/-- A run over two texts of events is a run over the second after a run over the first. -/
theorem run_append (preserve : Bool) (build : Build) (first second : List Event) :
    run preserve build (first ++ second) =
      (run preserve build first).bind fun next => run preserve next second :=
  List.foldlM_append

/-- The innermost element takes the children that could be built. -/
def resumed (frame : Frame) (outer : List Frame) (root : Option Element) :
    Option (List Node) → Except Error Build
  | some children => .ok ⟨⟨frame.head, children⟩ :: outer, root⟩
  | none => .error .oversizedNumeral

mutual

/-- The events of a derivation extend the innermost element and nothing else. -/
theorem run_events (preserve : Bool) (frame : Frame) (outer : List Frame) (root : Option Element) :
    (derivation : Derivation) →
      run preserve ⟨frame :: outer, root⟩ derivation.events =
        resumed frame outer root (derivation.extend? preserve frame.children)
  | .text raw => by
      simp only [Derivation.events, run_cons, step, addText, Derivation.extend?]
      split
      · rfl
      · cases CharacterReference.decode? raw with
        | none => rfl
        | some content => rfl
  | .verbatim content => by
      simp only [Derivation.events, run_cons, step, addText, Derivation.extend?]
      split <;> rfl
  | .selfClosed tag attributes => rfl
  | .pair tag attributes content => by
      have inner := run_eventsOf preserve ⟨Head.ofAttributes tag attributes, []⟩ (frame :: outer)
        root content
      have opened : step preserve ⟨frame :: outer, root⟩ (.startTag tag attributes false) =
          .ok ⟨⟨Head.ofAttributes tag attributes, []⟩ :: frame :: outer, root⟩ := rfl
      rw [Derivation.events, run_cons, opened, Except.bind, run_append, inner, Derivation.extend?]
      cases Derivation.extendAll? preserve [] content with
      | none => rfl
      | some children =>
          have closed : step preserve
              ⟨⟨Head.ofAttributes tag attributes, children⟩ :: frame :: outer, root⟩ (.endTag tag) =
              .ok ⟨⟨frame.head, .element (Head.ofAttributes tag attributes) (closed children) ::
                frame.children⟩ :: outer, root⟩ := by
            simp [step, closeElement, Head.ofAttributes, attach, Element.toNode]
          simp only [resumed, Except.bind, run_cons, closed, Option.map_some]
          rfl

theorem run_eventsOf (preserve : Bool) (frame : Frame) (outer : List Frame)
    (root : Option Element) :
    (derivations : List Derivation) →
      run preserve ⟨frame :: outer, root⟩ (Derivation.eventsOf derivations) =
        resumed frame outer root (Derivation.extendAll? preserve frame.children derivations)
  | [] => rfl
  | first :: others => by
      rw [Derivation.eventsOf, run_append, run_events preserve frame outer root first,
        Derivation.extendAll?]
      cases first.extend? preserve frame.children with
      | none => rfl
      | some children => exact run_eventsOf preserve ⟨frame.head, children⟩ outer root others

end

/-- Blank events outside of all elements change nothing. -/
theorem run_blank (preserve : Bool) (root : Option Element) {events : List Event}
    (blank : ∀ event ∈ events, event.isBlank = true) :
    run preserve ⟨[], root⟩ events = .ok ⟨[], root⟩ := by
  induction events with
  | nil => rfl
  | cons event events inductionHypothesis =>
      have first : step preserve ⟨[], root⟩ event = .ok ⟨[], root⟩ := by
        have visible := blank event List.mem_cons_self
        cases event with
        | text raw => simpa [step, addText, Event.isBlank] using visible
        | verbatim content => simpa [step, addText, Event.isBlank] using visible
        | skipped => contradiction
        | startTag tag attributes selfClosed => contradiction
        | endTag tag => contradiction
      rw [run_cons, first]
      exact inductionHypothesis fun event member => blank event (List.mem_cons_of_mem _ member)

/-- The first element outside of all elements becomes the root. -/
theorem run_root (preserve : Bool) {root : Derivation} (element : root.isElement = true) :
    run preserve empty root.events =
      match root.element? preserve with
      | some built => .ok ⟨[], some built⟩
      | none => .error .oversizedNumeral := by
  cases root with
  | text raw => contradiction
  | verbatim content => contradiction
  | selfClosed tag attributes => rfl
  | pair tag attributes content =>
      have inner := run_eventsOf preserve ⟨Head.ofAttributes tag attributes, []⟩ [] none content
      have opened : step preserve empty (.startTag tag attributes false) =
          .ok ⟨[⟨Head.ofAttributes tag attributes, []⟩], none⟩ := rfl
      rw [Derivation.events, run_cons, opened, Except.bind, run_append, inner, Derivation.element?]
      cases Derivation.extendAll? preserve [] content with
      | none => rfl
      | some children =>
          have closed : step preserve
              ⟨[⟨Head.ofAttributes tag attributes, children⟩], none⟩ (.endTag tag) =
              .ok ⟨[], some ⟨Head.ofAttributes tag attributes, closed children⟩⟩ := by
            simp [step, closeElement, Head.ofAttributes, attach]
          simp only [resumed, Except.bind, run_cons, closed, Option.map_some]
          rfl

/-- A run over a document ends with its element, unless a text cannot be decoded. -/
theorem run_document (preserve : Bool) {events : List Event} {root : Derivation}
    (document : IsDocument events root) :
    run preserve empty events =
      match root.element? preserve with
      | some built => .ok ⟨[], some built⟩
      | none => .error .oversizedNumeral := by
  obtain ⟨element, before, after, rfl, blankBefore, blankAfter⟩ := document
  have front : run preserve empty before = .ok empty := run_blank preserve none blankBefore
  rw [List.append_assoc, run_append, front, Except.bind, run_append, run_root preserve element]
  cases root.element? preserve with
  | none => rfl
  | some built => exact run_blank preserve (some built) blankAfter

end Build
end SvgComponent.Markup
