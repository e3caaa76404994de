/-
This file states what holds of every element in a tree. A property of all compiled elements follows
from what each contribution does to the children of an open element.
-/

import SvgComponent.Proofs.Markup.Acceptance

namespace SvgComponent.Markup

open Text

/-- An element stands in a node if it is the node or stands in one of its children. -/
inductive Node.Contains : Node → Element → Prop
  | self (head : Head) (children : List Node) : Contains (.element head children) ⟨head, children⟩
  | inside (head : Head) {children : List Node} {child : Node} {inner : Element}
      (member : child ∈ children) (within : child.Contains inner) :
      Contains (.element head children) inner

/-- The property holds of all elements that stand in the node. -/
def Node.Everywhere (holds : Element → Prop) (node : Node) : Prop :=
  ∀ element, node.Contains element → holds element

/-- No element stands in a text. -/
theorem Node.everywhere_text (holds : Element → Prop) (content : String) :
    (Node.text content).Everywhere holds :=
  nofun

theorem Node.everywhere_element (holds : Element → Prop) (element : Element) :
    element.toNode.Everywhere holds ↔
      holds element ∧ ∀ child ∈ element.children, child.Everywhere holds := by
  constructor
  · intro everywhere
    refine ⟨everywhere element (.self _ _), ?_⟩
    intro child member inner within
    exact everywhere inner (.inside _ member within)
  · rintro ⟨here, below⟩ inner (⟨_, _⟩ | ⟨_, member, within⟩)
    · exact here
    · exact below _ member inner within

/-- The markup of a compiled root leaves no element open. -/
theorem run_of_compile {preserve : Bool} {markup : String} {root : Element}
    (compiled : compile preserve markup = .ok root) :
    Build.run preserve Build.empty (contributions markup) = .ok ⟨[], some root⟩ := by
  rw [compile_eq] at compiled
  cases taken : Build.run preserve Build.empty (contributions markup) with
  | error error => simp [taken, Except.bind] at compiled
  | ok build =>
      simp only [taken, Except.bind] at compiled
      split at compiled
      · contradiction
      · obtain ⟨frames, found⟩ := build
        unfold Build.finish at compiled
        split at compiled
        · contradiction
        · contradiction
        · case _ closed present =>
            obtain rfl : frames = [] := closed
            obtain rfl : found = some root := present.trans (congrArg some (Except.ok.inj compiled))
            rfl

/-- An open element has an admitted start tag, and its children have the properties. -/
structure Frame.Satisfies (admitted : Event → Prop) (opened : List Node → Prop)
    (holds : Element → Prop) (frame : Frame) : Prop where
  started : ∃ tag attributes, admitted (.startTag tag attributes false) ∧
    frame.head = Head.ofAttributes tag attributes
  opened : opened frame.children
  inside : ∀ child ∈ frame.children, child.Everywhere holds

namespace Build

/-- Every admitted contribution keeps a property of the children of an open element, which are
listed from the last one on. If the property holds when an element is closed, the element holds
another. -/
structure IsKept (preserve : Bool) (admitted : Event → Prop) (opened : List Node → Prop)
    (holds : Element → Prop) : Prop where
  empty : opened []
  blank {children : List Node} (before : opened children) : opened (addBlank preserve children)
  text {children : List Node} {raw content : List Char} (allowed : admitted (.text raw))
    (visible : isBlankText raw = false) (decoded : CharacterReference.decode? raw = some content)
    (before : opened children) : opened (.text (String.ofList content) :: children)
  verbatim {children : List Node} {content : List Char} (visible : isBlankText content = false)
    (before : opened children) : opened (.text (String.ofList content) :: children)
  element {children : List Node} (inner : Element) (before : opened children) :
    opened (inner.toNode :: children)
  close {children : List Node} {tag : String} {attributes : List (String × String)}
    {selfClosed : Bool} (allowed : admitted (.startTag tag attributes selfClosed))
    (before : opened children) : holds ⟨Head.ofAttributes tag attributes, closed children⟩

variable {preserve : Bool} {admitted : Event → Prop} {opened : List Node → Prop}
  {holds : Element → Prop}

/-- All open elements satisfy the properties, and so does the root once it is closed. -/
structure Satisfies (admitted : Event → Prop) (opened : List Node → Prop)
    (holds : Element → Prop) (build : Build) : Prop where
  frames : ∀ frame ∈ build.frames, frame.Satisfies admitted opened holds
  root : ∀ root, build.root = some root → root.toNode.Everywhere holds

namespace IsKept

theorem satisfies_empty : Build.empty.Satisfies admitted opened holds :=
  ⟨nofun, nofun⟩

/-- A child that keeps the property of the children may be added to an open element. -/
theorem add {frame : Frame} {child : Node} (satisfied : frame.Satisfies admitted opened holds)
    (keeps : opened frame.children → opened (child :: frame.children))
    (inside : child.Everywhere holds) :
    { frame with children := child :: frame.children }.Satisfies admitted opened holds :=
  ⟨satisfied.started, keeps satisfied.opened, List.forall_mem_cons.mpr ⟨inside, satisfied.inside⟩⟩

/-- What is done to the innermost element leaves the other elements as they are. -/
theorem innermost {frame next : Frame} {outer : List Frame} {root : Option Element}
    (satisfied : Satisfies admitted opened holds ⟨frame :: outer, root⟩)
    (changed : frame.Satisfies admitted opened holds → next.Satisfies admitted opened holds) :
    Satisfies admitted opened holds ⟨next :: outer, root⟩ := by
  obtain ⟨here, others⟩ := List.forall_mem_cons.mp satisfied.frames
  exact ⟨List.forall_mem_cons.mpr ⟨changed here, others⟩, satisfied.root⟩

variable (kept : IsKept preserve admitted opened holds)

include kept

theorem attach {frames : List Frame} {root : Option Element} {element : Element}
    (satisfied : Satisfies admitted opened holds ⟨frames, root⟩)
    (inside : element.toNode.Everywhere holds) :
    (Build.attach frames root element).Satisfies admitted opened holds := by
  cases frames with
  | nil =>
      refine ⟨nofun, ?_⟩
      rintro _ ⟨⟩
      exact inside
  | cons frame outer => exact innermost satisfied fun here => add here (kept.element element) inside

theorem openElement {build next : Build} {tag : String} {attributes : List (String × String)}
    {selfClosed : Bool} (satisfied : build.Satisfies admitted opened holds)
    (allowed : admitted (.startTag tag attributes selfClosed))
    (taken : build.openElement tag attributes selfClosed = .ok next) :
    next.Satisfies admitted opened holds := by
  simp only [Build.openElement] at taken
  split at taken
  · contradiction
  · cases selfClosed with
    | true =>
        obtain rfl := Except.ok.inj taken
        have whole : holds ⟨Head.ofAttributes tag attributes, []⟩ := kept.close allowed kept.empty
        apply kept.attach satisfied
        exact (Node.everywhere_element _ _).mpr ⟨whole, List.forall_mem_nil _⟩
    | false =>
        obtain rfl := Except.ok.inj taken
        refine ⟨List.forall_mem_cons.mpr ⟨?_, satisfied.frames⟩, satisfied.root⟩
        exact ⟨⟨tag, attributes, allowed, rfl⟩, kept.empty, List.forall_mem_nil _⟩

theorem closeElement {build next : Build} {tag : String}
    (satisfied : build.Satisfies admitted opened holds)
    (taken : build.closeElement tag = .ok next) : next.Satisfies admitted opened holds := by
  obtain ⟨frames, root⟩ := build
  cases frames with
  | nil => contradiction
  | cons frame outer =>
      simp only [Build.closeElement] at taken
      split at taken
      · obtain rfl := Except.ok.inj taken
        obtain ⟨here, others⟩ := List.forall_mem_cons.mp satisfied.frames
        obtain ⟨name, attributes, allowed, started⟩ := here.started
        have whole : holds ⟨frame.head, closed frame.children⟩ := by
          rw [started]
          exact kept.close allowed here.opened
        apply kept.attach ⟨others, satisfied.root⟩
        refine (Node.everywhere_element _ _).mpr ⟨whole, ?_⟩
        intro child member
        exact here.inside child (mem_of_mem_closed member)
      · contradiction

theorem addText {build next : Build} {raw : List Char} {decode? : List Char → Option (List Char)}
    (satisfied : build.Satisfies admitted opened holds)
    (visible : ∀ {children content}, isBlankText raw = false → decode? raw = some content →
      opened children → opened (.text (String.ofList content) :: children))
    (taken : build.addText preserve raw decode? = .ok next) :
    next.Satisfies admitted opened holds := by
  obtain ⟨frames, root⟩ := build
  cases frames with
  | nil =>
      simp only [Build.addText] at taken
      split at taken
      · obtain rfl := Except.ok.inj taken
        exact satisfied
      · contradiction
  | cons frame outer =>
      simp only [Build.addText] at taken
      split at taken
      · obtain rfl := Except.ok.inj taken
        refine innermost satisfied fun here => ⟨here.started, kept.blank here.opened, ?_⟩
        intro child member
        rcases mem_of_mem_addBlank member with rfl | known
        · exact Node.everywhere_text holds " "
        · exact here.inside child known
      · case _ shown =>
          split at taken
          · contradiction
          · case _ content decoded =>
              obtain rfl := Except.ok.inj taken
              have keeps := @visible frame.children content (by simpa using shown) decoded
              exact innermost satisfied fun here =>
                add here keeps (Node.everywhere_text holds (String.ofList content))

/-- Every step with an admitted event keeps the properties. -/
theorem step {build next : Build} {event : Event}
    (satisfied : build.Satisfies admitted opened holds) (allowed : admitted event)
    (taken : Build.step preserve build event = .ok next) :
    next.Satisfies admitted opened holds := by
  cases event with
  | skipped =>
      obtain rfl := Except.ok.inj taken
      exact satisfied
  | startTag tag attributes selfClosed => exact kept.openElement satisfied allowed taken
  | endTag tag => exact kept.closeElement satisfied taken
  | text raw => exact kept.addText satisfied (kept.text allowed) taken
  | verbatim content =>
      have added : build.addText preserve content some = .ok next := taken
      refine kept.addText satisfied ?_ added
      rintro children _ shown ⟨⟩
      exact kept.verbatim shown

/-- Every run over admitted events keeps the properties. -/
theorem run {build next : Build} {events : List Event}
    (satisfied : build.Satisfies admitted opened holds) (allowed : ∀ event ∈ events, admitted event)
    (taken : Build.run preserve build events = .ok next) :
    next.Satisfies admitted opened holds := by
  induction events generalizing build with
  | nil =>
      obtain rfl := Except.ok.inj taken
      exact satisfied
  | cons event events inductionHypothesis =>
      obtain ⟨here, later⟩ := List.forall_mem_cons.mp allowed
      obtain ⟨middle, first, rest⟩ := run_cons_eq_ok_iff.mp taken
      exact inductionHypothesis (kept.step satisfied here first) later rest

/-- A property that is kept holds everywhere in a compiled tree. -/
theorem compile {markup : String} {root : Element}
    (allowed : ∀ event ∈ contributions markup, admitted event)
    (compiled : Markup.compile preserve markup = .ok root) : root.toNode.Everywhere holds :=
  (kept.run satisfies_empty allowed (run_of_compile compiled)).root root rfl

end IsKept
end Build
end SvgComponent.Markup
