/-
This file shows which compiled trees hold blank texts although blank texts are dropped: whether a
text is blank is decided before its references are decoded, and again only at the end of an element.
-/

import Mathlib.Data.List.Chain
import SvgComponent.Proofs.Markup.Occurrence
import SvgComponent.Proofs.Markup.Transparency

namespace SvgComponent.Markup

open Text

/-- The references of a visible text may stand for nothing but blank characters. -/
def Event.isVeiled : Event → Bool
  | .text raw => !isBlankText raw && (CharacterReference.decode? raw).any isBlankText
  | _ => false

def Event.isEndTag : Event → Bool
  | .endTag _ => true
  | _ => false

/-- No child of the element is a blank text. -/
def Element.IsTidy (element : Element) : Prop :=
  ∀ child ∈ element.children, Build.isBlankNode child = false

/-- No node is a blank text, and neither is any node below. -/
def Node.AreTidy (nodes : List Node) : Prop :=
  ∀ node ∈ nodes, Build.isBlankNode node = false ∧ node.Everywhere Element.IsTidy

namespace Node

theorem everywhere_isTidy_iff (element : Element) :
    element.toNode.Everywhere Element.IsTidy ↔ AreTidy element.children := by
  rw [everywhere_element, Element.IsTidy, AreTidy, ← forall₂_and]

theorem areTidy_nil : AreTidy [] :=
  List.forall_mem_nil _

theorem areTidy_reverse (nodes : List Node) : AreTidy nodes.reverse ↔ AreTidy nodes := by
  simp only [AreTidy, List.mem_reverse]

theorem areTidy_element (element : Element) (nodes : List Node) :
    AreTidy (element.toNode :: nodes) ↔ AreTidy element.children ∧ AreTidy nodes := by
  have visible : Build.isBlankNode element.toNode = false := rfl
  rw [AreTidy, List.forall_mem_cons, everywhere_isTidy_iff]
  simp only [visible, true_and]
  rfl

theorem areTidy_text {content : String} (visible : Build.isBlankNode (.text content) = false)
    (nodes : List Node) : AreTidy (.text content :: nodes) ↔ AreTidy nodes := by
  rw [AreTidy, List.forall_mem_cons]
  exact and_iff_right ⟨visible, everywhere_text Element.IsTidy content⟩

end Node

namespace Build

/-- A blank text comes last among children, which are listed from the last one on. -/
def endsBlank : List Node → Bool
  | [] => false
  | last :: _ => isBlankNode last

/-- The last child of the innermost element is a blank text. -/
def isPending (build : Build) : Bool :=
  match build.frames with
  | [] => false
  | frame :: _ => endsBlank frame.children

/-- No blank text is left below the root or the open elements, apart from a pending one. -/
def IsTidy (build : Build) : Prop :=
  match build.frames with
  | [] => ∀ root, build.root = some root → Node.AreTidy root.children
  | frame :: outer =>
      Node.AreTidy (closed frame.children) ∧ ∀ around ∈ outer, Node.AreTidy around.children

theorem areTidy_iff (children : List Node) :
    Node.AreTidy children ↔ Node.AreTidy (closed children) ∧ endsBlank children = false := by
  cases children with
  | nil => simp [closed, endsBlank]
  | cons last others =>
      simp only [closed, endsBlank]
      split
      · case _ blank => simp [Node.AreTidy, blank]
      · case _ visible => rw [Node.areTidy_reverse, Bool.eq_false_iff, and_iff_left visible]

/-- All open elements are tidy if nothing is pending. -/
theorem allTidy_iff {frames : List Frame} {root : Option Element}
    (rootless : frames = [] → root = none) :
    (∀ frame ∈ frames, Node.AreTidy frame.children) ↔
      IsTidy ⟨frames, root⟩ ∧ isPending ⟨frames, root⟩ = false := by
  cases frames with
  | nil => simp [IsTidy, isPending, rootless rfl]
  | cons frame outer =>
      rw [List.forall_mem_cons, areTidy_iff, and_right_comm]
      rfl

/-- A closed element covers the children before it. -/
theorem isTidy_attach (frames : List Frame) (root : Option Element) (element : Element) :
    (attach frames root element).IsTidy ↔
      Node.AreTidy element.children ∧ ∀ frame ∈ frames, Node.AreTidy frame.children := by
  cases frames with
  | nil => simp [attach, IsTidy]
  | cons frame outer =>
      have visible : endsBlank (element.toNode :: frame.children) = false := rfl
      have covered := areTidy_iff (element.toNode :: frame.children)
      rw [visible, and_iff_left rfl, Node.areTidy_element] at covered
      simp only [attach, IsTidy]
      rw [← covered, List.forall_mem_cons, and_assoc]

theorem isPending_attach (frames : List Frame) (root : Option Element) (element : Element) :
    (attach frames root element).isPending = false := by
  cases frames <;> rfl

/-- A start tag leaves nothing pending, and covers what is pending. -/
theorem openElement_isTidy {build next : Build} {tag : String}
    {attributes : List (String × String)} {selfClosed : Bool}
    (taken : build.openElement tag attributes selfClosed = .ok next) :
    (next.IsTidy ↔ build.IsTidy ∧ build.isPending = false) ∧ next.isPending = false := by
  obtain ⟨frames, root⟩ := build
  simp only [openElement] at taken
  split at taken
  · contradiction
  · case _ allowed =>
      have rootless : frames = [] → root = none := by
        rintro rfl
        simpa using allowed
      rw [← allTidy_iff rootless]
      split at taken
      · obtain rfl := Except.ok.inj taken
        refine ⟨?_, isPending_attach _ _ _⟩
        rw [isTidy_attach]
        exact and_iff_right Node.areTidy_nil
      · obtain rfl := Except.ok.inj taken
        refine ⟨?_, rfl⟩
        exact and_iff_right Node.areTidy_nil

/-- An end tag leaves nothing pending, and drops what is pending. -/
theorem closeElement_isTidy {build next : Build} {tag : String}
    (taken : build.closeElement tag = .ok next) :
    (next.IsTidy ↔ build.IsTidy) ∧ next.isPending = false := by
  obtain ⟨frames, root⟩ := build
  cases frames with
  | nil => contradiction
  | cons frame outer =>
      simp only [closeElement] at taken
      split at taken
      · obtain rfl := Except.ok.inj taken
        exact ⟨isTidy_attach _ _ _, isPending_attach _ _ _⟩
      · contradiction

/-- A visible text covers what is pending, and is pending itself if it is decoded to a blank one. -/
theorem addText_isTidy {build next : Build} {raw : List Char}
    {decode? : List Char → Option (List Char)} (visible : isBlankText raw = false)
    (taken : build.addText false raw decode? = .ok next) :
    (next.IsTidy ↔ build.IsTidy ∧ build.isPending = false) ∧
      next.isPending = (decode? raw).any isBlankText := by
  obtain ⟨frames, root⟩ := build
  cases frames with
  | nil => simp [addText, visible] at taken
  | cons frame outer =>
      have rootless : frame :: outer = [] → root = none := by simp
      rw [← allTidy_iff rootless]
      simp only [addText, visible, Bool.false_eq_true, if_false] at taken
      split at taken
      · contradiction
      · case _ content decoded =>
          obtain rfl := Except.ok.inj taken
          refine ⟨?_, by simp [isPending, endsBlank, isBlankNode_text, decoded]⟩
          simp only [IsTidy, List.forall_mem_cons, closed]
          split
          · rw [Node.areTidy_reverse]
          · case _ shown =>
              rw [Node.areTidy_reverse, Node.areTidy_text (by simpa using shown)]

/-- A step with an event that counts keeps everything tidy, unless it covers a pending text. A text
is pending after its step exactly if it is veiled. -/
theorem step_isTidy {build next : Build} {event : Event} (counts : event.isIgnored = false)
    (taken : step false build event = .ok next) :
    (next.IsTidy ↔ build.IsTidy ∧ (build.isPending = true → event.isEndTag = true)) ∧
      next.isPending = event.isVeiled := by
  cases event with
  | skipped => contradiction
  | startTag tag attributes selfClosed =>
      obtain ⟨tidy, pending⟩ := openElement_isTidy taken
      exact ⟨by simpa [Event.isEndTag] using tidy, pending⟩
  | endTag tag =>
      obtain ⟨tidy, pending⟩ := closeElement_isTidy taken
      exact ⟨by simpa [Event.isEndTag] using tidy, pending⟩
  | text raw =>
      have visible : isBlankText raw = false := by
        simpa [Event.isIgnored, Event.isBlank] using counts
      obtain ⟨tidy, pending⟩ := addText_isTidy visible taken
      exact ⟨by simpa [Event.isEndTag] using tidy, by simpa [Event.isVeiled, visible] using pending⟩
  | verbatim content =>
      have visible : isBlankText content = false := by
        simpa [Event.isIgnored, Event.isBlank] using counts
      have added : build.addText false content some = .ok next := taken
      obtain ⟨tidy, pending⟩ := addText_isTidy visible added
      exact ⟨by simpa [Event.isEndTag] using tidy, by simpa [Event.isVeiled, visible] using pending⟩

/-- What is pending at first and every veiled text has to stand before an end tag. -/
theorem run_isTidy {build next : Build} {events : List Event}
    (count : ∀ event ∈ events, event.isIgnored = false)
    (taken : run false build events = .ok next) :
    next.IsTidy ↔ build.IsTidy ∧
      (∀ event ∈ events.head?, build.isPending = true → event.isEndTag = true) ∧
        events.IsChain fun event following =>
          event.isVeiled = true → following.isEndTag = true := by
  induction events generalizing build with
  | nil =>
      obtain rfl := Except.ok.inj taken
      simp
  | cons event events inductionHypothesis =>
      obtain ⟨here, later⟩ := List.forall_mem_cons.mp count
      obtain ⟨middle, first, rest⟩ := run_cons_eq_ok_iff.mp taken
      obtain ⟨tidy, pending⟩ := step_isTidy here first
      rw [inductionHypothesis later rest, tidy, pending, List.isChain_cons, and_assoc]
      simp

end Build

/-- Where blank texts are dropped, a compiled tree is free of them exactly if an end tag follows
every visible text that is decoded to a blank one. Skipped markup and blank texts may stand between
them. -/
theorem compile_tidy_iff {markup : String} {root : Element}
    (compiled : compile false markup = .ok root) :
    (∀ element, root.toNode.Contains element →
        ∀ child ∈ element.children, Build.isBlankNode child = false) ↔
      (visible (contributions markup)).IsChain fun event following =>
        event.isVeiled = true → following.isEndTag = true := by
  have taken := run_of_compile compiled
  rw [← Build.run_visible] at taken
  have count : ∀ event ∈ visible (contributions markup), event.isIgnored = false := by
    intro event member
    simpa [Event.counts] using (List.mem_filter.mp member).2
  have finished : Build.IsTidy ⟨[], some root⟩ ↔ Node.AreTidy root.children := by
    simp [Build.IsTidy]
  have started : Build.empty.IsTidy := by simp [Build.IsTidy, Build.empty]
  have nothing : Build.empty.isPending = false := rfl
  have tidy := Build.run_isTidy count taken
  rw [finished, nothing, ← Node.everywhere_isTidy_iff] at tidy
  exact tidy.trans (by simp [started])

/-- A veiled text is dropped before an end tag, across blank texts and skipped markup. Before a
start tag it stays, although nothing in it is visible. -/
theorem compile_tidy_iff_veiled :
    let image := Element.mk (Head.ofAttributes "svg" [])
      [.text "a", .element (Head.ofAttributes "g" []) []]
    let veiled := Element.mk (Head.ofAttributes "svg" [])
      [.text " ", .element (Head.ofAttributes "g" []) []]
    compile false "<svg>a<g>&#32;<!-- -->\n</g>&#9;</svg>" = .ok image ∧
      (∀ element, image.toNode.Contains element →
        ∀ child ∈ element.children, Build.isBlankNode child = false) ∧
      compile false "<svg>&#32;<g/></svg>" = .ok veiled ∧
      ¬ ∀ element, veiled.toNode.Contains element →
        ∀ child ∈ element.children, Build.isBlankNode child = false := by
  intro image veiled
  have imageCompiled : compile false "<svg>a<g>&#32;<!-- -->\n</g>&#9;</svg>" = .ok image := rfl
  have veiledCompiled : compile false "<svg>&#32;<g/></svg>" = .ok veiled := rfl
  refine ⟨imageCompiled, ?_, veiledCompiled, ?_⟩
  · rw [compile_tidy_iff imageCompiled]
    decide +kernel
  · rw [compile_tidy_iff veiledCompiled]
    decide +kernel

end SvgComponent.Markup
