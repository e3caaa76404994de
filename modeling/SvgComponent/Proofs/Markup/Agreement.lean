/-
This file shows that only blank texts depend on whether blank texts are preserved. Two runs over the
same events agree up to blank texts after every step.
-/

import SvgComponent.Proofs.Markup.Acceptance

namespace SvgComponent.Markup

open Text

/-- An element without the blank texts below it. -/
def Element.pruned (element : Element) : Element :=
  ⟨element.head, Node.prunedAll element.children⟩

namespace Node

theorem prunedAll_cons (node : Node) (nodes : List Node) :
    prunedAll (node :: nodes) = prunedAll [node] ++ prunedAll nodes :=
  prunedAll_append [node] nodes

theorem prunedAll_reverse (nodes : List Node) :
    prunedAll nodes.reverse = (prunedAll nodes).reverse := by
  induction nodes with
  | nil => rfl
  | cons node nodes inductionHypothesis =>
      rw [List.reverse_cons, prunedAll_append, inductionHypothesis, prunedAll_cons node nodes,
        List.reverse_append]
      simp only [prunedAll]
      split <;> rfl

theorem prunedAll_element (element : Element) :
    prunedAll [element.toNode] = [element.pruned.toNode] := by
  have visible : Build.isBlankNode element.toNode = false := rfl
  rw [prunedAll_visible visible, Element.toNode, pruned]
  rfl

/-- No blank text is left among pruned nodes. -/
theorem visible_prunedAll (nodes : List Node) :
    ∀ node ∈ prunedAll nodes, Build.isBlankNode node = false := by
  induction nodes with
  | nil => exact nofun
  | cons node nodes inductionHypothesis =>
      simp only [prunedAll]
      split
      · exact inductionHypothesis
      · case _ visible =>
          refine List.forall_mem_cons.mpr ⟨?_, inductionHypothesis⟩
          cases node with
          | text content => simpa [pruned, Build.isBlankNode] using visible
          | element head children => rfl
          | bare => rfl

end Node

/-- An open element without the blank texts below it. -/
def Frame.pruned (frame : Frame) : Frame :=
  ⟨frame.head, Node.prunedAll frame.children⟩

namespace Build

/-- What has been built, without blank texts. -/
def pruned (build : Build) : Build :=
  ⟨build.frames.map Frame.pruned, build.root.map Element.pruned⟩

theorem pruned_attach (frames : List Frame) (root : Option Element) (element : Element) :
    (attach frames root element).pruned =
      attach (frames.map Frame.pruned) (root.map Element.pruned) element.pruned := by
  cases frames with
  | nil => rfl
  | cons frame outer =>
      simp only [attach, pruned, List.map_cons, Frame.pruned]
      rw [Node.prunedAll_cons, Node.prunedAll_element]
      rfl

/-- A start tag has the same effect with and without blank texts. -/
theorem openElement_pruned (build : Build) (tag : String) (attributes : List (String × String))
    (selfClosed : Bool) :
    (build.openElement tag attributes selfClosed).map pruned =
      build.pruned.openElement tag attributes selfClosed := by
  obtain ⟨frames, root⟩ := build
  simp only [openElement, pruned, List.isEmpty_map, Option.isSome_map]
  split
  · rfl
  · split
    · exact congrArg Except.ok (pruned_attach frames root _)
    · rfl

/-- An end tag has the same effect with and without blank texts. -/
theorem closeElement_pruned (build : Build) (tag : String) :
    (build.closeElement tag).map pruned = build.pruned.closeElement tag := by
  obtain ⟨frames, root⟩ := build
  cases frames with
  | nil => rfl
  | cons frame outer =>
      simp only [closeElement, pruned, List.map_cons, Frame.pruned]
      split
      · have children : closed (Node.prunedAll frame.children) =
            Node.prunedAll (closed frame.children) := by
          rw [closed_visible (Node.visible_prunedAll frame.children), Node.prunedAll_closed,
            Node.prunedAll_reverse]
        rw [children]
        exact congrArg Except.ok (pruned_attach outer root _)
      · rfl

/-- A text changes two builds alike if they agree apart from blank texts, whether blank texts are
preserved or not. -/
theorem addText_agrees (preserve other : Bool) {first second : Build}
    (same : first.pruned = second.pruned) (raw : List Char)
    (decode? : List Char → Option (List Char)) :
    (first.addText preserve raw decode?).map pruned =
      (second.addText other raw decode?).map pruned := by
  obtain ⟨frames, root⟩ := first
  obtain ⟨others, otherRoot⟩ := second
  simp only [pruned, Build.mk.injEq] at same
  obtain ⟨sameFrames, sameRoot⟩ := same
  cases frames with
  | nil =>
      obtain rfl := List.map_eq_nil_iff.mp sameFrames.symm
      simp only [addText]
      split
      · simp [Except.map, pruned, sameRoot]
      · rfl
  | cons frame outer =>
      obtain ⟨frame', outer', rfl, here, rest⟩ := List.map_eq_cons_iff.mp sameFrames.symm
      simp only [Frame.pruned, Frame.mk.injEq] at here
      obtain ⟨head, children⟩ := here
      simp only [addText]
      split
      · have blank (flag : Bool) (nodes : List Node) :
            Node.prunedAll (addBlank flag nodes) = Node.prunedAll nodes := by
          rw [← List.reverse_inj, ← Node.prunedAll_reverse, Node.prunedAll_addBlank,
            Node.prunedAll_reverse]
        simp [Except.map, pruned, Frame.pruned, blank, head, children, rest, sameRoot]
      · cases decode? raw with
        | none => rfl
        | some content =>
            simp only [Except.map, pruned, List.map_cons, Frame.pruned, Except.ok.injEq,
              Build.mk.injEq]
            rw [Node.prunedAll_cons _ frame.children, Node.prunedAll_cons _ frame'.children,
              children, head, rest, sameRoot]
            exact ⟨rfl, rfl⟩

/-- A step keeps two builds in agreement. -/
theorem step_agrees (preserve other : Bool) {first second : Build}
    (same : first.pruned = second.pruned) (event : Event) :
    (step preserve first event).map pruned = (step other second event).map pruned := by
  cases event with
  | skipped => exact congrArg Except.ok same
  | startTag tag attributes selfClosed =>
      simp only [step]
      rw [openElement_pruned, openElement_pruned, same]
  | endTag tag =>
      simp only [step]
      rw [closeElement_pruned, closeElement_pruned, same]
  | text raw => exact addText_agrees preserve other same raw CharacterReference.decode?
  | verbatim content => exact addText_agrees preserve other same content some

/-- Computations that go on alike from builds in agreement have results in agreement, or the same
error. -/
theorem bind_agrees {α β : Type} {view : α → β} {first second : Except Error Build}
    (same : first.map pruned = second.map pruned) {next other : Build → Except Error α}
    (alike : ∀ left right, left.pruned = right.pruned →
      (next left).map view = (other right).map view) :
    (first.bind next).map view = (second.bind other).map view := by
  cases first with
  | error error =>
      cases second with
      | error fault => exact congrArg Except.error (Except.error.inj same)
      | ok right => contradiction
  | ok left =>
      cases second with
      | error fault => contradiction
      | ok right => exact alike left right (Except.ok.inj same)

/-- A run keeps two builds in agreement. -/
theorem run_agrees (preserve other : Bool) {first second : Build}
    (same : first.pruned = second.pruned) (events : List Event) :
    (run preserve first events).map pruned = (run other second events).map pruned := by
  induction events generalizing first second with
  | nil => exact congrArg Except.ok same
  | cons event events inductionHypothesis =>
      rw [run_cons, run_cons]
      exact bind_agrees (step_agrees preserve other same event) fun _ _ => inductionHypothesis

/-- Builds in agreement end at roots in agreement, or at the same error. -/
theorem finish_agrees {first second : Build} (same : first.pruned = second.pruned) :
    first.finish.map Element.pruned = second.finish.map Element.pruned := by
  obtain ⟨frames, root⟩ := first
  obtain ⟨others, otherRoot⟩ := second
  simp only [pruned, Build.mk.injEq] at same
  obtain ⟨sameFrames, sameRoot⟩ := same
  cases frames with
  | nil =>
      obtain rfl := List.map_eq_nil_iff.mp sameFrames.symm
      cases root with
      | none =>
          obtain rfl := Option.map_eq_none_iff.mp sameRoot.symm
          rfl
      | some root =>
          obtain ⟨reached, rfl, agrees⟩ := Option.map_eq_some_iff.mp sameRoot.symm
          exact congrArg Except.ok agrees.symm
  | cons frame outer =>
      obtain ⟨frame', outer', rfl, here, -⟩ := List.map_eq_cons_iff.mp sameFrames.symm
      simp only [Frame.pruned, Frame.mk.injEq] at here
      simp only [finish, Except.map, here.1]

end Build

/-- Whether blank texts are preserved matters neither to the error nor to anything but blank
texts. -/
theorem compile_pruned_eq (preserve other : Bool) (markup : String) :
    (compile preserve markup).map Element.pruned = (compile other markup).map Element.pruned := by
  have start : Build.empty.pruned = Build.empty.pruned := rfl
  rw [compile_eq, compile_eq]
  refine Build.bind_agrees (Build.run_agrees preserve other start _) fun left right same => ?_
  cases (Token.tokens markup.toList).2 with
  | some error => rfl
  | none => exact Build.finish_agrees same

/-- With and without preserved blank texts, a markup reports the same error or has trees that differ
in blank texts only. The error is one of the markup, unless an oversized numeral is reached. -/
theorem compile_agrees (markup : String) :
    (¬ ReachesOversizedNumeral markup ∧
      ((∃ error, error ≠ .oversizedNumeral ∧ compile true markup = .error error ∧
          compile false markup = .error error) ∨
        ∃ preserved dropped, compile true markup = .ok preserved ∧
          compile false markup = .ok dropped ∧ preserved.pruned = dropped.pruned)) ∨
      (ReachesOversizedNumeral markup ∧ compile true markup = .error .oversizedNumeral ∧
        compile false markup = .error .oversizedNumeral) := by
  have same := compile_pruned_eq true false markup
  have oversized := compile_oversized_iff true markup
  cases first : compile true markup with
  | error error =>
      cases second : compile false markup with
      | ok dropped => simp [first, second, Except.map] at same
      | error fault =>
          obtain rfl : error = fault := by simpa [first, second, Except.map] using same
          rw [first, Except.error.injEq] at oversized
          by_cases reached : error = .oversizedNumeral
          · exact .inr ⟨oversized.mp reached, congrArg _ reached, congrArg _ reached⟩
          · exact .inl ⟨oversized.not.mp reached, .inl ⟨error, reached, rfl, rfl⟩⟩
  | ok preserved =>
      cases second : compile false markup with
      | error fault => simp [first, second, Except.map] at same
      | ok dropped =>
          have agrees : preserved.pruned = dropped.pruned := by
            simpa [first, second, Except.map] using same
          have unreached : ¬ ReachesOversizedNumeral markup := by
            rw [← oversized, first]
            simp
          exact .inl ⟨unreached, .inr ⟨preserved, dropped, rfl, rfl, agrees⟩⟩

end SvgComponent.Markup
