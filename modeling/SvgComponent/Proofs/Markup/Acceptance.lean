/-
This file shows which markup is compiled: the documents of the grammar. The open elements always
stand for the part of a derivation that has been read.
-/

import SvgComponent.Proofs.Markup.Building
import SvgComponent.Proofs.Markup.Numeral

namespace SvgComponent.Markup

open Text

/-- The events open the tags, from the innermost one on, after blank texts only. -/
inductive Opened : List String → List Event → Prop
  | outside {before : List Event} (blank : ∀ event ∈ before, event.isBlank = true) :
      Opened [] before
  | inside {tags : List String} {before : List Event} (opened : Opened tags before)
      (tag : String) (attributes : List (String × String)) (content : List Derivation) :
      Opened (tag :: tags)
        (before ++ .startTag tag attributes false :: Derivation.eventsOf content)

theorem Derivation.eventsOf_append (first second : List Derivation) :
    eventsOf (first ++ second) = eventsOf first ++ eventsOf second := by
  induction first with
  | nil => rfl
  | cons derivation derivations inductionHypothesis =>
      simp [eventsOf, inductionHypothesis]

namespace Opened

/-- Inside an element every derivation may follow. -/
theorem append {tag : String} {tags : List String} {events : List Event}
    (opened : Opened (tag :: tags) events) (derivation : Derivation) :
    Opened (tag :: tags) (events ++ derivation.events) := by
  cases opened with
  | inside before tag attributes content =>
      have more := inside before tag attributes (content ++ [derivation])
      rw [Derivation.eventsOf_append] at more
      simpa [Derivation.eventsOf] using more

/-- Outside every element a blank text may follow. -/
theorem append_blank {events : List Event} (opened : Opened [] events) {event : Event}
    (blank : event.isBlank = true) : Opened [] (events ++ [event]) := by
  cases opened with
  | outside before =>
      exact .outside (List.forall_mem_append.mpr ⟨before, by simpa using blank⟩)

/-- A start tag opens an element. -/
theorem start {tags : List String} {events : List Event} (opened : Opened tags events)
    (tag : String) (attributes : List (String × String)) :
    Opened (tag :: tags) (events ++ [.startTag tag attributes false]) :=
  inside opened tag attributes []

/-- An end tag closes the innermost element. -/
theorem close {tag outer : String} {tags : List String} {events : List Event}
    (opened : Opened (tag :: outer :: tags) events) :
    Opened (outer :: tags) (events ++ [.endTag tag]) := by
  cases opened with
  | inside before tag attributes content =>
      have closed := before.append (.pair tag attributes content)
      simpa [Derivation.events] using closed

/-- The end tag of the outermost element completes a document. -/
theorem close_root {tag : String} {events : List Event} (opened : Opened [tag] events) :
    ∃ root, IsDocument (events ++ [.endTag tag]) root := by
  cases opened with
  | inside outside tag attributes content =>
      cases outside with
      | outside blank =>
          exact ⟨.pair tag attributes content, rfl, _, [],
            by simp [Derivation.events], blank, by simp⟩

/-- Open elements can be closed. -/
theorem isViable {tags : List String} {events : List Event} (opened : Opened tags events) :
    IsViable events := by
  induction tags generalizing events with
  | nil =>
      cases opened with
      | outside blank =>
          exact ⟨[.startTag "" [] true], .selfClosed "" [], rfl, events, [],
            by simp [Derivation.events], blank, by simp⟩
  | cons tag tags inductionHypothesis =>
      cases tags with
      | nil =>
          obtain ⟨root, document⟩ := opened.close_root
          exact ⟨[.endTag tag], root, document⟩
      | cons outer tags =>
          obtain ⟨more, root, document⟩ := inductionHypothesis opened.close
          exact ⟨.endTag tag :: more, root, by simpa using document⟩

end Opened

/-- A document stays one if a blank text follows. -/
theorem IsDocument.append_blank {events : List Event} {root : Derivation}
    (document : IsDocument events root) {event : Event} (blank : event.isBlank = true) :
    IsDocument (events ++ [event]) root := by
  obtain ⟨element, before, after, rfl, blankBefore, blankAfter⟩ := document
  refine ⟨element, before, after ++ [event], by simp, blankBefore, ?_⟩
  exact List.forall_mem_append.mpr ⟨blankAfter, by simpa using blank⟩

namespace Build

/-- What has been read is a document with its root, or the beginning of one without a root. -/
def Reads (build : Build) (events : List Event) : Prop :=
  (build.root = none ∧ Opened (build.frames.map fun frame => frame.head.tag) events) ∨
    (build.frames = [] ∧ build.root.isSome = true ∧ ∃ root, IsDocument events root)

theorem reads_empty : Reads empty [] :=
  .inl ⟨rfl, .outside (by simp)⟩

theorem Reads.isViable {build : Build} {events : List Event} (reads : Reads build events) :
    IsViable events := by
  rcases reads with ⟨-, opened⟩ | ⟨-, -, root, document⟩
  · exact opened.isViable
  · exact ⟨[], root, by simpa using document⟩

/-- A completed element is read inside the element around it, or else completes a document. -/
theorem Reads.attach {frames : List Frame} (element : Element) {events : List Event}
    (inside : frames ≠ [] → Opened (frames.map fun frame => frame.head.tag) events)
    (outside : frames = [] → ∃ root, IsDocument events root) :
    (Build.attach frames none element).Reads events := by
  cases frames with
  | nil => exact .inr ⟨rfl, rfl, outside rfl⟩
  | cons frame outer => exact .inl ⟨rfl, inside (List.cons_ne_nil frame outer)⟩

theorem Reads.openElement {build next : Build} {events : List Event} {tag : String}
    {attributes : List (String × String)} {selfClosed : Bool} (reads : build.Reads events)
    (taken : build.openElement tag attributes selfClosed = .ok next) :
    next.Reads (events ++ [.startTag tag attributes selfClosed]) := by
  obtain ⟨frames, root⟩ := build
  simp only [Build.openElement] at taken
  rcases reads with ⟨rootless, opened⟩ | ⟨closed, rooted, -⟩
  · obtain rfl : root = none := rootless
    rw [Option.isSome_none, Bool.and_false, if_neg Bool.false_ne_true] at taken
    cases selfClosed with
    | false =>
        obtain rfl := Except.ok.inj taken
        exact .inl ⟨rfl, opened.start tag attributes⟩
    | true =>
        obtain rfl := Except.ok.inj taken
        apply Reads.attach
        · intro nested
          cases frames with
          | nil => contradiction
          | cons frame outer => exact opened.append (.selfClosed tag attributes)
        · rintro rfl
          cases opened with
          | outside blank =>
              exact ⟨.selfClosed tag attributes, rfl, events, [], by simp [Derivation.events],
                blank, by simp⟩
  · obtain rfl : frames = [] := closed
    rw [rooted, List.isEmpty_nil, Bool.and_self, if_pos rfl] at taken
    contradiction

theorem Reads.closeElement {build next : Build} {events : List Event} {tag : String}
    (reads : build.Reads events) (taken : build.closeElement tag = .ok next) :
    next.Reads (events ++ [.endTag tag]) := by
  obtain ⟨frames, root⟩ := build
  cases frames with
  | nil => contradiction
  | cons frame outer =>
      rcases reads with ⟨rootless, opened⟩ | ⟨closed, -, -⟩
      · obtain rfl : root = none := rootless
        by_cases same : frame.head.tag = tag
        · subst same
          simp only [Build.closeElement, if_true] at taken
          obtain rfl := Except.ok.inj taken
          apply Reads.attach
          · intro nested
            cases outer with
            | nil => contradiction
            | cons around outer => exact opened.close
          · rintro rfl
            exact opened.close_root
        · simp only [Build.closeElement, if_neg same] at taken
          contradiction
      · contradiction

/-- A text is read as a derivation inside an element, and must be blank outside. -/
theorem Reads.addText {preserve : Bool} {build next : Build} {events : List Event}
    {raw : List Char} {decode? : List Char → Option (List Char)} (reads : build.Reads events)
    {derivation : Derivation} {event : Event} (derived : derivation.events = [event])
    (blank : event.isBlank = isBlankText raw)
    (taken : build.addText preserve raw decode? = .ok next) : next.Reads (events ++ [event]) := by
  obtain ⟨frames, root⟩ := build
  cases frames with
  | nil =>
      simp only [Build.addText] at taken
      split at taken
      · case _ visible =>
          obtain rfl := Except.ok.inj taken
          rw [visible] at blank
          rcases reads with ⟨rootless, opened⟩ | ⟨closed, rooted, document, whole⟩
          · exact .inl ⟨rootless, opened.append_blank blank⟩
          · exact .inr ⟨closed, rooted, document, whole.append_blank blank⟩
      · contradiction
  | cons frame outer =>
      rcases reads with ⟨rootless, opened⟩ | ⟨closed, -, -⟩
      · obtain rfl : root = none := rootless
        have longer := opened.append derivation
        rw [derived] at longer
        simp only [Build.addText] at taken
        split at taken
        · obtain rfl := Except.ok.inj taken
          exact .inl ⟨rfl, longer⟩
        · split at taken
          · contradiction
          · obtain rfl := Except.ok.inj taken
            exact .inl ⟨rfl, longer⟩
      · contradiction

/-- Every step that succeeds reads its event. -/
theorem Reads.step {preserve : Bool} {build next : Build} {events : List Event} {event : Event}
    (reads : build.Reads events) (shown : event ≠ .skipped)
    (taken : Build.step preserve build event = .ok next) : next.Reads (events ++ [event]) := by
  cases event with
  | skipped => contradiction
  | startTag tag attributes selfClosed => exact reads.openElement taken
  | endTag tag => exact reads.closeElement taken
  | text raw =>
      have derived : (Derivation.text raw).events = [.text raw] := rfl
      exact reads.addText derived rfl taken
  | verbatim content =>
      have derived : (Derivation.verbatim content).events = [.verbatim content] := rfl
      have added : build.addText preserve content some = .ok next := taken
      exact reads.addText derived rfl added

/-- Every run that succeeds reads its events. -/
theorem Reads.run {preserve : Bool} {build next : Build} {events more : List Event}
    (reads : build.Reads events) (shown : ∀ event ∈ more, event ≠ .skipped)
    (taken : Build.run preserve build more = .ok next) : next.Reads (events ++ more) := by
  induction more generalizing build events with
  | nil =>
      obtain rfl := Except.ok.inj taken
      simpa using reads
  | cons event more inductionHypothesis =>
      obtain ⟨here, others⟩ := List.forall_mem_cons.mp shown
      obtain ⟨middle, first, rest⟩ := run_cons_eq_ok_iff.mp taken
      have later := inductionHypothesis (reads.step here first) others rest
      simpa using later

/-- A run over viable events can fail only at an oversized numeral. -/
theorem run_viable {preserve : Bool} {events : List Event} (viable : IsViable events)
    {error : Error} (failed : run preserve empty events = .error error) :
    error = .oversizedNumeral := by
  obtain ⟨more, root, document⟩ := viable
  have whole := run_document preserve document
  rw [run_append, failed] at whole
  cases built : root.element? preserve with
  | none =>
      rw [built] at whole
      exact Except.error.inj whole
  | some element =>
      rw [built] at whole
      contradiction

/-- A text fails at an oversized numeral only inside an element. -/
theorem addText_oversized {preserve : Bool} {build : Build} {raw : List Char}
    {decode? : List Char → Option (List Char)}
    (failed : addText preserve build raw decode? = .error .oversizedNumeral) :
    build.frames ≠ [] ∧ decode? raw = none := by
  unfold addText at failed
  split at failed
  · split at failed <;> simp at failed
  · case _ opened =>
      refine ⟨by simp [opened], ?_⟩
      split at failed
      · contradiction
      · split at failed
        · assumption
        · contradiction

/-- A step fails at an oversized numeral only in a text inside an element. -/
theorem step_oversized {preserve : Bool} {build : Build} {event : Event}
    (failed : step preserve build event = .error .oversizedNumeral) :
    ∃ raw, event = .text raw ∧ build.frames ≠ [] ∧ CharacterReference.decode? raw = none := by
  cases event with
  | skipped => contradiction
  | startTag tag attributes selfClosed =>
      simp only [step, openElement] at failed
      split at failed
      · simp at failed
      · split at failed <;> simp at failed
  | endTag tag =>
      simp only [step, closeElement] at failed
      split at failed
      · simp at failed
      · split at failed <;> simp at failed
  | text raw => exact ⟨raw, rfl, addText_oversized failed⟩
  | verbatim content =>
      have added : addText preserve build content some = .error .oversizedNumeral := failed
      exact absurd (addText_oversized added).2 (Option.some_ne_none content)

/-- A text with an oversized numeral fails everywhere. -/
theorem step_undecodable (preserve : Bool) (build : Build) {raw : List Char}
    (undecodable : CharacterReference.decode? raw = none) :
    ∃ error, step preserve build (.text raw) = .error error := by
  have visible : ¬ isBlankText raw = true := by
    intro blank
    rw [Derivation.decode?_blank blank] at undecodable
    contradiction
  simp only [step, addText, if_neg visible, undecodable]
  split
  · exact ⟨_, rfl⟩
  · exact ⟨_, rfl⟩

/-- A run that fails has a last event before its error. -/
theorem run_error {preserve : Bool} {build : Build} {events : List Event} {error : Error}
    (failed : run preserve build events = .error error) :
    ∃ before event after middle, events = before ++ event :: after ∧
      run preserve build before = .ok middle ∧ step preserve middle event = .error error := by
  induction events generalizing build with
  | nil => contradiction
  | cons event events inductionHypothesis =>
      rw [run_cons] at failed
      cases first : step preserve build event with
      | error fault =>
          rw [first] at failed
          obtain rfl := Except.error.inj failed
          exact ⟨[], event, events, build, rfl, rfl, first⟩
      | ok next =>
          rw [first] at failed
          obtain ⟨before, later, after, middle, rfl, passed, stopped⟩ := inductionHypothesis failed
          exact ⟨event :: before, later, after, middle, rfl, by rw [run_cons, first]; exact passed,
            stopped⟩

/-- A run fails at an oversized numeral exactly if it reaches a text with one in a place where the
grammar allows a visible text. -/
theorem run_oversized_iff (preserve : Bool) {events : List Event}
    (shown : ∀ event ∈ events, event ≠ .skipped) :
    run preserve empty events = .error .oversizedNumeral ↔
      ∃ before raw after, events = before ++ .text raw :: after ∧
        IsViable (before ++ [.text raw]) ∧ CharacterReference.HasOversizedNumeral raw := by
  constructor
  · intro failed
    obtain ⟨before, event, after, middle, rfl, passed, stopped⟩ := run_error failed
    obtain ⟨raw, rfl, nested, undecodable⟩ := step_oversized stopped
    have oversized := (CharacterReference.decode?_eq_none_iff raw).mp undecodable
    refine ⟨before, raw, after, rfl, ?_, oversized⟩
    have reads := reads_empty.run
      (fun event member => shown event (List.mem_append_left _ member)) passed
    rw [List.nil_append] at reads
    rcases reads with ⟨-, opened⟩ | ⟨closed, -, -⟩
    · obtain ⟨frame, outer, frames⟩ := List.exists_cons_of_ne_nil nested
      rw [frames] at opened
      exact (opened.append (.text raw)).isViable
    · exact absurd closed nested
  · rintro ⟨before, raw, after, rfl, viable, oversized⟩
    have undecodable := (CharacterReference.decode?_eq_none_iff raw).mpr oversized
    have stopped : ∃ error, run preserve empty (before ++ [.text raw]) = .error error := by
      rw [run_append]
      cases run preserve empty before with
      | error fault => exact ⟨fault, rfl⟩
      | ok middle =>
          obtain ⟨error, failed⟩ := step_undecodable preserve middle undecodable
          exact ⟨error, by rw [Except.bind, run_cons, failed]; rfl⟩
    obtain ⟨error, stopped⟩ := stopped
    rw [run_viable viable stopped] at stopped
    rw [← List.singleton_append, ← List.append_assoc, run_append, stopped]
    rfl

end Build

/-- The events of a markup without those that are skipped. -/
def contributions (markup : String) : List Event :=
  ((Token.tokens markup.toList).1.map Token.event).filter fun event => event ≠ .skipped

/-- Markup is well formed if each of its tokens can be read and they make a document. -/
def IsWellFormed (markup : String) : Prop :=
  (Token.tokens markup.toList).2 = none ∧ ∃ root, IsDocument (contributions markup) root

/-- An oversized numeral is reached if all that stands before it may begin a document. It stands in
a text inside an element or in an attribute of the first start tag that cannot be read. -/
def ReachesOversizedNumeral (markup : String) : Prop :=
  (∃ before raw after, contributions markup = before ++ .text raw :: after ∧
    IsViable (before ++ [.text raw]) ∧ CharacterReference.HasOversizedNumeral raw) ∨
  (IsViable (contributions markup) ∧
    BeginsOversized (Token.unread (Token.tokens markup.toList).1 markup.toList))

/-- Skipped events do not change a run. -/
theorem Build.run_filter (preserve : Bool) (build : Build) (events : List Event) :
    run preserve build (events.filter fun event => event ≠ .skipped) =
      run preserve build events := by
  induction events generalizing build with
  | nil => rfl
  | cons event events inductionHypothesis =>
      by_cases skipped : event = .skipped
      · subst skipped
        rw [List.filter_cons_of_neg (by simp), inductionHypothesis]
        rfl
      · rw [List.filter_cons_of_pos (by simpa using skipped), run_cons, run_cons]
        simp only [inductionHypothesis]

/-- Markup is compiled by a run over its contributions. -/
theorem compile_eq (preserve : Bool) (markup : String) :
    compile preserve markup =
      (Build.run preserve Build.empty (contributions markup)).bind fun build =>
        match (Token.tokens markup.toList).2 with
        | some error => .error error
        | none => build.finish := by
  rw [contributions, Build.run_filter]
  rfl

/-- The contributions of a markup are all shown. -/
theorem contributions_shown (markup : String) :
    ∀ event ∈ contributions markup, event ≠ .skipped := by
  intro event member
  simpa using (List.mem_filter.mp member).2

/-- Every run that fails makes the compilation fail. -/
theorem compile_run_error {preserve : Bool} {markup : String} {error : Error}
    (failed : Build.run preserve Build.empty (contributions markup) = .error error) :
    compile preserve markup = .error error := by
  rw [compile_eq, failed]
  rfl

/-- A run that succeeds reads the beginning of a document. -/
theorem reads_contributions {preserve : Bool} {markup : String} {build : Build}
    (taken : Build.run preserve Build.empty (contributions markup) = .ok build) :
    build.Reads (contributions markup) := by
  have reads := Build.reads_empty.run (contributions_shown markup) taken
  rwa [List.nil_append] at reads

/-- A build does not end at an oversized numeral. -/
theorem Build.finish_ne_oversized (build : Build) : build.finish ≠ .error .oversizedNumeral := by
  unfold finish
  split <;> simp

/-- An oversized numeral is reported exactly if one is reached. -/
theorem compile_oversized_iff (preserve : Bool) (markup : String) :
    compile preserve markup = .error .oversizedNumeral ↔ ReachesOversizedNumeral markup := by
  have texts := Build.run_oversized_iff preserve (contributions_shown markup)
  cases taken : Build.run preserve Build.empty (contributions markup) with
  | error error =>
      rw [taken, Except.error.injEq] at texts
      rw [compile_run_error taken, Except.error.injEq, texts]
      constructor
      · exact .inl
      · rintro (reached | ⟨viable, -⟩)
        · exact reached
        · rw [← texts, Build.run_viable viable taken]
  | ok build =>
      rw [taken] at texts
      have viable := (reads_contributions taken).isViable
      have unreached := texts.not.mp (by simp)
      rw [compile_eq, taken, ReachesOversizedNumeral, or_iff_right unreached,
        ← Token.tokens_oversized_iff]
      simp only [Except.bind, viable, true_and]
      cases (Token.tokens markup.toList).2 with
      | none => simpa using build.finish_ne_oversized
      | some error => simp

/-- Markup that compiles is well formed. -/
theorem isWellFormed_of_compile {preserve : Bool} {markup : String} {root : Element}
    (compiled : compile preserve markup = .ok root) : IsWellFormed markup := by
  rw [compile_eq] at compiled
  cases taken : Build.run preserve Build.empty (contributions markup) with
  | error error => simp [taken, Except.bind] at compiled
  | ok build =>
      simp only [taken, Except.bind] at compiled
      cases complete : (Token.tokens markup.toList).2 with
      | some error => simp [complete] at compiled
      | none =>
          simp only [complete, Build.finish] at compiled
          rcases reads_contributions taken with ⟨rootless, -⟩ | ⟨-, -, document⟩
          · rw [rootless] at compiled
            split at compiled <;> simp_all
          · exact ⟨complete, document⟩

/-- A well formed markup compiles to what its derivation builds. -/
theorem compile_document (preserve : Bool) {markup : String} {root : Derivation}
    (complete : (Token.tokens markup.toList).2 = none)
    (document : IsDocument (contributions markup) root) :
    compile preserve markup =
      match root.element? preserve with
      | some built => .ok built
      | none => .error .oversizedNumeral := by
  rw [compile_eq, Build.run_document preserve document, complete]
  cases root.element? preserve with
  | none => rfl
  | some built => rfl

/-- Well formed markup compiles unless it reaches an oversized numeral. -/
theorem compile_of_isWellFormed (preserve : Bool) {markup : String}
    (wellFormed : IsWellFormed markup) (unreached : ¬ ReachesOversizedNumeral markup) :
    ∃ root, compile preserve markup = .ok root := by
  obtain ⟨complete, root, document⟩ := wellFormed
  have compiled := compile_document preserve complete document
  cases built : root.element? preserve with
  | none =>
      rw [built] at compiled
      exact absurd ((compile_oversized_iff preserve markup).mp compiled) unreached
  | some element =>
      rw [built] at compiled
      exact ⟨element, compiled⟩

/-- Apart from blank texts, the tree of compiled markup is the one that is derived. -/
theorem compile_pruned {preserve : Bool} {markup : String} {root : Element}
    (compiled : compile preserve markup = .ok root) {derivation : Derivation}
    (document : IsDocument (contributions markup) derivation) :
    ∃ node, derivation.node? = some node ∧ root.toNode.pruned = node.pruned := by
  have complete := (isWellFormed_of_compile compiled).1
  rw [compile_document preserve complete document] at compiled
  cases built : derivation.element? preserve with
  | none => simp [built] at compiled
  | some element =>
      rw [built] at compiled
      obtain rfl := Except.ok.inj compiled
      exact Derivation.element?_pruned built

/-- Compilation succeeds exactly on well formed markup without an oversized numeral, reports an
oversized numeral exactly if one is reached, and reports an error of the markup otherwise. Apart
from blank texts, the tree is the one that is derived. -/
theorem compile_accepts_documents (preserve : Bool) (markup : String) :
    ((∃ root, compile preserve markup = .ok root) ↔
      IsWellFormed markup ∧ ¬ ReachesOversizedNumeral markup) ∧
    (compile preserve markup = .error .oversizedNumeral ↔ ReachesOversizedNumeral markup) ∧
    ((∃ error, error ≠ .oversizedNumeral ∧ compile preserve markup = .error error) ↔
      ¬ IsWellFormed markup ∧ ¬ ReachesOversizedNumeral markup) ∧
    ∀ root, compile preserve markup = .ok root →
      ∀ derivation, IsDocument (contributions markup) derivation →
        ∃ node, derivation.node? = some node ∧ root.toNode.pruned = node.pruned := by
  have oversized := compile_oversized_iff preserve markup
  refine ⟨⟨?_, fun both => compile_of_isWellFormed preserve both.1 both.2⟩, oversized, ⟨?_, ?_⟩, ?_⟩
  · rintro ⟨root, compiled⟩
    refine ⟨isWellFormed_of_compile compiled, ?_⟩
    rw [← oversized, compiled]
    simp
  · rintro ⟨error, other, failed⟩
    have unreached : ¬ ReachesOversizedNumeral markup := by
      rw [← oversized, failed]
      simpa using other
    refine ⟨fun wellFormed => ?_, unreached⟩
    obtain ⟨root, compiled⟩ := compile_of_isWellFormed preserve wellFormed unreached
    rw [compiled] at failed
    contradiction
  · rintro ⟨illFormed, unreached⟩
    cases outcome : compile preserve markup with
    | ok root => exact absurd (isWellFormed_of_compile outcome) illFormed
    | error error =>
        refine ⟨error, ?_, rfl⟩
        rintro rfl
        exact unreached (oversized.mp outcome)
  · intro root compiled derivation document
    exact compile_pruned compiled document

end SvgComponent.Markup
