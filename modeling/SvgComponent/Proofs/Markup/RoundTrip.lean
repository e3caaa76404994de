/-
This file shows that compiling undoes writing: every markup of a tree is compiled to an element that
represents the tree, unless a reference in it has too many digits.
-/

import SvgComponent.Proofs.Markup.Representation
import SvgComponent.Proofs.Markup.Showing

namespace SvgComponent.Markup

open Text

-- A property of all members of a list is decided by the members, not by all characters.
attribute [local instance (high)] List.decidableBAll

mutual

/-- A node represents a tree if it is a text of the same content, or an element whose head
represents the tag and the attributes and whose children represent those of the tree in their order.
The entries are the attributes other than class and style in their order, with all duplicates. -/
inductive Node.Represents : Node → Tree → Prop
  | text (content : String) : Represents (.text content) (.text content)
  | element {head : Head} {nodes : List Node} {tag : String} {attributes : List (String × String)}
      {children : List Tree} (represents : head.Represents tag attributes)
      (listed : head.entries = attributes.filter fun entry => entry.1 ≠ "class" ∧ entry.1 ≠ "style")
      (inside : Node.RepresentAll nodes children) :
      Represents (.element head nodes) (.element tag attributes children)

inductive Node.RepresentAll : List Node → List Tree → Prop
  | nil : RepresentAll [] []
  | cons {node : Node} {nodes : List Node} {tree : Tree} {trees : List Tree}
      (first : node.Represents tree) (others : RepresentAll nodes trees) :
      RepresentAll (node :: nodes) (tree :: trees)

end

/-- The nodes of writable siblings represent them. -/
theorem representAll_nodes {trees : List Tree} (writable : AreWritable trees) :
    Node.RepresentAll (Tree.nodes trees) trees := by
  induction writable with
  | nil => exact .nil
  | text _ _ _ inductionHypothesis => exact .cons (.text _) inductionHypothesis
  | @element tag attributes _ _ named _ _ _ insideHypothesis inductionHypothesis =>
      have listed : (Head.ofAttributes tag attributes).entries =
          attributes.filter fun entry => entry.1 ≠ "class" ∧ entry.1 ≠ "style" := by
        apply List.filter_congr
        simp [isListed]
      exact .cons (.element (Head.represents_ofAttributes named attributes) listed insideHypothesis)
        inductionHypothesis

/-- A derivation builds a tree if it adds the node of the tree and nothing else, or cannot be
decoded because a numeral in one of the texts has too many digits. -/
structure Derivation.Builds (derivation : Derivation) (texts : List (List Char)) (tree : Tree) :
    Prop where
  kind : derivation.isElement = tree.isElement
  readable : ¬ AnyOversized texts → ∀ preserve children,
    derivation.extend? preserve children = some (tree.node :: children)
  oversized : AnyOversized texts → ∀ preserve children, derivation.extend? preserve children = none

/-- Derivations build siblings one by one. -/
inductive Derivation.BuildAll : List Derivation → List (List Char) → List Tree → Prop
  | nil : BuildAll [] [] []
  | cons {first : Derivation} {others : List Derivation} {texts later : List (List Char)}
      {tree : Tree} {trees : List Tree} (builds : first.Builds texts tree)
      (built : BuildAll others later trees) :
      BuildAll (first :: others) (texts ++ later) (tree :: trees)

namespace Derivation

/-- An escaped text builds the text. -/
theorem builds_text {content : String} {raw : List Char}
    (escaped : Escaped ['&', '<'] content.toList raw)
    (visible : isBlankText content.toList = false) : (text raw).Builds [raw] (.text content) := by
  have single : AnyOversized [raw] ↔ CharacterReference.decode? raw = none := by
    simp [anyOversized_cons, not_anyOversized_nil]
  refine ⟨rfl, fun readable preserve children => ?_, fun oversized preserve children => ?_⟩
  · rw [extend?, escaped.isBlankText, visible, escaped.decode? (by simp) (single.not.mp readable)]
    simp [Tree.node]
  · rw [extend?, escaped.isBlankText, visible, single.mp oversized]
    rfl

theorem builds_selfClosed (tag : String) (attributes : List (String × String)) :
    (selfClosed tag attributes).Builds [] (.element tag attributes []) :=
  ⟨rfl, fun _ _ _ => rfl, not_anyOversized_nil.elim⟩

/-- Derivations that build siblings add the nodes of the siblings. -/
theorem BuildAll.extendAll? {content : List Derivation} {texts : List (List Char)}
    {trees : List Tree} (built : BuildAll content texts trees) (preserve : Bool)
    (children : List Node) :
    (¬ AnyOversized texts →
      extendAll? preserve children content = some ((Tree.nodes trees).reverse ++ children)) ∧
    (AnyOversized texts → extendAll? preserve children content = none) := by
  induction built generalizing children with
  | nil => exact ⟨fun _ => rfl, not_anyOversized_nil.elim⟩
  | @cons first others texts later tree trees builds _ inductionHypothesis =>
      obtain ⟨readable, oversized⟩ := inductionHypothesis (tree.node :: children)
      rw [anyOversized_append, Derivation.extendAll?]
      by_cases early : AnyOversized texts
      · simp [early, builds.oversized early]
      · rw [builds.readable early, Option.bind_some]
        simpa [early, Tree.nodes] using And.intro readable oversized

end Derivation

/-- Writable siblings have no blank node. -/
theorem isBlankNode_nodes {trees : List Tree} (writable : AreWritable trees) :
    ∀ node ∈ Tree.nodes trees, Build.isBlankNode node = false := by
  induction writable with
  | nil => simp [Tree.nodes]
  | text visible _ _ inductionHypothesis =>
      intro node member
      rcases List.mem_cons.mp member with rfl | later
      · exact visible
      · exact inductionHypothesis node later
  | element _ _ _ _ _ inductionHypothesis =>
      intro node member
      rcases List.mem_cons.mp member with rfl | later
      · rfl
      · exact inductionHypothesis node later

/-- A pair of tags builds an element if its content builds the children. -/
theorem Derivation.builds_pair (tag : String) (attributes : List (String × String))
    {content : List Derivation} {texts : List (List Char)} {children : List Tree}
    (built : BuildAll content texts children) (writable : AreWritable children) :
    (pair tag attributes content).Builds texts (.element tag attributes children) := by
  have visible : ∀ node ∈ (Tree.nodes children).reverse, Build.isBlankNode node = false :=
    fun node member => isBlankNode_nodes writable node (List.mem_reverse.mp member)
  refine ⟨rfl, fun readable preserve before => ?_, fun oversized preserve before => ?_⟩
  · rw [extend?, (built.extendAll? preserve []).1 readable, List.append_nil, Option.map_some,
      Build.closed_visible visible, List.reverse_reverse, Tree.node]
  · rw [extend?, (built.extendAll? preserve []).2 oversized, Option.map_none]

/-- A text is followed by the tag of its next sibling, or by what follows all siblings. -/
theorem beginsWithTag_siblings {trees : List Tree} {texts values : List (List Char)}
    {markup : List Char} (written : Written trees texts values markup)
    (apart : ∀ tree, trees.head? = some tree → tree.isElement = true) (rest : List Char)
    (stop : BeginsWithTag rest) : BeginsWithTag (markup ++ rest) := by
  intro c first
  cases written with
  | nil => exact stop c first
  | text => simpa [Tree.isElement] using apart _ rfl
  | selfClosed => exact (Option.some.inj first).symm
  | pair => exact (Option.some.inj first).symm

/-- Written siblings show the events of derivations that build them. -/
theorem shows_written {trees : List Tree} {texts values : List (List Char)} {markup : List Char}
    (written : Written trees texts values markup) (writable : AreWritable trees) :
    ∃ content, Derivation.BuildAll content texts trees ∧
      Shows (fun _ => true) BeginsWithTag markup values (Derivation.eventsOf content) := by
  induction written with
  | nil => exact ⟨[], .nil, .of_yields (.nil _) (by simp [Derivation.eventsOf])⟩
  | text escaped written inductionHypothesis =>
      cases writable with
      | text visible apart writable =>
          obtain ⟨content, built, others⟩ := inductionHypothesis writable
          refine ⟨_, .cons (Derivation.builds_text escaped visible) built, ?_⟩
          exact (Shows.of_yields (Yields.text escaped visible) (by simp)).append others
            (beginsWithTag_siblings written apart)
  | selfClosed tag attributed blank _ inductionHypothesis =>
      cases writable with
      | element named valid _ writable =>
          obtain ⟨content, built, others⟩ := inductionHypothesis writable
          refine ⟨_, .cons (Derivation.builds_selfClosed tag _) built, ?_⟩
          exact (Shows.start named valid attributed blank true rfl).append others fun _ _ => trivial
  | pair tag attributed blank _ blankClosing _ insideHypothesis inductionHypothesis =>
      cases writable with
      | element named valid inside writable =>
          obtain ⟨inner, builtInner, innerShows⟩ := insideHypothesis inside
          obtain ⟨content, built, others⟩ := inductionHypothesis writable
          refine ⟨_, .cons (Derivation.builds_pair tag _ builtInner inside) built, ?_⟩
          have start :=
            @Shows.start (fun _ => true) _ named _ valid _ _ _ attributed blank false rfl
          have closing := @Shows.of_yields (fun _ => true) _ _ _ (Yields.closing named blankClosing)
            (by simp)
          have nested := innerShows.append (closing.append others fun _ _ => trivial)
            fun rest _ c first => (Option.some.inj first).symm
          have whole := start.append nested fun _ _ => trivial
          simpa [Derivation.eventsOf, Derivation.events, Tag.ending] using whole

/-- Derivations that build an element as the only sibling are a single one for this element. -/
theorem Derivation.builds_root {tag : String} {attributes : List (String × String)}
    {children : List Tree} {content : List Derivation} {texts : List (List Char)}
    (built : BuildAll content texts [.element tag attributes children]) (preserve : Bool) :
    ∃ derivation, content = [derivation] ∧ derivation.isElement = true ∧
      (¬ AnyOversized texts → derivation.element? preserve =
        some ⟨Head.ofAttributes tag attributes, Tree.nodes children⟩) ∧
      (AnyOversized texts → derivation.element? preserve = none) := by
  cases built with
  | @cons derivation _ texts _ _ _ builds none =>
  cases none with
  | nil =>
  rw [List.append_nil]
  refine ⟨derivation, rfl, builds.kind, fun readable => ?_, fun oversized => ?_⟩
  · have grown := builds.readable readable preserve []
    rw [derivation.extend?_element preserve [] builds.kind] at grown
    obtain ⟨⟨head, inner⟩, found, same⟩ := Option.map_eq_some_iff.mp grown
    refine found.trans ?_
    simpa [Element.toNode, Tree.node] using same
  · have grown := builds.oversized oversized preserve []
    rwa [derivation.extend?_element preserve [] builds.kind, Option.map_eq_none_iff] at grown

/-- Every markup of a writable element is compiled to the node of the element, or fails at an
oversized numeral. -/
theorem compile_written {tag : String} {attributes : List (String × String)} {children : List Tree}
    (writable : AreWritable [.element tag attributes children])
    {texts values : List (List Char)} {markup : String}
    (written : Written [.element tag attributes children] texts values markup.toList)
    (preserve : Bool) :
    (¬ AnyOversized (texts ++ values) → compile preserve markup =
      .ok ⟨Head.ofAttributes tag attributes, Tree.nodes children⟩) ∧
    (AnyOversized (texts ++ values) → compile preserve markup = .error .oversizedNumeral) := by
  obtain ⟨content, built, shows⟩ := shows_written written writable
  obtain ⟨derivation, rfl, element, found, undecodable⟩ := Derivation.builds_root built preserve
  simp only [Derivation.eventsOf, List.append_nil] at shows
  have same (build : Build) (events : List Event) :
      Build.run preserve build (events.filter fun _ => true) = Build.run preserve build events := by
    rw [List.filter_true]
  obtain ⟨readable, failed⟩ := compile_shows same element shows
  rw [anyOversized_append]
  by_cases oversized : AnyOversized values
  · simp [oversized, failed]
  · rw [readable oversized]
    by_cases spoiled : AnyOversized texts
    · simp [spoiled, undecodable]
    · simp [spoiled, oversized, found]

/-- Characters that have a name can be escaped in a way that can be decoded. -/
theorem exists_escaped {special : List Char} (ampersand : '&' ∈ special)
    (named : ∀ c ∈ special, ∃ name, (name, c) ∈ CharacterReference.specialNames)
    (text : List Char) :
    ∃ raw, Escaped special text raw ∧ CharacterReference.decode? raw = some text := by
  induction text with
  | nil => exact ⟨[], .nil, rfl⟩
  | cons c text inductionHypothesis =>
      obtain ⟨raw, escaped, decoded⟩ := inductionHypothesis
      by_cases member : c ∈ special
      · obtain ⟨name, known⟩ := named c member
        refine ⟨_, .reference (.named name c known) escaped, ?_⟩
        rw [CharacterReference.decode?_named known, decoded, Option.map_some]
      · have other := ne_of_mem_of_not_mem ampersand member
        refine ⟨_, .plain member escaped, ?_⟩
        rw [CharacterReference.decode?_visible _ (Ne.symm other), decoded, Option.map_some]

theorem exists_writtenAttributes (attributes : List (String × String)) :
    ∃ values inner, WrittenAttributes attributes values inner ∧ ¬ AnyOversized values := by
  induction attributes with
  | nil => exact ⟨[], [], .nil, not_anyOversized_nil⟩
  | cons entry attributes inductionHypothesis =>
      obtain ⟨values, rest, written, readable⟩ := inductionHypothesis
      have named : ∀ c ∈ ['&', '<', '"'], ∃ name, (name, c) ∈ CharacterReference.specialNames := by
        simp [CharacterReference.specialNames]
      obtain ⟨raw, escaped, decoded⟩ := exists_escaped (by simp) named entry.2.toList
      have space : isBlankText [' '] = true := by decide
      have nothing : isBlankText [] = true := rfl
      refine ⟨_, _, .cons entry.1 entry.2 (List.cons_ne_nil ' ' []) space nothing nothing (.inl rfl)
        escaped written, ?_⟩
      simp [anyOversized_cons, decoded, readable]

/-- Writable siblings have a markup that can be decoded. -/
theorem exists_written {trees : List Tree} (writable : AreWritable trees) :
    ∃ texts values markup,
      Written trees texts values markup ∧ ¬ AnyOversized (texts ++ values) := by
  induction writable with
  | nil => exact ⟨[], [], [], .nil, not_anyOversized_nil⟩
  | @text content _ _ _ _ inductionHypothesis =>
      obtain ⟨texts, values, rest, written, readable⟩ := inductionHypothesis
      have named : ∀ c ∈ ['&', '<'], ∃ name, (name, c) ∈ CharacterReference.specialNames := by
        simp [CharacterReference.specialNames]
      obtain ⟨raw, escaped, decoded⟩ := exists_escaped (by simp) named content.toList
      refine ⟨_, _, _, .text escaped written, ?_⟩
      simp [anyOversized_cons, decoded, readable]
  | @element tag attributes _ _ _ _ _ _ insideHypothesis inductionHypothesis =>
      obtain ⟨_, _, content, inside, readableInside⟩ := insideHypothesis
      obtain ⟨_, _, rest, written, readable⟩ := inductionHypothesis
      obtain ⟨own, inner, attributed, readableOwn⟩ := exists_writtenAttributes attributes
      have nothing : isBlankText [] = true := rfl
      refine ⟨_, _, _, .pair tag attributed nothing inside nothing written, ?_⟩
      simp only [anyOversized_append, not_or] at readable readableInside ⊢
      exact ⟨⟨readableInside.1, readable.1⟩, ⟨readableOwn, readableInside.2⟩, readable.2⟩

/-- Compiling undoes writing. A writable element has a markup without oversized numerals, and every
such markup of it is compiled to an element that represents it, whether blank text is kept or not.
In every other markup of the element the oversized numeral is reported. -/
theorem compile_undoes_writing {tag : String} {attributes : List (String × String)}
    {children : List Tree} (writable : AreWritable [.element tag attributes children]) :
    (∃ (texts values : List (List Char)) (markup : String),
      Written [.element tag attributes children] texts values markup.toList ∧
        ¬ AnyOversized (texts ++ values)) ∧
    ∀ (texts values : List (List Char)) (markup : String),
      Written [.element tag attributes children] texts values markup.toList →
        ∀ preserve,
          (¬ AnyOversized (texts ++ values) →
            ∃ root, compile preserve markup = .ok root ∧
              root.toNode.Represents (.element tag attributes children)) ∧
          (AnyOversized (texts ++ values) →
            compile preserve markup = .error .oversizedNumeral) := by
  constructor
  · obtain ⟨texts, values, markup, written, readable⟩ := exists_written writable
    refine ⟨texts, values, String.ofList markup, ?_, readable⟩
    rwa [String.toList_ofList]
  · intro texts values markup written preserve
    obtain ⟨compiled, failed⟩ := compile_written writable written preserve
    refine ⟨fun readable => ⟨_, compiled readable, ?_⟩, failed⟩
    cases representAll_nodes writable with
    | cons represents _ => exact represents

/-- Quotes, brackets and references of a tree come back as they were, and duplicates stay. -/
theorem compile_undoes_writing_svg :
    AreWritable [.element "svg" [("id", "'<&lt;"), ("id", "")]
        [.text "]]>&amp;", .element "g" [] []]] ∧
      ∃ root, compile true "<svg id = '&#39;&lt;&amp;lt;' id=\"\">]]>&amp;amp;<g/></svg >" =
          .ok root ∧
        root.toNode.Represents (.element "svg" [("id", "'<&lt;"), ("id", "")]
          [.text "]]>&amp;", .element "g" [] []]) := by
  have image : IsTag "svg" := ⟨⟨'s', ['v', 'g'], rfl, by decide, by decide⟩, by decide⟩
  have group : IsTag "g" := ⟨⟨'g', [], rfl, by decide, by decide⟩, by decide⟩
  have writable : AreWritable [.element "svg" [("id", "'<&lt;"), ("id", "")]
      [.text "]]>&amp;", .element "g" [] []]] := by
    apply AreWritable.element image
    · simp only [List.mem_cons, List.not_mem_nil, or_false, forall_eq_or_imp, forall_eq]
      exact ⟨⟨by decide, by decide⟩, by decide, by decide⟩
    · apply AreWritable.text (by decide)
      · simp [Tree.isElement]
      · exact .element group (by simp) .nil .nil
    · exact .nil
  have space : isBlankText [' '] = true := by decide
  have nothing : isBlankText [] = true := rfl
  have value : Escaped ['&', '<', '\''] "'<&lt;".toList "&#39;&lt;&amp;lt;".toList :=
    .reference (.decimal "apos" '\'' (by decide) ['3', '9'] (by decide) (by decide))
      (.reference (.named "lt" '<' (by decide)) (.reference (.named "amp" '&' (by decide))
        (.plain (by decide) (.plain (by decide) (.plain (by decide) .nil)))))
  have content : Escaped ['&', '<'] "]]>&amp;".toList "]]>&amp;amp;".toList :=
    .plain (by decide) (.plain (by decide) (.plain (by decide)
      (.reference (.named "amp" '&' (by decide)) (.plain (by decide) (.plain (by decide)
        (.plain (by decide) (.plain (by decide) .nil)))))))
  have attributed : WrittenAttributes [("id", "'<&lt;"), ("id", "")]
      ["&#39;&lt;&amp;lt;".toList, []] " id = '&#39;&lt;&amp;lt;' id=\"\"".toList :=
    .cons "id" "'<&lt;" (List.cons_ne_nil ' ' []) space space space (.inr rfl) value
      (.cons "id" "" (List.cons_ne_nil ' ' []) space nothing nothing (.inl rfl) .nil .nil)
  have written : Written [.element "svg" [("id", "'<&lt;"), ("id", "")]
      [.text "]]>&amp;", .element "g" [] []]] ["]]>&amp;amp;".toList]
      ["&#39;&lt;&amp;lt;".toList, []]
      "<svg id = '&#39;&lt;&amp;lt;' id=\"\">]]>&amp;amp;<g/></svg >".toList :=
    .pair "svg" attributed nothing (.text content (.selfClosed "g" .nil nothing .nil)) space .nil
  have readable : ¬ AnyOversized
      (["]]>&amp;amp;".toList] ++ ["&#39;&lt;&amp;lt;".toList, []]) := by
    simp only [List.singleton_append, anyOversized_cons, not_or]
    exact ⟨by decide, by decide, by decide, not_anyOversized_nil⟩
  exact ⟨writable, ((compile_undoes_writing writable).2 _ _ _ written true).1 readable⟩

end SvgComponent.Markup
