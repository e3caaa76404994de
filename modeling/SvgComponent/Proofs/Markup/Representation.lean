/-
This file shows what the elements of a compiled tree say: each of them represents its own start tag,
with its attributes kept twice in agreement.
-/

import Mathlib.Data.List.TakeWhile
import SvgComponent.Proofs.Mapping
import SvgComponent.Proofs.Markup.Compiled
import SvgComponent.Proofs.Markup.Writing
import SvgComponent.Proofs.Text.Words

namespace SvgComponent.Markup

open Text

/-- The tag and the attributes of a start tag. -/
def Event.start? : Event → Option (String × List (String × String))
  | .startTag tag attributes _ => some (tag, attributes)
  | _ => none

mutual

/-- The elements that stand in a node, each before those inside it. -/
def Node.elements : Node → List Element
  | .element head children => ⟨head, children⟩ :: Node.elementsOf children
  | .text _ | .bare => []

def Node.elementsOf : List Node → List Element
  | [] => []
  | node :: nodes => node.elements ++ Node.elementsOf nodes

end

/-- The value of the last attribute with a name. -/
def lastValue? (name : String) (attributes : List (String × String)) : Option String :=
  (attributes.filter fun entry => entry.1 = name).getLast?.map Prod.snd

/-- A head represents a start tag. Its mapping has all attributes, and its entries those other than
class and style. The class and the style are those of the last attributes that are not empty. -/
structure Head.Represents (head : Head) (tag : String) (attributes : List (String × String)) :
    Prop where
  tag : head.tag = tag
  named : IsTag head.tag
  mapping : head.attributes = Mapping.ofEntries attributes
  unlisted : ∀ entry ∈ head.entries, entry.1 ≠ "class" ∧ entry.1 ≠ "style"
  resolved : Mapping.ofEntries head.entries = (head.attributes.without "class").without "style"
  classes (literal : String) : head.staticClass = some literal ↔
    ∃ text, lastValue? "class" attributes = some text ∧ text ≠ "" ∧
      literal = Value.Compact.writeString (String.ofList (joined (words text.toList)))
  styles (literal : String) : head.staticStyle = some literal ↔
    ∃ text, lastValue? "style" attributes = some text ∧ text ≠ "" ∧
      literal = Value.Compact.writeStrings (Style.parse text)

/-- A text is written if it is there and not empty. -/
theorem written_eq_some_iff (value : Option String) (write : String → String) (literal : String) :
    (nonempty? value).map write = some literal ↔
      ∃ text, value = some text ∧ text ≠ "" ∧ literal = write text := by
  simp only [nonempty?, Option.map_eq_some_iff, Option.filter_eq_some_iff, decide_eq_true_iff,
    and_assoc]
  exact exists_congr fun text => and_congr_right fun _ => and_congr_right fun _ => eq_comm

theorem valueAt?_eq_lastValue? (attributes : List (String × String)) (name : String) :
    (Mapping.ofEntries attributes).valueAt? name = lastValue? name attributes :=
  Mapping.valueAt?_ofEntries attributes name

/-- A head represents the start tag that it is made of. -/
theorem Head.represents_ofAttributes {tag : String} (named : IsTag tag)
    (attributes : List (String × String)) :
    (Head.ofAttributes tag attributes).Represents tag attributes where
  tag := rfl
  named := named
  mapping := rfl
  unlisted entry member := by
    have listed := (List.mem_filter.mp member).2
    simpa [isListed] using listed
  resolved := by
    change Mapping.ofEntries (attributes.filter fun entry => isListed entry.1) =
      ((Mapping.ofEntries attributes).without "class").without "style"
    rw [Mapping.ofEntries_filter, Mapping.without, Mapping.without, List.filter_filter]
    apply List.filter_congr
    intro entry _
    simp [isListed, Bool.and_comm]
  classes literal := by
    have joins (text : String) : classText text = String.ofList (joined (words text.toList)) :=
      congrArg String.ofList (trim_condense text.toList)
    simp only [Head.ofAttributes, written_eq_some_iff, valueAt?_eq_lastValue?, joins]
  styles literal := by
    simp only [Head.ofAttributes, written_eq_some_iff, valueAt?_eq_lastValue?]

theorem Tag.name?_shape {text name rest : List Char} (found : name? text = some (name, rest)) :
    ∃ c characters, name = c :: characters ∧ isNameStart c = true ∧
      ∀ x ∈ characters, isNameCharacter x = true := by
  cases text with
  | nil => contradiction
  | cons c text =>
      rw [name?, Option.ite_none_right_eq_some] at found
      obtain ⟨rfl, -⟩ := Prod.mk.inj (Option.some.inj found.2)
      exact ⟨c, _, rfl, found.1, fun x member => List.mem_takeWhile_imp member⟩

/-- Every attribute that is read has a name of at least one character. -/
theorem Tag.isAttribute_of_mem_attributes {fuel : Nat} {text rest : List Char}
    {entries : List (String × String)} {selfClosed : Bool}
    (found : attributes fuel text = .ok (entries, selfClosed, rest)) :
    ∀ entry ∈ entries, IsAttribute entry.1 := by
  induction fuel generalizing text entries with
  | zero => contradiction
  | succ fuel inductionHypothesis =>
      rcases attributes_cases found with ⟨rfl, -⟩ | ⟨name, _, _, _, after, entry, others, rfl⟩
      · exact nofun
      · obtain ⟨rfl, present, -⟩ := attribute?_name entry
        refine List.forall_mem_cons.mpr ⟨?_, inductionHypothesis others⟩
        rw [IsAttribute, String.toList_ofList]
        exact ⟨present, fun c member => List.mem_takeWhile_imp member⟩

/-- Every start tag that is read has a tag as its name, and names for its attributes. -/
theorem Token.read_startTag {length : Nat} {markup rest : List Char} {tag : String}
    {attributes : List (String × String)} {selfClosed : Bool}
    (found : read length markup = .ok (.startTag tag attributes selfClosed, rest)) :
    IsTag tag ∧ ∀ entry ∈ attributes, IsAttribute entry.1 := by
  rcases read_cases found with ⟨other, -⟩ | ⟨_, other, -⟩ | ⟨_, other, -⟩ |
    ⟨name, after, opening, started⟩ | plain
  · contradiction
  · contradiction
  · contradiction
  · rcases start_event started with other | ⟨_, _, same, shown, attributed⟩
    · contradiction
    · obtain ⟨rfl, rfl, rfl⟩ := Event.startTag.inj same
      obtain ⟨body, -, named⟩ := Option.bind_eq_some_iff.mp opening
      refine ⟨?_, Tag.isAttribute_of_mem_attributes attributed⟩
      rw [IsTag, String.toList_ofList]
      exact ⟨Tag.name?_shape named, shown⟩
  · cases markup <;> exact nomatch (Prod.mk.inj plain).1

/-- The start tags of a markup in their order. Dropped elements have none. -/
def starts (markup : String) : List (String × List (String × String)) :=
  (contributions markup).filterMap Event.start?

/-- Every start tag of a markup has a tag as its name, and names for its attributes. -/
theorem named_of_mem_starts {markup : String} {start : String × List (String × String)}
    (member : start ∈ starts markup) :
    IsTag start.1 ∧ ∀ entry ∈ start.2, IsAttribute entry.1 := by
  obtain ⟨event, contributed, begins⟩ := List.mem_filterMap.mp member
  obtain ⟨token, known, rfl⟩ := List.mem_map.mp (List.mem_filter.mp contributed).1
  obtain ⟨-, found⟩ := Token.tokensFrom_read known
  cases opened : token.event with
  | startTag tag attributes selfClosed =>
      rw [opened] at begins found
      obtain rfl := Option.some.inj begins
      exact Token.read_startTag found
  | skipped | endTag | text | verbatim =>
      rw [opened] at begins
      contradiction

/-- The heads of all elements that stand in a node. -/
def Node.heads (node : Node) : List Head :=
  node.elements.map Element.head

def Node.headsOf (nodes : List Node) : List Head :=
  (Node.elementsOf nodes).map Element.head

namespace Node

theorem heads_element (head : Head) (children : List Node) :
    heads (.element head children) = head :: headsOf children := by
  simp [heads, headsOf, elements]

theorem headsOf_cons (node : Node) (nodes : List Node) :
    headsOf (node :: nodes) = node.heads ++ headsOf nodes := by
  simp [heads, headsOf, elementsOf]

mutual

/-- Blank texts have no elements. -/
theorem heads_pruned : (node : Node) → node.pruned.heads = node.heads
  | .text _ => rfl
  | .bare => rfl
  | .element head children => by
      rw [pruned, heads_element, heads_element, headsOf_prunedAll children]

theorem headsOf_prunedAll : (nodes : List Node) → headsOf (prunedAll nodes) = headsOf nodes
  | [] => rfl
  | node :: nodes => by
      rw [prunedAll, headsOf_cons]
      split
      · case _ blank =>
          have nothing : node.heads = [] := by
            cases node with
            | text content => rfl
            | element head children => contradiction
            | bare => rfl
          rw [nothing, List.nil_append, headsOf_prunedAll nodes]
      · rw [headsOf_cons, heads_pruned node, headsOf_prunedAll nodes]

end

end Node

/-- The head that is made of a start tag. -/
def headOf (start : String × List (String × String)) : Head :=
  Head.ofAttributes start.1 start.2

namespace Derivation

mutual

/-- The elements of a derived node are those of its start tags. -/
theorem heads_node? : (derivation : Derivation) → ∀ node, derivation.node? = some node →
    node.heads = (derivation.events.filterMap Event.start?).map headOf
  | .text raw, node, found => by
      obtain ⟨content, -, rfl⟩ := Option.map_eq_some_iff.mp found
      rfl
  | .verbatim content, node, found => by
      obtain rfl := Option.some.inj found
      rfl
  | .selfClosed tag attributes, node, found => by
      obtain rfl := Option.some.inj found
      rfl
  | .pair tag attributes content, node, found => by
      obtain ⟨nodes, inner, rfl⟩ := Option.map_eq_some_iff.mp found
      rw [Node.heads_element, heads_nodes? content nodes inner, events]
      simp [Event.start?, headOf]

theorem heads_nodes? : (derivations : List Derivation) → ∀ nodes, nodes? derivations = some nodes →
    Node.headsOf nodes = ((eventsOf derivations).filterMap Event.start?).map headOf
  | [], nodes, found => by
      obtain rfl := Option.some.inj found
      rfl
  | first :: others, nodes, found => by
      obtain ⟨node, here, rest⟩ := Option.bind_eq_some_iff.mp found
      obtain ⟨later, remaining, whole⟩ := Option.bind_eq_some_iff.mp rest
      obtain rfl := Option.some.inj whole
      rw [Node.headsOf_cons, heads_node? first node here, heads_nodes? others later remaining,
        eventsOf, List.filterMap_append, List.map_append]

end

end Derivation

/-- Blank events start no elements. -/
theorem filterMap_start?_blank {events : List Event}
    (blank : ∀ event ∈ events, event.isBlank = true) : events.filterMap Event.start? = [] := by
  apply List.filterMap_eq_nil_iff.mpr
  intro event member
  cases event with
  | startTag tag attributes selfClosed => exact absurd (blank _ member) Bool.false_ne_true
  | skipped | endTag | text | verbatim => rfl

/-- The elements of a compiled tree are those of the start tags of its markup, in their order. -/
theorem heads_of_compile {preserve : Bool} {markup : String} {root : Element}
    (compiled : compile preserve markup = .ok root) :
    root.toNode.heads = (starts markup).map headOf := by
  obtain ⟨complete, derivation, document⟩ := isWellFormed_of_compile compiled
  rw [compile_document preserve complete document] at compiled
  cases built : derivation.element? preserve with
  | none => simp [built] at compiled
  | some element =>
      rw [built] at compiled
      obtain rfl := Except.ok.inj compiled
      obtain ⟨node, derived, same⟩ := Derivation.element?_pruned built
      obtain ⟨-, before, after, whole, blankBefore, blankAfter⟩ := document
      rw [← Node.heads_pruned, same, Node.heads_pruned, Derivation.heads_node? _ node derived,
        starts, whole, List.filterMap_append, List.filterMap_append,
        filterMap_start?_blank blankBefore, filterMap_start?_blank blankAfter, List.nil_append,
        List.append_nil]

mutual

/-- Compiled nodes have compiled children at any depth. -/
theorem allCompiled_of_mem_elements : (node : Node) → node.IsCompiled →
    ∀ element ∈ node.elements, Node.AllCompiled element.children
  | .text _, _ => nofun
  | .bare, _ => nofun
  | .element head children, compiled => by
      cases compiled with
      | element tag attributes inside =>
          exact List.forall_mem_cons.mpr
            ⟨inside, allCompiled_of_mem_elementsOf children inside⟩

theorem allCompiled_of_mem_elementsOf : (nodes : List Node) → Node.AllCompiled nodes →
    ∀ element ∈ Node.elementsOf nodes, Node.AllCompiled element.children
  | [], _ => nofun
  | node :: nodes, compiled => by
      obtain ⟨here, later⟩ := List.forall_mem_cons.mp compiled
      exact List.forall_mem_append.mpr ⟨allCompiled_of_mem_elements node here,
        allCompiled_of_mem_elementsOf nodes later⟩

end

/-- The elements of a compiled tree, each before those inside it, represent the start tags of the
markup in their order, and the children of each are texts and elements. -/
theorem compile_represents {preserve : Bool} {markup : String} {root : Element}
    (compiled : compile preserve markup = .ok root) :
    List.Forall₂
      (fun start element => element.head.Represents start.1 start.2 ∧
        ∀ child ∈ element.children, (∃ content, child = .text content) ∨
          ∃ inner : Element, child = inner.toNode)
      (starts markup) root.toNode.elements := by
  obtain ⟨tag, attributes, -, inside⟩ := compile_compiled compiled
  have pairs : List.Forall₂ Eq ((starts markup).map headOf) root.toNode.heads := by
    rw [heads_of_compile compiled]
    exact List.forall₂_refl _
  rw [Node.heads, List.forall₂_map_left_iff, List.forall₂_map_right_iff,
    List.forall₂_iff_zip] at pairs
  refine List.forall₂_iff_zip.mpr ⟨pairs.1, fun {start element} member => ?_⟩
  obtain ⟨started, known⟩ := List.of_mem_zip member
  constructor
  · rw [← pairs.2 member]
    exact Head.represents_ofAttributes (named_of_mem_starts started).1 start.2
  · intro child below
    have children : Node.AllCompiled element.children := by
      rcases List.mem_cons.mp known with rfl | later
      · exact inside
      · exact allCompiled_of_mem_elementsOf root.children inside element later
    cases children child below with
    | text content => exact .inl ⟨content, rfl⟩
    | element tag attributes _ => exact .inr ⟨⟨_, _⟩, rfl⟩

/-- Attributes that stand twice, a class of odd blanks and a style that is empty in the end. -/
theorem compile_represents_duplicates :
    let image := Element.mk
      (Head.ofAttributes "svg" [("id", "a"), ("class", "x"), ("class", "\u2028b\tc"), ("id", "d")])
      [.element (Head.ofAttributes "g" [("style", "e:f"), ("style", "")])
        [.text "g", .element (Head.ofAttributes "i" []) []]]
    compile false ("<svg id='a' class='x' class='\u2028b\tc' id='d'><style>b</style>" ++
        "<g style='e:f' style=''>g<i/></g></svg>") = .ok image ∧
      List.Forall₂
        (fun start element => element.head.Represents start.1 start.2 ∧
          ∀ child ∈ element.children, (∃ content, child = .text content) ∨
            ∃ inner : Element, child = inner.toNode)
        (starts ("<svg id='a' class='x' class='\u2028b\tc' id='d'><style>b</style>" ++
          "<g style='e:f' style=''>g<i/></g></svg>")) image.toNode.elements := by
  intro image
  have compiled :
      compile false ("<svg id='a' class='x' class='\u2028b\tc' id='d'><style>b</style>" ++
        "<g style='e:f' style=''>g<i/></g></svg>") = .ok image := rfl
  exact ⟨compiled, compile_represents compiled⟩

end SvgComponent.Markup
