/-
This file shows that every module of a compiled tree passes the check of its structure.
-/

import SvgComponent.Proofs.Component.Module
import SvgComponent.Proofs.Component.Nesting

namespace SvgComponent.Component

open Markup

namespace Check

/-- A scan that succeeds does not look at the brackets that are open around it. -/
theorem scan_around {opened text next : List Char} (found : scan opened text = .ok next)
    (around : List Char) : scan (opened ++ around) text = .ok (next ++ around) := by
  induction text generalizing opened with
  | nil =>
      obtain rfl := Except.ok.inj found
      rfl
  | cons c text inductionHypothesis =>
      rcases scan_cons_cases found with
        ⟨plain, rest⟩ | ⟨opens, rest⟩ | ⟨last, others, rfl, kind, rest⟩
      · rw [scan_other plain]
        exact inductionHypothesis rest
      · rw [scan_opening opens]
        exact inductionHypothesis rest
      · rw [List.cons_append, scan_closing kind]
        exact inductionHypothesis rest

/-- A text takes the brackets that are open before it to those that are open after it, whatever is
open around them. -/
def Takes (before : List Char) (text : String) (after : List Char) : Prop :=
  ∀ around, scan (before ++ around) text.toList = .ok (after ++ around)

/-- A balanced text closes exactly the brackets that it opens. -/
def Balanced (text : String) : Prop :=
  Takes [] text []

theorem Takes.of_scan {before after : List Char} {text : String}
    (found : scan before text.toList = .ok after) : Takes before text after :=
  scan_around found

theorem Takes.append {before middle after : List Char} {first second : String}
    (front : Takes before first middle) (back : Takes middle second after) :
    Takes before (first ++ second) after := by
  intro around
  rw [String.toList_append, scan_append, front around]
  exact back around

namespace Balanced

/-- A balanced text can stand inside any brackets. -/
theorem takes {text : String} (balanced : Balanced text) (opened : List Char) :
    Takes opened text opened := by
  intro around
  exact balanced (opened ++ around)

theorem append {first second : String} (front : Balanced first) (back : Balanced second) :
    Balanced (first ++ second) :=
  Takes.append front back

/-- Brackets around a balanced text are closed by it. -/
theorem between {before after text : String} {opened : List Char} (opening : Takes [] before opened)
    (balanced : Balanced text) (closing : Takes opened after []) :
    Balanced (before ++ text ++ after) :=
  Takes.append (Takes.append opening (balanced.takes opened)) closing

/-- Commas are no brackets. -/
theorem isJoined : IsJoined Balanced :=
  ⟨fun _ => rfl, fun _ => rfl, append⟩

end Balanced

end Check

open Check

theorem balanced_call {function : String} (named : Balanced function) {texts : List String}
    (each : ∀ text ∈ texts, Balanced text) : Balanced (call function texts) := by
  have opening : Takes [] "(" ['('] := fun _ => rfl
  have closing : Takes ['('] ")" [] := fun _ => rfl
  exact .between (Takes.append named opening) (Balanced.isJoined.intercalate each) closing

theorem balanced_array {texts : List String} (each : ∀ text ∈ texts, Balanced text) :
    Balanced (array texts) := by
  have opening : Takes [] "[" ['['] := fun _ => rfl
  have closing : Takes ['['] "]" [] := fun _ => rfl
  exact .between opening (Balanced.isJoined.intercalate each) closing

/-- The members of a mapping contain no brackets. -/
theorem scan_membersOutline (count : Nat) (opened rest : List Char) :
    scan opened (membersOutline count ++ rest) = scan opened rest := by
  induction count with
  | zero => rfl
  | succ count inductionHypothesis => exact inductionHypothesis

theorem balanced_outlineMapping (count : Nat) : Balanced (outlineMapping count) := by
  intro around
  rw [outlineMapping, String.toList_ofList]
  cases count with
  | zero => rfl
  | succ count => exact scan_membersOutline count ('\x7b' :: around) ['\x7d']

theorem balanced_outlineFields (parts : Parts) :
    ∀ field ∈ outlineFields parts, Balanced field := by
  intro field member
  simp only [outlineFields, List.mem_append, Option.mem_toList, Option.map_eq_some_iff] at member
  have styled : Balanced ("staticStyle" ++ ":") := fun _ => rfl
  have attributed : Balanced ("attrs" ++ ":") := fun _ => rfl
  rcases member with classed | ⟨count, -, rfl⟩ | listed
  · split at classed
    · obtain rfl := List.mem_singleton.mp classed
      exact fun _ => rfl
    · contradiction
  · exact styled.append (balanced_outlineMapping count)
  · split at listed
    · contradiction
    · obtain rfl := List.mem_singleton.mp listed
      exact attributed.append (balanced_outlineMapping parts.attributes)

theorem balanced_outlineData (parts : Parts) :
    ∀ data ∈ (outlineData? parts).toList, Balanced data := by
  intro data member
  rw [outlineData?] at member
  split at member
  · contradiction
  · obtain rfl := List.mem_singleton.mp member
    have opening : Takes [] "\x7b" ['\x7b'] := fun _ => rfl
    have closing : Takes ['\x7b'] "\x7d" [] := fun _ => rfl
    exact .between opening (Balanced.isJoined.intercalate (balanced_outlineFields parts)) closing

mutual

/-- The outline of every skeleton is balanced. -/
theorem balanced_outline : (skeleton : Skeleton) → Balanced (outline skeleton)
  | .text => fun _ => rfl
  | .bare => fun _ => rfl
  | .element parts children => by
      have created : Balanced "_c" := fun _ => rfl
      rw [outline]
      apply balanced_call created
      intro argument member
      rcases List.mem_cons.mp member with rfl | member
      · exact fun _ => rfl
      · rcases List.mem_append.mp member with data | nested
        · exact balanced_outlineData parts argument data
        · exact forall_childrenArgument (balanced_array (balanced_outlines children)) argument nested

theorem balanced_outlines : (skeletons : List Skeleton) →
    ∀ text ∈ outlines skeletons, Balanced text
  | [], text, member => by contradiction
  | skeleton :: skeletons, text, member => by
      rcases List.mem_cons.mp member with rfl | later
      · exact balanced_outline skeleton
      · exact balanced_outlines skeletons text later

end

/-- Balanced fragments are put where any brackets may be open. -/
structure Fragments.AreBalanced (fragments : Fragments) : Prop where
  classes : Balanced fragments.classes
  styles : Balanced fragments.styles
  attributes : Balanced fragments.attributes
  children : Balanced fragments.children

theorem balanced_attributes (parts : Parts) (children : List Skeleton) :
    Balanced (outlineFragments parts children).attributes := by
  change Balanced (if parts.attributes = 0 then "attrs"
    else "attrs: Object.assign(" ++ outlineMapping parts.attributes ++ ", attrs)")
  have opening : Takes [] "attrs: Object.assign(" ['('] := fun _ => rfl
  have closing : Takes ['('] ", attrs)" [] := fun _ => rfl
  split
  · exact fun _ => rfl
  · exact .between opening (balanced_outlineMapping parts.attributes) closing

theorem balanced_children (parts : Parts) (children : List Skeleton) :
    Balanced (outlineFragments parts children).children := by
  change Balanced (if children.isEmpty then "children"
    else "children.concat(" ++ array (outlines children) ++ ")")
  have opening : Takes [] "children.concat(" ['('] := fun _ => rfl
  have closing : Takes ['('] ")" [] := fun _ => rfl
  split
  · exact fun _ => rfl
  · exact .between opening (balanced_array (balanced_outlines children)) closing

/-- The fragments of every skeleton are balanced. -/
theorem areBalanced_outlineFragments (parts : Parts) (children : List Skeleton) :
    (outlineFragments parts children).AreBalanced where
  classes := by
    apply Balanced.isJoined.joinPresent
    intro text member
    simp only [List.mem_cons, List.not_mem_nil, or_false, Option.some.injEq] at member
    rcases member with classed | rfl | rfl
    · split at classed
      · obtain rfl := Option.some.inj classed
        exact fun _ => rfl
      · contradiction
    · exact fun _ => rfl
    · exact fun _ => rfl
  styles := by
    apply Balanced.isJoined.joinPresent
    intro text member
    simp only [List.mem_cons, List.not_mem_nil, or_false, Option.some.injEq] at member
    rcases member with styled | rfl | rfl
    · obtain ⟨count, -, rfl⟩ := Option.map_eq_some_iff.mp styled.symm
      exact balanced_outlineMapping count
    · exact fun _ => rfl
    · exact fun _ => rfl
  attributes := balanced_attributes parts children
  children := balanced_children parts children

/-- Lines are scanned one after the other. -/
theorem takes_cons {before middle after : List Char} {line : String} {lines : List String}
    (first : Takes before line middle)
    (others : Takes middle (String.join (lines.map fun line => line ++ "\n")) after) :
    Takes before (String.join ((line :: lines).map fun line => line ++ "\n")) after := by
  have lineEnd : Balanced "\n" := fun _ => rfl
  rw [List.map_cons, String.join_cons]
  exact (first.append (lineEnd.takes middle)).append others

/-- The lines that create the root close the brackets that they open. -/
theorem balanced_creation {tag : String} (named : Balanced tag) {fragments : Fragments}
    (each : fragments.AreBalanced) :
    Balanced (String.join ((creation tag fragments).map fun line => line ++ "\n")) := by
  have indent : Balanced "      " := fun _ => rfl
  have comma : Balanced "," := fun _ => rfl
  have opened : Takes [] "        class: [" ['['] := fun _ => rfl
  have opened' : Takes [] "        style: [" ['['] := fun _ => rfl
  have closed : Takes ['['] "]," [] := fun _ => rfl
  have deeper : Balanced "        " := fun _ => rfl
  apply takes_cons (Balanced.between indent named comma)
  apply takes_cons (show Takes [] "      \x7b" ['\x7b'] from fun _ => rfl)
  apply takes_cons ((Balanced.between opened each.classes closed).takes ['\x7b'])
  apply takes_cons ((Balanced.between opened' each.styles closed).takes ['\x7b'])
  apply takes_cons ((Balanced.between deeper each.attributes comma).takes ['\x7b'])
  apply takes_cons (show Takes ['\x7b'] "        ...rest," ['\x7b'] from fun _ => rfl)
  apply takes_cons (show Takes ['\x7b'] "      \x7d," [] from fun _ => rfl)
  apply takes_cons (indent.append each.children)
  exact fun _ => rfl

/-- The text between the first brace of a module and the last one. -/
def bodyText (tag : String) (fragments : Fragments) : String :=
  "\n" ++ String.join
    ((preamble.tail ++ creation tag fragments ++ ending.dropLast).map fun line => line ++ "\n")

/-- A text in the outermost braces of a module. -/
def braced (text : String) : String :=
  "module.exports = \x7b" ++ text ++ "\x7d\n"

theorem toList_braced (text : String) :
    (braced text).toList = "module.exports = \x7b".toList ++ text.toList ++ "\x7d\n".toList := by
  change ("module.exports = \x7b" ++ text ++ "\x7d\n").toList = _
  rw [String.toList_append, String.toList_append]

/-- The outermost braces of a module stand on its first line and on its last one. -/
theorem moduleText_eq (tag : String) (fragments : Fragments) :
    moduleText tag fragments = braced (bodyText tag fragments) := by
  have lines (front middle back : List String) :
      String.join ((("module.exports = \x7b" :: front) ++ middle ++ (back ++ ["\x7d"])).map
          fun line => line ++ "\n") =
        "module.exports = \x7b" ++
          ("\n" ++ String.join ((front ++ middle ++ back).map fun line => line ++ "\n")) ++
          ("\x7d" ++ "\n") := by
    simp only [List.cons_append, List.map_cons, List.map_append, List.map_nil, String.join_cons,
      String.join_append, String.join_nil, String.append_assoc, String.append_empty]
  exact lines preamble.tail (creation tag fragments) ending.dropLast

/-- The lines before the root is created leave two brackets open in the body. -/
theorem takes_preamble :
    Takes [] (String.join (preamble.tail.map fun line => line ++ "\n")) ['(', '\x7b'] := by
  apply Takes.of_scan
  rw [String.toList_join, List.flatMap_map]
  simp only [String.toList_append]
  decide +kernel

/-- The lines after the root is created close the brackets that the first lines open. -/
theorem takes_ending :
    Takes ['(', '\x7b'] (String.join (ending.dropLast.map fun line => line ++ "\n")) [] :=
  .of_scan (by decide +kernel)

/-- The body of a module is balanced if its fragments are. -/
theorem balanced_bodyText {tag : String} (named : Balanced tag) {fragments : Fragments}
    (each : fragments.AreBalanced) : Balanced (bodyText tag fragments) := by
  have lineEnd : Balanced "\n" := fun _ => rfl
  rw [bodyText, List.map_append, List.map_append, String.join_append, String.join_append]
  exact lineEnd.append (.between takes_preamble (balanced_creation named each) takes_ending)

theorem balanced_moduleText {tag : String} (named : Balanced tag) {fragments : Fragments}
    (each : fragments.AreBalanced) : Balanced (moduleText tag fragments) := by
  have opening : Takes [] "module.exports = \x7b" ['\x7b'] := fun _ => rfl
  have closing : Takes ['\x7b'] "\x7d\n" [] := fun _ => rfl
  rw [moduleText_eq]
  exact .between opening (balanced_bodyText named each) closing

/-- Every module has the words of its first lines. -/
theorem occurs_moduleText {word : String}
    (inside : ∃ line ∈ preamble, word.toList <:+: line.toList) (tag : String)
    (fragments : Fragments) :
    Text.occurs word.toList (moduleText tag fragments).toList = true := by
  obtain ⟨line, member, found⟩ := inside
  rw [Text.occurs_iff]
  rw [moduleText, String.toList_join, List.map_append, List.map_append, List.flatMap_append,
    List.flatMap_append, List.append_assoc]
  apply List.IsInfix.trans _ (List.prefix_append _ _).isInfix
  have whole : (line ++ "\n").toList ∈ (preamble.map fun line => line ++ "\n").map String.toList :=
    List.mem_map_of_mem (List.mem_map_of_mem member)
  rw [List.flatMap_def]
  apply List.IsInfix.trans _ (List.infix_of_mem_flatten whole)
  rw [String.toList_append]
  exact found.trans (List.prefix_append _ _).isInfix

/-- The outline of a module passes the scan of its brackets. -/
theorem scan_outlineModule (root : Element) :
    scan [] (outlineModule (Skeleton.ofRoot root)).toList = .ok [] := by
  have named : Balanced "''" := fun _ => rfl
  have balanced := balanced_moduleText named
    (areBalanced_outlineFragments (Skeleton.rootParts root.head) (Skeleton.ofNodes root.children))
  exact balanced []

/-- The module of a compiled root passes the check. -/
theorem check_source {preserve : Bool} {markup : String} {root : Element}
    (compiled : Markup.compile preserve markup = .ok root) :
    ∃ source, source? root = some source ∧ check source = .ok () := by
  obtain ⟨tag, attributes, named, inside⟩ := compile_compiled compiled
  obtain ⟨source, found, emptied⟩ := source?_empties named inside
  refine ⟨source, found, ?_⟩
  obtain ⟨fragments, -, rfl⟩ := Option.map_eq_some_iff.mp found
  have marker : Text.occurs "functional: true".toList fragments.source.toList = true :=
    occurs_moduleText (by decide +kernel) _ fragments
  have render : Text.occurs "render(".toList fragments.source.toList = true :=
    occurs_moduleText (by decide +kernel) _ fragments
  rw [check, marker, render, emptied.strip_eq, scan_outlineModule]
  rfl

end SvgComponent.Component
