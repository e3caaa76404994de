/-
This file shows that a module determines the root from which it was generated.
-/

import SvgComponent.Proofs.Component.Expression
import SvgComponent.Proofs.Component.Module

namespace SvgComponent.Component

open Markup
open Value.Relaxed (Reads)

/-- A root keeps its class as it is written, its style as declarations, and its other attributes.
The tag of a root is not kept. -/
structure RootView where
  staticClass : Option String
  declarations : Option (Mapping String String)
  attributes : Mapping String String
  children : List View

/-- The declarations of a style, if there is one. -/
def styleOf (head : Head) : Option (Mapping String String) :=
  head.staticStyle.map fun _ => Style.parse ((head.attributes.valueAt? "style").getD "")

def RootView.ofElement (root : Element) : RootView where
  staticClass := root.head.staticClass
  declarations := styleOf root.head
  attributes := root.head.attributes.without "class"
  children := View.ofNodes root.children

theorem styleOf_ofAttributes (tag : String) (attributes : List (String × String)) :
    styleOf (Head.ofAttributes tag attributes) =
      (nonempty? ((Mapping.ofEntries attributes).valueAt? "style")).map Style.parse := by
  simp only [styleOf, Head.ofAttributes, nonempty?]
  cases (Mapping.ofEntries attributes).valueAt? "style" with
  | none => rfl
  | some text =>
      by_cases empty : text = ""
      · subst empty
        rfl
      · have kept : Option.filter (fun content => content ≠ "") (some text) = some text := by
          simp [empty]
        rw [kept]
        rfl

/-- The declarations of a style are what is written. -/
theorem staticStyle_ofAttributes (tag : String) (attributes : List (String × String)) :
    (Head.ofAttributes tag attributes).staticStyle =
      (styleOf (Head.ofAttributes tag attributes)).map Value.Compact.writeStrings := by
  rw [styleOf_ofAttributes]
  exact (ofAttributes_literals tag attributes).2

/-- No property is declared twice in a style. -/
theorem nodup_styleOf (tag : String) (attributes : List (String × String)) :
    ∀ mapping ∈ styleOf (Head.ofAttributes tag attributes), (Mapping.keys mapping).Nodup := by
  intro mapping member
  rw [styleOf_ofAttributes] at member
  obtain ⟨text, -, rfl⟩ := Option.map_eq_some_iff.mp member
  exact Mapping.nodup_keys_ofEntries _

namespace Decode

/-- The text of a module up to the classes of its root. -/
def opening : String :=
  String.join ((preamble ++ ["      'svg',", "      \x7b"]).map fun line => line ++ "\n") ++
    "        class: ["

/-- The text of a module after the children of its root. -/
def closing : String :=
  "\n    )\n  \x7d\n\x7d\n"

/-- A value in front of names, if there is one. -/
def listed? (names : String) (text : List Char) : Option (Option Value × List Char) :=
  match mark? names text with
  | some rest => some (none, rest)
  | none => do
      let (found, rest) ← value? text
      let rest ← mark? ("," ++ names) rest
      return (some found, rest)

def attributes? (text : List Char) : Option (Mapping String String × List Char) :=
  match mark? "attrs: Object.assign(" text with
  | some rest => do
      let (found, rest) ← value? rest
      let rest ← mark? ", attrs)" rest
      return (strings found, rest)
  | none => do
      let rest ← mark? "attrs" text
      return ([], rest)

def children? (text : List Char) : Option (List View × List Char) :=
  match mark? "children.concat([" text with
  | some rest => do
      let (children, rest) ← nodes? rest.length rest
      let rest ← mark? ")" rest
      return (children, rest)
  | none => do
      let rest ← mark? "children" text
      return ([], rest)

/-- The root of a module, read from its source. -/
def root? (source : String) : Option RootView := do
  let rest ← mark? opening source.toList
  let (staticClass, rest) ← listed? "classNames,staticClass" rest
  let rest ← mark? "],\n        style: [" rest
  let (declarations, rest) ← listed? "style,staticStyle" rest
  let rest ← mark? "],\n        " rest
  let (attributes, rest) ← attributes? rest
  let rest ← mark? ",\n        ...rest,\n      \x7d,\n      " rest
  let (children, rest) ← children? rest
  let rest ← mark? closing rest
  if rest.isEmpty then
    return {
      staticClass := staticClass.map Value.Compact.write
      declarations := declarations.map strings
      attributes
      children }
  else none

/-- The texts between the fragments of a module are the same for all of them. -/
theorem toList_source (fragments : Fragments) :
    fragments.source.toList = opening.toList ++ (fragments.classes.toList ++
      ("],\n        style: [".toList ++ (fragments.styles.toList ++
        ("],\n        ".toList ++ (fragments.attributes.toList ++
          (",\n        ...rest,\n      \x7d,\n      ".toList ++ (fragments.children.toList ++
            closing.toList))))))) := by
  rw [Fragments.source, moduleText, opening, closing, creation, ending]
  simp

/-- A literal in front of names is read back, and nothing is read if there is none. -/
theorem listed?_reads {α : Type} {names : String} {content : Option α} {write : α → String}
    {value : α → Value}
    (apart : ∀ part ∈ content, ∀ rest, mark? names ((write part).toList ++ rest) = none)
    (read : ∀ part ∈ content, Reads (write part).toList (value part)) (rest : List Char) :
    listed? names (((content.map fun part => write part ++ ",").getD "" ++ names).toList ++ rest) =
      some (content.map value, rest) := by
  cases content with
  | none =>
      rw [Option.map_none, Option.getD_none, String.empty_append, listed?, mark?_append]
      rfl
  | some part =>
      rw [Option.map_some, Option.getD_some, String.append_assoc, String.toList_append,
        List.append_assoc, listed?, apart part rfl, value?_reads (read part rfl)]
      simp only [bind, Option.bind, mark?_append, pure, Option.map_some]

theorem attributes?_reads {head : Head}
    (distinct : (Mapping.keys (head.attributes.without "class")).Nodup) (rest : List Char) :
    attributes? ((attributesFragment head).toList ++ ',' :: rest) =
      some (head.attributes.without "class", ',' :: rest) := by
  rw [attributesFragment]
  cases written : head.attributes.without "class" with
  | nil =>
      have bare : mark? "attrs: Object.assign(" ("attrs".toList ++ ',' :: rest) = none := rfl
      rw [List.isEmpty_nil, if_pos rfl, attributes?, bare]
      simp only [bind, Option.bind, mark?_append, pure]
  | cons entry entries =>
      rw [written] at distinct
      rw [List.isEmpty_cons, if_neg Bool.false_ne_true, String.toList_append, String.toList_append,
        List.append_assoc, List.append_assoc, attributes?, mark?_append]
      simp only [bind, Option.bind, value?_reads (Value.Relaxed.reads_strings distinct),
        mark?_append, pure, strings_ofStrings]

theorem children?_reads {children : List Node} (legible : ∀ child ∈ children, IsLegible child) :
    ∃ text, childrenFragment? children = some text ∧ ∀ rest,
      children? (text.toList ++ '\n' :: rest) = some (View.ofNodes children, '\n' :: rest) := by
  cases children with
  | nil =>
      refine ⟨"children", rfl, fun rest => ?_⟩
      have bare : mark? "children.concat([" ("children".toList ++ '\n' :: rest) = none := rfl
      rw [children?, bare]
      simp only [bind, Option.bind, mark?_append, pure, View.ofNodes]
  | cons child children =>
      obtain ⟨texts, written, each⟩ := expressions?_reads (child :: children) legible
      refine ⟨"children.concat(" ++ array texts ++ ")", ?_, fun rest => ?_⟩
      · rw [childrenFragment?, List.isEmpty_cons, if_neg Bool.false_ne_true, Component.children?,
          written]
        rfl
      · have present : texts ≠ [] := by
          rintro rfl
          cases each
        have shape : ("children.concat(" ++ array texts ++ ")").toList =
            "children.concat([".toList ++ ((String.intercalate "," texts).toList ++
              ']' :: ")".toList) := by
          rw [array]
          simp
        have inside := nodes?_reads each present
          ((String.intercalate "," texts).toList ++ ']' :: (")".toList ++ '\n' :: rest)).length
          (")".toList ++ '\n' :: rest) (by simp)
        simp only [shape, List.append_assoc, List.cons_append, children?, mark?_append, bind,
          Option.bind, inside, pure]

/-- Names are listed after a literal, if there is one. -/
theorem joinPresent_listed {α : Type} {content : Option α} {write : α → String}
    (visible : ∀ part ∈ content, write part ≠ "") {first last : String} (named : "" ∉ [first, last]) :
    joinPresent [content.map write, some first, some last] =
      (content.map fun part => write part ++ ",").getD "" ++ (first ++ "," ++ last) := by
  have present : content.map write ≠ some "" := by
    intro empty
    obtain ⟨part, inside, same⟩ := Option.map_eq_some_iff.mp empty
    exact visible part inside same
  rw [show [content.map write, some first, some last] =
    content.map write :: [first, last].map some from rfl, joinPresent_names present named]
  cases content <;> simp [String.append_assoc]

/-- A class is read back in front of the names of the other classes. -/
theorem classes_reads (staticClass : Option String) (rest : List Char) :
    listed? "classNames,staticClass"
        ((joinPresent [staticClass.map Value.Compact.writeString, some "classNames",
          some "staticClass"]).toList ++ rest) =
      some (staticClass.map .string, rest) := by
  rw [joinPresent_listed (fun part _ => writeString_ne_empty part) (by decide)]
  refine listed?_reads (fun part _ after => ?_) (fun part _ => reads_writeString part) rest
  rw [Value.Compact.writeString, Value.Compact.write, String.toList_ofList]
  rfl

/-- Declarations are read back in front of the names of the other styles. -/
theorem styles_reads {declarations : Option (Mapping String String)}
    (distinct : ∀ mapping ∈ declarations, (Mapping.keys mapping).Nodup) (rest : List Char) :
    listed? "style,staticStyle"
        ((joinPresent [declarations.map Value.Compact.writeStrings, some "style",
          some "staticStyle"]).toList ++ rest) =
      some (declarations.map .ofStrings, rest) := by
  rw [joinPresent_listed (fun part _ => writeStrings_ne_empty part) (by decide)]
  refine listed?_reads (fun part _ after => ?_)
    (fun part inside => Value.Relaxed.reads_strings (distinct part inside)) rest
  rw [Value.Compact.writeStrings, Value.Compact.write, String.toList_ofList]
  cases part <;> rfl

/-- The module of a compiled root is read back as what is kept of the root. -/
theorem root?_source {tag : String} {attributes : List (String × String)} {root : Element}
    (named : root.head = Head.ofAttributes tag attributes)
    (compiled : Node.AllCompiled root.children) :
    ∃ source, source? root = some source ∧ root? source = some (.ofElement root) := by
  obtain ⟨head, children⟩ := root
  obtain rfl : head = Head.ofAttributes tag attributes := named
  obtain ⟨text, found, read⟩ :=
    children?_reads fun child member => isLegible_of_isCompiled (compiled child member)
  refine ⟨_, by rw [source?, Fragments.ofElement?, found]; rfl, ?_⟩
  have listed : (Mapping.keys ((Head.ofAttributes tag attributes).attributes.without
      "class")).Nodup := Mapping.nodup_keys_without (Mapping.nodup_keys_ofEntries attributes) "class"
  have classed := (ofAttributes_literals tag attributes).1
  have styled := staticStyle_ofAttributes tag attributes
  have distinct := nodup_styleOf tag attributes
  have attributed (after : List Char) :
      attributes? ((attributesFragment (Head.ofAttributes tag attributes)).toList ++
        (",\n        ...rest,\n      \x7d,\n      ".toList ++ after)) =
        some ((Head.ofAttributes tag attributes).attributes.without "class",
          ",\n        ...rest,\n      \x7d,\n      ".toList ++ after) :=
    attributes?_reads listed _
  have ended : children? (text.toList ++ closing.toList) =
      some (View.ofNodes children, closing.toList) := read _
  have closed : mark? closing closing.toList = some [] := by
    simpa using mark?_append closing []
  rw [root?, toList_source, mark?_append]
  simp only [bind, Option.bind, classed, styled, classes_reads, styles_reads distinct,
    mark?_append, attributed, ended, closed]
  have classKept : (((nonempty? ((Mapping.ofEntries attributes).valueAt? "class")).map
      classText).map Value.string).map Value.Compact.write =
        (Head.ofAttributes tag attributes).staticClass := by
    rw [classed, Option.map_map]
    rfl
  have styleKept : ((styleOf (Head.ofAttributes tag attributes)).map Value.ofStrings).map strings =
      styleOf (Head.ofAttributes tag attributes) := by
    cases styleOf (Head.ofAttributes tag attributes) with
    | none => rfl
    | some mapping => exact congrArg some (strings_ofStrings mapping)
  rw [classKept, styleKept]
  rfl

end Decode

/-- The source of a module determines the root for which it was generated, up to the tag of the
root: it can be read back, so roots with the same source have the same class, the same style, the
same other attributes in the same order, and the same children. -/
theorem source_determines_root {firstPreserve secondPreserve : Bool} {first second : String}
    {firstRoot secondRoot : Element}
    (firstCompiled : compile firstPreserve first = .ok firstRoot)
    (secondCompiled : compile secondPreserve second = .ok secondRoot) :
    (∃ source, source? firstRoot = some source ∧
      Decode.root? source = some (.ofElement firstRoot)) ∧
    (source? firstRoot = source? secondRoot →
      firstRoot.head.staticClass = secondRoot.head.staticClass ∧
      firstRoot.head.staticStyle = secondRoot.head.staticStyle ∧
      styleOf firstRoot.head = styleOf secondRoot.head ∧
      firstRoot.head.attributes.without "class" = secondRoot.head.attributes.without "class" ∧
      View.ofNodes firstRoot.children = View.ofNodes secondRoot.children) := by
  obtain ⟨firstTag, firstAttributes, firstNamed, firstInside⟩ := compile_compiled firstCompiled
  obtain ⟨secondTag, secondAttributes, secondNamed, secondInside⟩ := compile_compiled secondCompiled
  obtain ⟨firstSource, firstFound, firstRead⟩ := Decode.root?_source firstNamed firstInside
  obtain ⟨secondSource, secondFound, secondRead⟩ := Decode.root?_source secondNamed secondInside
  refine ⟨⟨firstSource, firstFound, firstRead⟩, fun same => ?_⟩
  rw [firstFound, secondFound, Option.some.injEq] at same
  rw [same, secondRead, Option.some.injEq, RootView.ofElement, RootView.ofElement,
    RootView.mk.injEq] at firstRead
  obtain ⟨classes, styles, attributes, children⟩ := firstRead
  refine ⟨classes.symm, ?_, styles.symm, attributes.symm, children.symm⟩
  rw [firstNamed, secondNamed] at styles ⊢
  rw [staticStyle_ofAttributes, staticStyle_ofAttributes, styles]

/-- The tag of the root, blanks of a class and the order of a class among other attributes leave no
trace in a module, and neither do they in what is read back. -/
theorem source_determines_root_tags :
    ∃ first second,
      compile false "<svg class=' a  b' id='x'><g style='c:d'>t</g></svg>" = .ok first ∧
      compile true "<q id='x' class='a b'><g style=' c: d ;'>t</g></q>" = .ok second ∧
      source? first = source? second ∧ first.head.staticClass = second.head.staticClass ∧
      styleOf first.head = styleOf second.head ∧
      View.ofNodes first.children = View.ofNodes second.children := by
  have firstCompiled : compile false "<svg class=' a  b' id='x'><g style='c:d'>t</g></svg>" =
      .ok ⟨Head.ofAttributes "svg" [("class", " a  b"), ("id", "x")],
        [.element (Head.ofAttributes "g" [("style", "c:d")]) [.text "t"]]⟩ := rfl
  have secondCompiled : compile true "<q id='x' class='a b'><g style=' c: d ;'>t</g></q>" =
      .ok ⟨Head.ofAttributes "q" [("id", "x"), ("class", "a b")],
        [.element (Head.ofAttributes "g" [("style", " c: d ;")]) [.text "t"]]⟩ := rfl
  obtain ⟨-, determined⟩ := source_determines_root firstCompiled secondCompiled
  have same : source? ⟨Head.ofAttributes "svg" [("class", " a  b"), ("id", "x")],
        [.element (Head.ofAttributes "g" [("style", "c:d")]) [.text "t"]]⟩ =
      source? ⟨Head.ofAttributes "q" [("id", "x"), ("class", "a b")],
        [.element (Head.ofAttributes "g" [("style", " c: d ;")]) [.text "t"]]⟩ := by
    decide +kernel
  obtain ⟨classes, -, styles, -, children⟩ := determined same
  exact ⟨_, _, firstCompiled, secondCompiled, same, classes, styles, children⟩

end SvgComponent.Component
