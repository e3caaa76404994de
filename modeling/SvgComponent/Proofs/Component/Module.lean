/-
This file shows that two modules of one skeleton differ only inside their literals.
-/

import SvgComponent.Proofs.Component.Skeleton

namespace SvgComponent.Component

open Markup

-- A property of all members of a list is decided by the members, not by all characters.
attribute [local instance (high)] List.decidableBAll

/-- The fragments of a root without their texts. -/
def outlineFragments (parts : Parts) (children : List Skeleton) : Fragments where
  classes := joinPresent
    [if parts.hasClass then some "''" else none, some "classNames", some "staticClass"]
  styles := joinPresent [parts.declarations.map outlineMapping, some "style", some "staticStyle"]
  attributes := if parts.attributes = 0 then "attrs"
    else "attrs: Object.assign(" ++ outlineMapping parts.attributes ++ ", attrs)"
  children := if children.isEmpty then "children"
    else "children.concat(" ++ array (outlines children) ++ ")"

/-- The module of a skeleton: all its literals are empty. -/
def outlineModule : Skeleton → String
  | .element parts children => moduleText "''" (outlineFragments parts children)
  | .text | .bare => ""

/-- Each fragment is stripped to a fragment. -/
structure Fragments.Empties (fragments outlines : Fragments) : Prop where
  classes : Component.Empties fragments.classes outlines.classes
  styles : Component.Empties fragments.styles outlines.styles
  attributes : Component.Empties fragments.attributes outlines.attributes
  children : Component.Empties fragments.children outlines.children

/-- A text that is stripped by itself is stripped to its outline. -/
theorem Empties.strip_eq {text outline : String} (emptied : Empties text outline) :
    Check.strip text.toList = outline.toList := by
  simpa using emptied []

/-- Texts are stripped one after the other. -/
theorem Empties.join {texts outlines : List String} (each : List.Forall₂ Empties texts outlines) :
    Empties (String.join texts) (String.join outlines) := by
  rw [Empties, String.toList_join, String.toList_join]
  induction each with
  | nil => exact .nil
  | cons first others inductionHypothesis => exact Check.Strips.append first inductionHypothesis

/-- Texts without quotes stay. -/
theorem Empties.allPlain {texts : List String}
    (unquoted : ∀ text ∈ texts, ∀ c ∈ text.toList, Check.isQuote c = false) :
    List.Forall₂ Empties texts texts := by
  induction texts with
  | nil => exact .nil
  | cons text texts inductionHypothesis =>
      exact .cons (.plain (unquoted text List.mem_cons_self))
        (inductionHypothesis fun other member => unquoted other (List.mem_cons_of_mem text member))

/-- A text in the middle of a line is stripped to its outline. -/
theorem Empties.between {before after text outline : String}
    (opening : ∀ c ∈ before.toList, Check.isQuote c = false) (emptied : Empties text outline)
    (closing : ∀ c ∈ after.toList, Check.isQuote c = false) :
    Empties (before ++ text ++ after) (before ++ outline ++ after) :=
  ((Empties.plain opening).append emptied).append (.plain closing)

theorem empties_creation {tag tagOutline : String} (named : Empties tag tagOutline)
    {fragments outlines : Fragments} (each : fragments.Empties outlines) :
    List.Forall₂ Empties (creation tag fragments) (creation tagOutline outlines) := by
  unfold creation
  apply List.Forall₂.cons (.between (by decide) named (by decide))
  apply List.Forall₂.cons (.plain (by decide))
  apply List.Forall₂.cons (.between (by decide) each.classes (by decide))
  apply List.Forall₂.cons (.between (by decide) each.styles (by decide))
  apply List.Forall₂.cons (.between (by decide) each.attributes (by decide))
  apply List.Forall₂.cons (.plain (by decide))
  apply List.Forall₂.cons (.plain (by decide))
  exact .cons ((Empties.plain (by decide)).append each.children) .nil

/-- A module is stripped line by line. -/
theorem empties_moduleText {tag tagOutline : String} (named : Empties tag tagOutline)
    {fragments outlines : Fragments} (each : fragments.Empties outlines) :
    Empties (moduleText tag fragments) (moduleText tagOutline outlines) := by
  have front : List.Forall₂ Empties preamble preamble := Empties.allPlain (by decide)
  have back : List.Forall₂ Empties ending ending := Empties.allPlain (by decide)
  apply Empties.join
  rw [List.forall₂_map_left_iff, List.forall₂_map_right_iff]
  have lines := List.rel_append (List.rel_append front (empties_creation named each)) back
  exact lines.imp fun line outline emptied => emptied.append (.plain (by decide))

/-- Names are joined with the text before them, if there is one. -/
theorem joinPresent_names {item : Option String} (present : item ≠ some "") {names : List String}
    (named : "" ∉ names) :
    joinPresent (item :: names.map some) = String.intercalate "," (item.toList ++ names) := by
  have kept : (names.map some).filterMap (fun item => item.filter (· ≠ "")) = names := by
    rw [List.filterMap_map]
    apply (List.filterMap_congr fun name member => ?_).trans (List.filterMap_some)
    have visible : name ≠ "" := by
      rintro rfl
      exact named member
    simp [visible]
  rw [joinPresent, List.filterMap_cons, kept]
  cases item with
  | none => rfl
  | some text =>
      have visible : text ≠ "" := fun empty => present (congrArg some empty)
      rw [Option.filter_some, if_pos (decide_eq_true visible)]
      rfl

/-- Names without quotes stay behind a text that is stripped. -/
theorem empties_joinPresent (names : List String) (named : "" ∉ names)
    (unquoted : ∀ name ∈ names, ∀ c ∈ name.toList, Check.isQuote c = false)
    {item outline : Option String} (present : item ≠ some "") (kept : outline ≠ some "")
    (emptied : List.Forall₂ Empties item.toList outline.toList) :
    Empties (joinPresent (item :: names.map some)) (joinPresent (outline :: names.map some)) := by
  rw [joinPresent_names present named, joinPresent_names kept named]
  exact .intercalate (List.rel_append emptied (Empties.allPlain unquoted))

theorem outlineMapping_ne_empty (count : Nat) : outlineMapping count ≠ "" := by
  intro empty
  have characters := congrArg String.toList empty
  rw [outlineMapping, String.toList_ofList] at characters
  cases count <;> contradiction

/-- The classes of a compiled root. -/
theorem empties_classes (tag : String) (attributes : List (String × String)) :
    Empties
      (joinPresent [(Head.ofAttributes tag attributes).staticClass, some "classNames",
        some "staticClass"])
      (joinPresent
        [if (Head.ofAttributes tag attributes).staticClass.isSome then some "''" else none,
          some "classNames", some "staticClass"]) := by
  apply empties_joinPresent ["classNames", "staticClass"] (by decide) (by decide)
  · rcases staticClass_compiled tag attributes with missing | ⟨text, present⟩
    · simp [missing]
    · simp [present, writeString_ne_empty]
  · split <;> simp
  · rcases staticClass_compiled tag attributes with missing | ⟨text, present⟩
    · rw [missing]
      exact .nil
    · rw [present]
      exact .cons (empties_writeString text) .nil

/-- The styles of a compiled root. -/
theorem empties_styles (tag : String) (attributes : List (String × String)) :
    Empties
      (joinPresent [(Head.ofAttributes tag attributes).staticStyle, some "style",
        some "staticStyle"])
      (joinPresent [(declarations? (Head.ofAttributes tag attributes)).map outlineMapping,
        some "style", some "staticStyle"]) := by
  apply empties_joinPresent ["style", "staticStyle"] (by decide) (by decide)
  · rcases staticStyle_compiled tag attributes with ⟨missing, -⟩ | ⟨mapping, present, -⟩
    · simp [missing]
    · simp [present, writeStrings_ne_empty]
  · simp [outlineMapping_ne_empty]
  · rcases staticStyle_compiled tag attributes with ⟨missing, none⟩ | ⟨mapping, present, some⟩
    · rw [missing, none]
      exact .nil
    · rw [present, some]
      exact .cons (empties_mapping mapping) .nil

/-- The attributes of the root are written with one member for each name other than the class. -/
theorem empties_attributes (head : Head) :
    Empties (attributesFragment head)
      (if (head.attributes.without "class").length = 0 then "attrs"
        else "attrs: Object.assign(" ++ outlineMapping (head.attributes.without "class").length ++
          ", attrs)") := by
  rw [attributesFragment]
  cases head.attributes.without "class" with
  | nil => exact .plain (by decide)
  | cons entry entries =>
      exact .between (by decide) (empties_mapping (entry :: entries)) (by decide)

/-- A compiled root has a module, and the outline of its skeleton is what the module is stripped
to. -/
theorem source?_empties {tag : String} {attributes : List (String × String)} {root : Element}
    (named : root.head = Head.ofAttributes tag attributes)
    (compiled : Node.AllCompiled root.children) :
    ∃ source, source? root = some source ∧
      Empties source (outlineModule (Skeleton.ofRoot root)) := by
  obtain ⟨head, children⟩ := root
  obtain rfl : head = Head.ofAttributes tag attributes := named
  obtain ⟨texts, written, each⟩ := expressions?_empties children compiled
  have inside : ∃ text, childrenFragment? children = some text ∧
      Empties text (if (Skeleton.ofNodes children).isEmpty then "children"
        else "children.concat(" ++ array (outlines (Skeleton.ofNodes children)) ++ ")") := by
    cases children with
    | nil => exact ⟨_, rfl, .plain (by decide)⟩
    | cons child children =>
        refine ⟨"children.concat(" ++ array texts ++ ")", ?_, ?_⟩
        · rw [childrenFragment?, children?, written]
          rfl
        · exact .between (by decide) (.array each) (by decide)
  obtain ⟨text, found, emptied⟩ := inside
  refine ⟨_, by rw [source?, Fragments.ofElement?, found]; rfl, ?_⟩
  apply empties_moduleText (.literal "svg")
  exact {
    classes := empties_classes tag attributes
    styles := empties_styles tag attributes
    attributes := empties_attributes _
    children := emptied }

/-- The modules of two roots with one skeleton are the same once their literals are emptied: both
are the outline of the skeleton. Nothing that the markup says stands outside a literal. -/
theorem modules_of_one_skeleton {firstPreserve secondPreserve : Bool} {first second : String}
    {firstRoot secondRoot : Element}
    (firstCompiled : compile firstPreserve first = .ok firstRoot)
    (secondCompiled : compile secondPreserve second = .ok secondRoot)
    (alike : Skeleton.ofRoot firstRoot = Skeleton.ofRoot secondRoot) :
    ∃ firstSource secondSource,
      source? firstRoot = some firstSource ∧ source? secondRoot = some secondSource ∧
        Check.strip firstSource.toList = Check.strip secondSource.toList ∧
        Check.strip firstSource.toList = (outlineModule (Skeleton.ofRoot firstRoot)).toList := by
  obtain ⟨firstTag, firstAttributes, firstNamed, firstInside⟩ := compile_compiled firstCompiled
  obtain ⟨secondTag, secondAttributes, secondNamed, secondInside⟩ := compile_compiled secondCompiled
  obtain ⟨firstSource, firstFound, firstEmptied⟩ := source?_empties firstNamed firstInside
  obtain ⟨secondSource, secondFound, secondEmptied⟩ := source?_empties secondNamed secondInside
  refine ⟨firstSource, secondSource, firstFound, secondFound, ?_, firstEmptied.strip_eq⟩
  rw [firstEmptied.strip_eq, secondEmptied.strip_eq, alike]

/-- Quotes, brackets, backslashes and line ends of the markup change nothing outside literals. -/
theorem modules_of_hostile_markup :
    ∃ plain hostile, compile false "<svg id='a'><g class='b' style='c:d'>e</g></svg>" = .ok plain ∧
      compile true "<g id='\");'><a class='\"]' style=\"x:'//\">\\');&#10;[</a></g>" = .ok hostile ∧
      ∃ plainSource hostileSource,
        source? plain = some plainSource ∧ source? hostile = some hostileSource ∧
          Check.strip plainSource.toList = Check.strip hostileSource.toList ∧
          Check.strip plainSource.toList = (outlineModule (Skeleton.ofRoot plain)).toList := by
  have plainCompiled : compile false "<svg id='a'><g class='b' style='c:d'>e</g></svg>" =
      .ok ⟨Head.ofAttributes "svg" [("id", "a")],
        [.element (Head.ofAttributes "g" [("class", "b"), ("style", "c:d")]) [.text "e"]]⟩ := rfl
  have hostileCompiled :
      compile true "<g id='\");'><a class='\"]' style=\"x:'//\">\\');&#10;[</a></g>" =
        .ok ⟨Head.ofAttributes "g" [("id", "\");")],
          [.element (Head.ofAttributes "a" [("class", "\"]"), ("style", "x:'//")])
            [.text "\\');\n["]]⟩ := rfl
  exact ⟨_, _, plainCompiled, hostileCompiled,
    modules_of_one_skeleton plainCompiled hostileCompiled rfl⟩

end SvgComponent.Component
