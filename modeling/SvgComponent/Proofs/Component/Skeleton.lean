/-
This file shows that a module is determined by the shape of its tree, apart from the contents of
its literals.
-/

import Mathlib.Data.List.Forall2
import SvgComponent.Component.Source
import SvgComponent.Proofs.Component.Literal
import SvgComponent.Proofs.Mapping
import SvgComponent.Proofs.Markup.Compiled

namespace SvgComponent.Component

open Markup

-- A property of all members of a list is decided by the members, not by all characters.
attribute [local instance (high)] List.decidableBAll

/-- How many parts of each kind the start of an element has. -/
structure Parts where
  hasClass : Bool
  /-- The number of declarations, if there is a style. -/
  declarations : Option Nat
  attributes : Nat
  deriving DecidableEq

/-- A skeleton keeps the kinds of the nodes and the numbers of their parts, and no text. -/
inductive Skeleton where
  | text
  | element (parts : Parts) (children : List Skeleton)
  | bare

/-- The number of declarations of a style, if there is one. -/
def declarations? (head : Head) : Option Nat :=
  head.staticStyle.map fun _ => (Style.parse ((head.attributes.valueAt? "style").getD "")).length

namespace Skeleton

/-- Attributes of one name are counted once. -/
def nodeParts (head : Head) : Parts where
  hasClass := head.staticClass.isSome
  declarations := declarations? head
  attributes := (head.entries.map Prod.fst).dedup.length

/-- The root keeps its style among its attributes. -/
def rootParts (head : Head) : Parts where
  hasClass := head.staticClass.isSome
  declarations := declarations? head
  attributes := (head.attributes.without "class").length

mutual

def ofNode : Node → Skeleton
  | .text _ => text
  | .element head children => element (nodeParts head) (ofNodes children)
  | .bare => bare

def ofNodes : List Node → List Skeleton
  | [] => []
  | node :: nodes => ofNode node :: ofNodes nodes

end

def ofRoot (root : Element) : Skeleton :=
  element (rootParts root.head) (ofNodes root.children)

end Skeleton

/-- A written text is stripped to an outline, whatever follows it. -/
def Empties (text outline : String) : Prop :=
  Check.Strips text.toList outline.toList

namespace Empties

theorem append {first second firstOutline secondOutline : String}
    (front : Empties first firstOutline) (back : Empties second secondOutline) :
    Empties (first ++ second) (firstOutline ++ secondOutline) := by
  unfold Empties
  rw [String.toList_append, String.toList_append]
  exact Check.Strips.append front back

theorem plain {text : String} (unquoted : ∀ c ∈ text.toList, Check.isQuote c = false) :
    Empties text text :=
  Check.Strips.plain unquoted

theorem literal (text : String) : Empties (Literal.write text) "''" :=
  Check.strips_literal text

/-- Commas between texts stay. -/
theorem intercalate {texts outlines : List String} (each : List.Forall₂ Empties texts outlines) :
    Empties (String.intercalate "," texts) (String.intercalate "," outlines) := by
  induction each with
  | nil => exact plain (by decide)
  | cons first others inductionHypothesis =>
      cases others with
      | nil => simpa using first
      | cons second others =>
          rw [String.intercalate_cons_cons, String.intercalate_cons_cons]
          exact (first.append (plain (by decide))).append inductionHypothesis

theorem call {function : String} (unquoted : ∀ c ∈ function.toList, Check.isQuote c = false)
    {texts outlines : List String} (each : List.Forall₂ Empties texts outlines) :
    Empties (call function texts) (call function outlines) :=
  (((plain unquoted).append (plain (by decide))).append (intercalate each)).append
    (plain (by decide))

theorem array {texts outlines : List String} (each : List.Forall₂ Empties texts outlines) :
    Empties (array texts) (array outlines) :=
  ((plain (by decide)).append (intercalate each)).append (plain (by decide))

end Empties

/-- The members of a mapping after the first one, without their texts. -/
def membersOutline : Nat → List Char
  | 0 => []
  | count + 1 => ',' :: '\'' :: '\'' :: ':' :: '\'' :: '\'' :: membersOutline count

/-- A mapping without its texts. -/
def mappingOutline : Nat → List Char
  | 0 => ['\x7b', '\x7d']
  | count + 1 => '\x7b' :: '\'' :: '\'' :: ':' :: '\'' :: '\'' :: (membersOutline count ++ ['\x7d'])

def outlineMapping (count : Nat) : String :=
  String.ofList (mappingOutline count)

theorem strips_members (mapping : Mapping String String) :
    Check.Strips (Value.Compact.membersText (mapping.map fun entry => (entry.1, .string entry.2)))
      (membersOutline mapping.length) := by
  induction mapping with
  | nil => exact .nil
  | cons entry mapping inductionHypothesis =>
      have comma : Check.Strips [','] [','] := .plain (by decide)
      have colon : Check.Strips [':'] [':'] := .plain (by decide)
      have member := (((comma.append (Check.strips_stringText entry.1)).append colon).append
        (Check.strips_stringText entry.2)).append inductionHypothesis
      simpa only [List.map_cons, List.length_cons, Value.Compact.membersText, Value.Compact.text,
        membersOutline, List.append_assoc, List.cons_append, List.nil_append] using member

/-- A mapping is stripped to the number of its entries. -/
theorem empties_mapping (mapping : Mapping String String) :
    Empties (Value.Compact.writeStrings mapping) (outlineMapping mapping.length) := by
  rw [Empties, Value.Compact.writeStrings, Value.Compact.write, outlineMapping,
    String.toList_ofList, String.toList_ofList]
  cases mapping with
  | nil => exact .plain (by decide)
  | cons entry mapping =>
      have opening : Check.Strips ['\x7b'] ['\x7b'] := .plain (by decide)
      have colon : Check.Strips [':'] [':'] := .plain (by decide)
      have closing : Check.Strips ['\x7d'] ['\x7d'] := .plain (by decide)
      have whole := (((((opening.append (Check.strips_stringText entry.1)).append colon).append
        (Check.strips_stringText entry.2)).append (strips_members mapping)).append closing)
      simpa only [List.map_cons, List.length_cons, Value.Compact.text, mappingOutline,
        List.append_assoc, List.cons_append, List.nil_append] using whole

/-- The fields of an element without their texts. -/
def outlineFields (parts : Parts) : List String :=
  (if parts.hasClass then ["staticClass" ++ ":" ++ "''"] else []) ++
    ((parts.declarations.map fun count => "staticStyle" ++ ":" ++ outlineMapping count).toList ++
      (if parts.attributes = 0 then [] else ["attrs" ++ ":" ++ outlineMapping parts.attributes]))

def outlineData? (parts : Parts) : Option String :=
  if (outlineFields parts).isEmpty then none
  else some ("\x7b" ++ String.intercalate "," (outlineFields parts) ++ "\x7d")

/-- The children of an element are one argument, if there are any. -/
def childrenArgument (texts : List String) : List String :=
  if texts.isEmpty then [] else [array texts]

/-- A property of texts and commas that is kept when texts are put together. -/
structure IsJoined (holds : String → Prop) : Prop where
  empty : holds ""
  comma : holds ","
  append {first second : String} (front : holds first) (back : holds second) :
    holds (first ++ second)

namespace IsJoined

variable {holds : String → Prop} (joined : IsJoined holds)

include joined

theorem intercalate {texts : List String} (each : ∀ text ∈ texts, holds text) :
    holds (String.intercalate "," texts) := by
  induction texts with
  | nil => exact joined.empty
  | cons text texts inductionHypothesis =>
      have first := each text List.mem_cons_self
      have others := inductionHypothesis fun other member =>
        each other (List.mem_cons_of_mem text member)
      cases texts with
      | nil => simpa using first
      | cons second texts =>
          rw [String.intercalate_cons_cons]
          exact joined.append (joined.append first joined.comma) others

theorem joinPresent {items : List (Option String)} (each : ∀ text, some text ∈ items → holds text) :
    holds (joinPresent items) := by
  apply joined.intercalate
  intro text member
  obtain ⟨item, known, kept⟩ := List.mem_filterMap.mp member
  obtain ⟨rfl, -⟩ := Option.filter_eq_some_iff.mp kept
  exact each text known

end IsJoined

/-- The argument is the array of the children. -/
theorem forall_childrenArgument {holds : String → Prop} {texts : List String}
    (arrayed : holds (array texts)) : ∀ argument ∈ childrenArgument texts, holds argument := by
  intro argument member
  rw [childrenArgument] at member
  split at member
  · contradiction
  · obtain rfl := List.mem_singleton.mp member
    exact arrayed

mutual

/-- The expression of a node without its texts. -/
def outline : Skeleton → String
  | .text => call "_v" ["''"]
  | .element parts children =>
      call "_c" ("''" :: ((outlineData? parts).toList ++ childrenArgument (outlines children)))
  | .bare => ""

def outlines : List Skeleton → List String
  | [] => []
  | skeleton :: skeletons => outline skeleton :: outlines skeletons

end

/-- A class is written as one literal. -/
theorem staticClass_compiled (tag : String) (attributes : List (String × String)) :
    (Head.ofAttributes tag attributes).staticClass = none ∨
      ∃ text, (Head.ofAttributes tag attributes).staticClass =
        some (Value.Compact.writeString text) := by
  simp only [Head.ofAttributes]
  cases nonempty? ((Mapping.ofEntries attributes).valueAt? "class") with
  | none => exact .inl rfl
  | some text => exact .inr ⟨_, rfl⟩

/-- A style is written as the mapping of its declarations. -/
theorem staticStyle_compiled (tag : String) (attributes : List (String × String)) :
    ((Head.ofAttributes tag attributes).staticStyle = none ∧
        declarations? (Head.ofAttributes tag attributes) = none) ∨
      ∃ mapping, (Head.ofAttributes tag attributes).staticStyle =
          some (Value.Compact.writeStrings mapping) ∧
        declarations? (Head.ofAttributes tag attributes) = some mapping.length := by
  simp only [declarations?, Head.ofAttributes]
  cases present : (Mapping.ofEntries attributes).valueAt? "style" with
  | none => exact .inl ⟨rfl, rfl⟩
  | some text =>
      by_cases empty : text = ""
      · subst empty
        exact .inl ⟨rfl, rfl⟩
      · have kept : nonempty? (some text) = some text := by simp [nonempty?, empty]
        rw [kept]
        exact .inr ⟨Style.parse text, rfl, rfl⟩

/-- A literal text of a value is never empty. -/
theorem writeString_ne_empty (text : String) : Value.Compact.writeString text ≠ "" := by
  intro empty
  have characters := congrArg String.toList empty
  rw [Value.Compact.writeString, Value.Compact.write, String.toList_ofList] at characters
  contradiction

theorem writeStrings_ne_empty (mapping : Mapping String String) :
    Value.Compact.writeStrings mapping ≠ "" := by
  intro empty
  have characters := congrArg String.toList empty
  rw [Value.Compact.writeStrings, Value.Compact.write, String.toList_ofList] at characters
  cases mapping <;> contradiction

/-- A field that has a text is written with its name. -/
theorem field?_some (name : String) {text : String} (present : text ≠ "") :
    field? name (some text) = some (name ++ ":" ++ text) := by
  simp [field?, present]

theorem empties_writeString (text : String) : Empties (Value.Compact.writeString text) "''" := by
  rw [Empties, Value.Compact.writeString, Value.Compact.write, String.toList_ofList]
  exact Check.strips_stringText text

/-- A written field is stripped to its name and the outline of its text. -/
theorem empties_field {name text outline : String}
    (unquoted : ∀ c ∈ name.toList, Check.isQuote c = false) (emptied : Empties text outline) :
    Empties (name ++ ":" ++ text) (name ++ ":" ++ outline) :=
  ((Empties.plain unquoted).append (.plain (by decide))).append emptied

/-- The class of a compiled element is written exactly if its skeleton has a class. -/
theorem empties_classField (tag : String) (attributes : List (String × String)) :
    List.Forall₂ Empties
      (field? "staticClass" (Head.ofAttributes tag attributes).staticClass).toList
      (if (Head.ofAttributes tag attributes).staticClass.isSome then
        ["staticClass" ++ ":" ++ "''"] else []) := by
  rcases staticClass_compiled tag attributes with missing | ⟨text, present⟩
  · rw [missing]
    exact .nil
  · rw [present, field?_some _ (writeString_ne_empty text)]
    exact .cons (empties_field (by decide) (empties_writeString text)) .nil

/-- The style of a compiled element is written with one member for each declaration. -/
theorem empties_styleField (tag : String) (attributes : List (String × String)) :
    List.Forall₂ Empties
      (field? "staticStyle" (Head.ofAttributes tag attributes).staticStyle).toList
      ((declarations? (Head.ofAttributes tag attributes)).map fun count =>
        "staticStyle" ++ ":" ++ outlineMapping count).toList := by
  rcases staticStyle_compiled tag attributes with ⟨missing, none⟩ | ⟨mapping, present, some⟩
  · rw [missing, none]
    exact .nil
  · rw [present, some, field?_some _ (writeStrings_ne_empty mapping)]
    exact .cons (empties_field (by decide) (empties_mapping mapping)) .nil

/-- The listed attributes are written with one member for each name. -/
theorem empties_attributesField (entries : List (String × String)) :
    List.Forall₂ Empties
      (field? "attrs" (if entries.isEmpty then none
        else some (Value.Compact.writeStrings (Mapping.ofEntries entries)))).toList
      (if (entries.map Prod.fst).dedup.length = 0 then []
        else ["attrs" ++ ":" ++ outlineMapping (entries.map Prod.fst).dedup.length]) := by
  rw [← Mapping.length_ofEntries]
  cases entries with
  | nil => exact .nil
  | cons entry entries =>
      have some : (Mapping.ofEntries (entry :: entries)).length ≠ 0 := by
        intro none
        have empty := Mapping.ofEntries_eq_nil (List.length_eq_zero_iff.mp none)
        contradiction
      rw [if_neg some, List.isEmpty_cons, if_neg Bool.false_ne_true,
        field?_some _ (writeStrings_ne_empty _)]
      exact .cons (empties_field (by decide) (empties_mapping _)) .nil

/-- The fields of a compiled element are determined by its parts, apart from their texts. -/
theorem empties_fields (tag : String) (attributes : List (String × String)) :
    List.Forall₂ Empties (fields (Head.ofAttributes tag attributes))
      (outlineFields (Skeleton.nodeParts (Head.ofAttributes tag attributes))) := by
  have three (first second third : Option String) :
      [first, second, third].filterMap id = first.toList ++ (second.toList ++ third.toList) := by
    cases first <;> cases second <;> cases third <;> rfl
  rw [fields, three]
  exact List.rel_append (empties_classField tag attributes)
    (List.rel_append (empties_styleField tag attributes) (empties_attributesField _))

/-- Without attributes there are no fields. -/
theorem outlineFields_empty {tag : String} {attributes : List (String × String)}
    (empty : (Head.ofAttributes tag attributes).attributes = []) :
    outlineFields (Skeleton.nodeParts (Head.ofAttributes tag attributes)) = [] := by
  obtain rfl := Mapping.ofEntries_eq_nil empty
  rfl

/-- The data of a compiled element is determined by its parts, apart from its texts. -/
theorem empties_data (tag : String) (attributes : List (String × String)) :
    List.Forall₂ Empties (data? (Head.ofAttributes tag attributes)).toList
      (outlineData? (Skeleton.nodeParts (Head.ofAttributes tag attributes))).toList := by
  have each := empties_fields tag attributes
  by_cases empty : (Head.ofAttributes tag attributes).attributes = []
  · rw [outlineData?, outlineFields_empty empty, data?, empty]
    exact .nil
  · have attributed : (Head.ofAttributes tag attributes).attributes.isEmpty = false := by
      simpa using empty
    rw [data?, outlineData?, attributed, Bool.false_or]
    cases written : fields (Head.ofAttributes tag attributes) with
    | nil =>
        rw [written] at each
        rw [List.forall₂_nil_left_iff.mp each]
        exact .nil
    | cons field others =>
        rw [written] at each
        cases outlined : outlineFields (Skeleton.nodeParts (Head.ofAttributes tag attributes)) with
        | nil =>
            rw [outlined] at each
            contradiction
        | cons outline outlines =>
            rw [outlined] at each
            have opening : Empties "\x7b" "\x7b" := .plain (by decide)
            have closing : Empties "\x7d" "\x7d" := .plain (by decide)
            exact .cons ((opening.append (.intercalate each)).append closing) .nil

theorem empties_childrenArgument {texts outlines : List String}
    (each : List.Forall₂ Empties texts outlines) :
    List.Forall₂ Empties (childrenArgument texts) (childrenArgument outlines) := by
  cases each with
  | nil => exact .nil
  | cons first others => exact .cons (.array (.cons first others)) .nil

/-- The expressions of the children are the last argument of the expression of an element. -/
theorem expression?_element (head : Head) (children : List Node) :
    expression? (.element head children) =
      (expressions? children).map fun texts =>
        call "_c" (Literal.write head.tag :: ((data? head).toList ++ childrenArgument texts)) := by
  cases children with
  | nil => simp [expression?, expressions?, childrenArgument]
  | cons child children =>
      rw [expression?, expressions?]
      cases expression? child with
      | none => rfl
      | some first =>
          cases expressions? children with
          | none => rfl
          | some others => rfl

mutual

/-- A compiled node has an expression, and its skeleton is the outline of it. -/
theorem expression?_empties : (node : Node) → node.IsCompiled →
    ∃ text, expression? node = some text ∧ Empties text (outline (Skeleton.ofNode node))
  | .text content, _ => by
      refine ⟨_, rfl, ?_⟩
      exact .call (by decide) (.cons (.literal content) .nil)
  | .bare, compiled => by cases compiled
  | .element head children, compiled => by
      cases compiled with
      | element tag attributes inside =>
          obtain ⟨texts, written, each⟩ := expressions?_empties children inside
          refine ⟨_, by rw [expression?_element, written]; rfl, ?_⟩
          apply Empties.call (by decide)
          apply List.Forall₂.cons (.literal _)
          exact List.rel_append (empties_data tag attributes) (empties_childrenArgument each)

theorem expressions?_empties : (nodes : List Node) → Node.AllCompiled nodes →
    ∃ texts, expressions? nodes = some texts ∧
      List.Forall₂ Empties texts (outlines (Skeleton.ofNodes nodes))
  | [], _ => ⟨[], rfl, .nil⟩
  | node :: nodes, compiled => by
      obtain ⟨text, written, emptied⟩ := expression?_empties node (compiled node List.mem_cons_self)
      obtain ⟨texts, others, each⟩ := expressions?_empties nodes fun other member =>
        compiled other (List.mem_cons_of_mem node member)
      refine ⟨text :: texts, ?_, .cons emptied each⟩
      rw [expressions?, written, others]
      rfl

end

end SvgComponent.Component
