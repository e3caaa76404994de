/-
This file shows that the expressions of nodes can be read back.
-/

import SvgComponent.Proofs.Component.Skeleton
import SvgComponent.Proofs.Value.Relaxed

namespace SvgComponent.Component

open Markup

-- A property of all members of a list is decided by the members, not by all characters.
attribute [local instance (high)] List.decidableBAll

/-- The class, the style and the attributes that are written for an element. -/
structure Data where
  staticClass : Option String
  staticStyle : Option String
  attributes : Mapping String String
  deriving DecidableEq

namespace Data

def empty : Data := ⟨none, none, []⟩

/-- Attributes of one name are written once. -/
def ofHead (head : Head) : Data :=
  ⟨head.staticClass, head.staticStyle, Mapping.ofEntries head.entries⟩

end Data

/-- A view keeps of a node what its expression depends on. -/
inductive View where
  | text (content : String)
  | element (tag : String) (data : Data) (children : List View)
  | bare

namespace View

mutual

def ofNode : Node → View
  | .text content => text content
  | .element head children => element head.tag (.ofHead head) (ofNodes children)
  | .bare => bare

def ofNodes : List Node → List View
  | [] => []
  | node :: nodes => ofNode node :: ofNodes nodes

end

end View

namespace Decode

/-- The text after a mark, if the text begins with the mark. -/
def mark? (mark : String) (text : List Char) : Option (List Char) :=
  mark.toList.isPrefixOf? text

def literal? (text : List Char) : Option (String × List Char) :=
  (Value.Relaxed.string text).toOption

def value? (text : List Char) : Option (Value × List Char) :=
  (Value.Relaxed.dialect.value (2 * text.length + 1) text).toOption

/-- The members of an object that are strings. -/
def strings : Value → Mapping String String
  | .object members => members.filterMap fun member =>
      match member.2 with
      | .string content => some (member.1, content)
      | _ => none
  | _ => []

/-- The class and the style are kept as they are written. -/
def dataOf : Value → Data
  | .object members =>
      { staticClass := (Mapping.valueAt? members "staticClass").map Value.Compact.write
        staticStyle := (Mapping.valueAt? members "staticStyle").map Value.Compact.write
        attributes := ((Mapping.valueAt? members "attrs").map strings).getD [] }
  | _ => .empty

/-- An object after a comma is the data of an element. -/
def data? (text : List Char) : Option (Data × List Char) :=
  match mark? ",\x7b" text with
  | none => some (.empty, text)
  | some _ => (value? (text.drop 1)).map fun found => (dataOf found.1, found.2)

mutual

/-- One unit of fuel for each character is enough for every node. -/
def node? : (fuel : Nat) → List Char → Option (View × List Char)
  | 0, _ => none
  | fuel + 1, text =>
      match mark? "_v(" text with
      | some rest => do
          let (content, rest) ← literal? rest
          let rest ← mark? ")" rest
          return (.text content, rest)
      | none => do
          let rest ← mark? "_c(" text
          let (tag, rest) ← literal? rest
          let (data, rest) ← data? rest
          let (children, rest) ←
            match mark? ",[" rest with
            | some rest => nodes? fuel rest
            | none => some ([], rest)
          let rest ← mark? ")" rest
          return (.element tag data children, rest)

/-- Nodes with commas between them, up to the closing bracket. -/
def nodes? : (fuel : Nat) → List Char → Option (List View × List Char)
  | 0, _ => none
  | fuel + 1, text => do
      let (first, rest) ← node? fuel text
      match mark? "," rest with
      | some rest =>
          let (others, rest) ← nodes? fuel rest
          return (first :: others, rest)
      | none =>
          let rest ← mark? "]" rest
          return ([first], rest)

end

theorem mark?_append (mark : String) (rest : List Char) :
    mark? mark (mark.toList ++ rest) = some rest :=
  List.isPrefixOf?_eq_some_iff_append_eq.mpr rfl

theorem literal?_write (text : String) (rest : List Char) :
    literal? ((Literal.write text).toList ++ rest) = some (text, rest) := by
  rw [literal?, Value.Relaxed.string_literal]
  rfl

theorem value?_reads {written : List Char} {found : Value}
    (read : Value.Relaxed.Reads written found) (rest : List Char) :
    value? (written ++ rest) = some (found, rest) := by
  rw [value?, read.value]
  · rfl
  · simp only [List.length_append]
    omega

theorem strings_ofStrings (mapping : Mapping String String) :
    strings (.ofStrings mapping) = mapping := by
  simp [strings, Value.ofStrings, List.filterMap_map]

/-- A list of arguments is its first one, with a comma in front of each other one. -/
theorem toList_intercalate (first : String) (others : List String) :
    (String.intercalate "," (first :: others)).toList =
      first.toList ++ others.flatMap fun other => ',' :: other.toList := by
  induction others generalizing first with
  | nil => simp
  | cons next others inductionHypothesis =>
      rw [String.intercalate_cons_cons, String.toList_append, String.toList_append,
        inductionHypothesis, List.flatMap_cons]
      simp

end Decode

open Value.Relaxed (Reads ReadsKey ReadsMembers)

/-- The literals of a head stand for a text and a mapping, and without attributes there is nothing
to write. -/
structure Legible (head : Head) : Prop where
  staticClass : ∃ content : Option String,
    head.staticClass = content.map Value.Compact.writeString
  staticStyle : ∃ declarations : Option (Mapping String String),
    head.staticStyle = declarations.map Value.Compact.writeStrings ∧
      ∀ mapping ∈ declarations, (Mapping.keys mapping).Nodup
  attributes : head.attributes = [] → Data.ofHead head = .empty

/-- All elements in a tree have legible heads. -/
inductive IsLegible : Node → Prop
  | text (content : String) : IsLegible (.text content)
  | element {head : Head} {children : List Node} (legible : Legible head)
      (inside : ∀ child ∈ children, IsLegible child) : IsLegible (.element head children)

/-- The text of a class and the declarations of a style are what is written. -/
theorem ofAttributes_literals (tag : String) (attributes : List (String × String)) :
    (Head.ofAttributes tag attributes).staticClass =
        ((nonempty? ((Mapping.ofEntries attributes).valueAt? "class")).map classText).map
          Value.Compact.writeString ∧
      (Head.ofAttributes tag attributes).staticStyle =
        ((nonempty? ((Mapping.ofEntries attributes).valueAt? "style")).map Style.parse).map
          Value.Compact.writeStrings := by
  simp only [Head.ofAttributes, Option.map_map, Function.comp_def, and_self]

theorem legible_ofAttributes (tag : String) (attributes : List (String × String)) :
    Legible (Head.ofAttributes tag attributes) where
  staticClass := ⟨_, (ofAttributes_literals tag attributes).1⟩
  staticStyle := by
    refine ⟨_, (ofAttributes_literals tag attributes).2, ?_⟩
    intro mapping member
    obtain ⟨text, -, rfl⟩ := Option.map_eq_some_iff.mp member
    exact Mapping.nodup_keys_ofEntries _
  attributes := by
    intro none
    obtain rfl := Mapping.ofEntries_eq_nil none
    rfl

theorem isLegible_of_isCompiled {node : Node} (compiled : node.IsCompiled) : IsLegible node := by
  induction compiled with
  | text content => exact .text content
  | element tag attributes _ inductionHypothesis =>
      exact .element (legible_ofAttributes tag attributes) inductionHypothesis

/-- A field is read as a member of an object. -/
def ReadsField (field : String) (member : String × Value) : Prop :=
  ∃ key item, field.toList = key ++ ':' :: item ∧ ReadsKey key member.1 ∧ Reads item member.2

/-- Fields with commas between them are read as members. -/
theorem readsMembers_intercalate {fields : List String} {members : List (String × Value)}
    (each : List.Forall₂ ReadsField fields members) (present : fields ≠ []) :
    ReadsMembers (String.intercalate "," fields).toList members := by
  induction each with
  | nil => contradiction
  | cons first others inductionHypothesis =>
      obtain ⟨key, item, shape, named, read⟩ := first
      cases others with
      | nil =>
          rw [String.intercalate_singleton, shape]
          exact .last named read
      | cons second others =>
          rw [String.intercalate_cons_cons, String.toList_append, String.toList_append, shape,
            List.append_assoc]
          exact .more named read (inductionHypothesis (List.cons_ne_nil _ _))

/-- A field with a literal is read as the member of its name. -/
theorem readsField {name literal : String} {found : Value}
    (named : ReadsKey name.toList name) (read : Reads literal.toList found) :
    ReadsField (name ++ ":" ++ literal) (name, found) := by
  refine ⟨name.toList, literal.toList, ?_, named, read⟩
  rw [String.toList_append, String.toList_append, List.append_assoc]
  rfl

theorem reads_writeString (content : String) :
    Reads (Value.Compact.writeString content).toList (.string content) := by
  rw [Value.Compact.writeString, Value.Compact.write, String.toList_ofList]
  exact Value.Relaxed.reads_string content

/-- A field stands for a member if it is there. -/
theorem readsField_map {α : Type} {name : String} {write : α → String} {value : α → Value}
    (named : ReadsKey name.toList name) {content : Option α}
    (read : ∀ part ∈ content, write part ≠ "" ∧ Reads (write part).toList (value part)) :
    List.Forall₂ ReadsField (field? name (content.map write)).toList
      (content.map fun part => (name, value part)).toList := by
  cases content with
  | none => exact .nil
  | some part =>
      obtain ⟨visible, found⟩ := read part rfl
      rw [Option.map_some, field?_some name visible]
      exact .cons (readsField named found) .nil

theorem filterMap_id_three {α : Type} (first second third : Option α) :
    [first, second, third].filterMap id = first.toList ++ (second.toList ++ third.toList) := by
  cases first <;> cases second <;> cases third <;> rfl

/-- The mapping of the attributes is written if there are any. -/
def writtenAttributes (head : Head) : Option (Mapping String String) :=
  if head.entries.isEmpty then none else some (Mapping.ofEntries head.entries)

/-- The fields are those of the class, the style and the other attributes. -/
theorem fields_eq (head : Head) :
    fields head = (field? "staticClass" head.staticClass).toList ++
      ((field? "staticStyle" head.staticStyle).toList ++
        (field? "attrs" ((writtenAttributes head).map Value.Compact.writeStrings)).toList) := by
  have attributed : (if head.entries.isEmpty then none
      else some (Value.Compact.writeStrings (Mapping.ofEntries head.entries))) =
        (writtenAttributes head).map Value.Compact.writeStrings := by
    rw [writtenAttributes]
    split <;> rfl
  rw [fields, filterMap_id_three, attributed]

/-- The members that the fields of a head are read as. -/
def dataMembers (head : Head) (staticClass : Option String)
    (declarations : Option (Mapping String String)) : List (String × Value) :=
  (staticClass.map fun content => ("staticClass", .string content)).toList ++
    ((declarations.map fun mapping => ("staticStyle", .ofStrings mapping)).toList ++
      ((writtenAttributes head).map fun mapping => ("attrs", .ofStrings mapping)).toList)

theorem readsFields {head : Head} {staticClass : Option String}
    {declarations : Option (Mapping String String)}
    (classed : head.staticClass = staticClass.map Value.Compact.writeString)
    (styled : head.staticStyle = declarations.map Value.Compact.writeStrings)
    (distinct : ∀ mapping ∈ declarations, (Mapping.keys mapping).Nodup) :
    List.Forall₂ ReadsField (fields head) (dataMembers head staticClass declarations) := by
  have listed : ∀ mapping ∈ writtenAttributes head, (Mapping.keys mapping).Nodup := by
    intro mapping member
    rw [writtenAttributes] at member
    split at member
    · contradiction
    · obtain rfl := Option.some.inj member
      exact Mapping.nodup_keys_ofEntries _
  rw [fields_eq, classed, styled]
  refine List.rel_append ?_ (List.rel_append ?_ ?_)
  · exact readsField_map (Value.Relaxed.readsKey_word (by decide) (by decide)) fun content _ =>
      ⟨writeString_ne_empty content, reads_writeString content⟩
  · exact readsField_map (Value.Relaxed.readsKey_word (by decide) (by decide)) fun mapping member =>
      ⟨writeStrings_ne_empty mapping, Value.Relaxed.reads_strings (distinct mapping member)⟩
  · exact readsField_map (Value.Relaxed.readsKey_word (by decide) (by decide)) fun mapping member =>
      ⟨writeStrings_ne_empty mapping, Value.Relaxed.reads_strings (listed mapping member)⟩

theorem writtenAttributes_getD (head : Head) :
    (writtenAttributes head).getD [] = Mapping.ofEntries head.entries := by
  rw [writtenAttributes]
  cases head.entries <;> rfl

theorem nodup_dataMembers (head : Head) (staticClass : Option String)
    (declarations : Option (Mapping String String)) :
    (Mapping.keys (dataMembers head staticClass declarations)).Nodup := by
  rw [dataMembers]
  cases staticClass <;> cases declarations <;> cases writtenAttributes head <;>
    simp [Mapping.keys]

/-- The members give back what was written for the head. -/
theorem dataOf_dataMembers {head : Head} {staticClass : Option String}
    {declarations : Option (Mapping String String)}
    (classed : head.staticClass = staticClass.map Value.Compact.writeString)
    (styled : head.staticStyle = declarations.map Value.Compact.writeStrings) :
    Decode.dataOf (.object (dataMembers head staticClass declarations)) = .ofHead head := by
  have members : Decode.dataOf (.object (dataMembers head staticClass declarations)) =
      ⟨staticClass.map Value.Compact.writeString, declarations.map Value.Compact.writeStrings,
        (writtenAttributes head).getD []⟩ := by
    rw [dataMembers]
    cases staticClass <;> cases declarations <;> cases writtenAttributes head <;>
      simp [Decode.dataOf, Mapping.valueAt?, Decode.strings_ofStrings, Value.Compact.writeString,
        Value.Compact.write_ofStrings]
  rw [members, ← classed, ← styled, writtenAttributes_getD, Data.ofHead]

namespace Decode

/-- An object after a comma is read as data. -/
theorem data?_object {inside : List Char} {members : List (String × Value)}
    (read : Reads ('\x7b' :: inside) (.object members)) (rest : List Char) :
    data? (',' :: '\x7b' :: inside ++ rest) = some (dataOf (.object members), rest) := by
  have marked : mark? ",\x7b" (',' :: '\x7b' :: inside ++ rest) = some (inside ++ rest) :=
    mark?_append ",\x7b" (inside ++ rest)
  have found := value?_reads read rest
  rw [data?, marked]
  simp only [List.cons_append, List.drop_succ_cons, List.drop_zero] at found ⊢
  rw [found, Option.map_some]

/-- The data of an element is read back if no other object follows it. -/
theorem data?_reads {head : Head} (legible : Legible head) {rest : List Char}
    (other : mark? ",\x7b" rest = none) :
    data? (((Component.data? head).toList.flatMap fun text => ',' :: text.toList) ++ rest) =
      some (.ofHead head, rest) := by
  obtain ⟨staticClass, classed⟩ := legible.staticClass
  obtain ⟨declarations, styled, distinct⟩ := legible.staticStyle
  have each := readsFields classed styled distinct
  have kept := dataOf_dataMembers classed styled
  have nothing (missing : Data.ofHead head = .empty) (unwritten : Component.data? head = none) :
      data? (((Component.data? head).toList.flatMap fun text => ',' :: text.toList) ++ rest) =
        some (.ofHead head, rest) := by
    rw [unwritten, missing]
    simp only [Option.toList_none, List.flatMap_nil, List.nil_append, data?, other]
  by_cases attributed : head.attributes = []
  · exact nothing (legible.attributes attributed) (by simp [Component.data?, attributed])
  by_cases fielded : fields head = []
  · rw [fielded, List.forall₂_nil_left_iff] at each
    refine nothing ?_ (by simp [Component.data?, fielded])
    rw [← kept, each]
    rfl
  · have read := (readsMembers_intercalate each fielded).reads (nodup_dataMembers head _ _)
    have written : Component.data? head =
        some ("\x7b" ++ String.intercalate "," (fields head) ++ "\x7d") := by
      simp [Component.data?, attributed, fielded]
    have braced : ("\x7b" ++ String.intercalate "," (fields head) ++ "\x7d").toList =
        '\x7b' :: ((String.intercalate "," (fields head)).toList ++ ['\x7d']) := by
      rw [String.toList_append, String.toList_append]
      rfl
    rw [written, Option.toList_some, List.flatMap_singleton, braced, ← kept]
    exact data?_object read rest

/-- An expression is read back as a view, whatever follows it. -/
def ReadsNode (written : List Char) (view : View) : Prop :=
  ∀ fuel rest, written.length ≤ fuel → node? fuel (written ++ rest) = some (view, rest)

theorem toList_call (function first : String) (others : List String) :
    (call function (first :: others)).toList =
      (function ++ "(").toList ++ (first.toList ++
        ((others.flatMap fun other => ',' :: other.toList) ++ ")".toList)) := by
  rw [call, String.toList_append, String.toList_append, toList_intercalate]
  simp only [List.append_assoc]

theorem readsNode_text (content : String) :
    ReadsNode (call "_v" [Literal.write content]).toList (.text content) := by
  intro fuel rest enough
  rw [toList_call] at enough ⊢
  cases fuel with
  | zero => simp at enough
  | succ fuel =>
      rw [show "_v" ++ "(" = "_v(" from rfl, List.flatMap_nil, List.nil_append, List.append_assoc,
        List.append_assoc, node?, mark?_append]
      simp only [bind, Option.bind, literal?_write, mark?_append, pure]

/-- Expressions with commas between them are read back up to the closing bracket. -/
theorem nodes?_reads {texts : List String} {views : List View}
    (each : List.Forall₂ (fun text view => ReadsNode text.toList view) texts views)
    (present : texts ≠ []) (fuel : Nat) (rest : List Char)
    (enough : (String.intercalate "," texts).toList.length < fuel) :
    nodes? fuel ((String.intercalate "," texts).toList ++ ']' :: rest) = some (views, rest) := by
  induction each generalizing fuel with
  | nil => contradiction
  | cons first others inductionHypothesis =>
      cases fuel with
      | zero => contradiction
      | succ fuel =>
          cases others with
          | nil =>
              rw [String.intercalate_singleton] at enough ⊢
              rw [nodes?, first fuel _ (by omega)]
              have unfinished : mark? "," (']' :: rest) = none := rfl
              have closed : mark? "]" (']' :: rest) = some rest := mark?_append "]" rest
              simp only [bind, Option.bind, unfinished, closed, pure]
          | cons second others =>
              rw [String.intercalate_cons_cons, String.toList_append, String.toList_append,
                List.append_assoc] at enough ⊢
              simp only [List.length_append] at enough
              have comma : ",".toList.length = 1 := rfl
              have later := inductionHypothesis (List.cons_ne_nil _ _) fuel (by omega)
              rw [nodes?, List.append_assoc, first fuel _ (by omega)]
              simp only [bind, Option.bind, mark?_append, later, pure]

theorem toList_childrenArgument (first : String) (others : List String) :
    ((childrenArgument (first :: others)).flatMap fun text => ',' :: text.toList) =
      ",[".toList ++ ((String.intercalate "," (first :: others)).toList ++ "]".toList) := by
  rw [childrenArgument, List.isEmpty_cons, if_neg Bool.false_ne_true, List.flatMap_singleton, array,
    String.toList_append, String.toList_append, List.append_assoc]
  rfl

theorem readsNode_element {head : Head} (legible : Legible head) {texts : List String}
    {views : List View}
    (each : List.Forall₂ (fun text view => ReadsNode text.toList view) texts views) :
    ReadsNode
      (call "_c" (Literal.write head.tag :: ((Component.data? head).toList ++
        childrenArgument texts))).toList
      (.element head.tag (.ofHead head) views) := by
  intro fuel rest enough
  rw [toList_call] at enough ⊢
  cases fuel with
  | zero => simp at enough
  | succ fuel =>
      have other (after : List Char) : mark? "_v(" ("_c(".toList ++ after) = none := rfl
      rw [show "_c" ++ "(" = "_c(" from rfl, List.flatMap_append] at enough ⊢
      simp only [List.append_assoc] at enough ⊢
      rw [node?, other]
      simp only [bind, Option.bind, mark?_append, literal?_write]
      cases each with
      | nil =>
          have read := data?_reads legible (show mark? ",\x7b" (")".toList ++ rest) = none from rfl)
          have alone : mark? ",[" (")".toList ++ rest) = none := rfl
          simp only [childrenArgument, List.isEmpty_nil, if_true, List.flatMap_nil, List.nil_append]
          simp only [read, alone, mark?_append, pure]
      | cons first others =>
          rw [toList_childrenArgument] at enough ⊢
          simp only [List.append_assoc, List.length_append] at enough ⊢
          have apart (after : List Char) : mark? ",\x7b" (",[".toList ++ after) = none := rfl
          have shorter : "_c(".toList.length = 3 := rfl
          have inside (after : List Char) := nodes?_reads (.cons first others)
            (List.cons_ne_nil _ _) fuel after (by omega)
          have closed (after : List Char) : "]".toList ++ after = ']' :: after := rfl
          simp only [data?_reads legible (apart _), mark?_append, closed, inside, pure]

mutual

/-- The expression of a node with legible heads is read back as the view of the node. -/
theorem expression?_reads : (node : Node) → IsLegible node →
    ∃ text, expression? node = some text ∧ ReadsNode text.toList (View.ofNode node)
  | .text content, _ => ⟨_, rfl, readsNode_text content⟩
  | .bare, legible => by cases legible
  | .element head children, legible => by
      cases legible with
      | element legible inside =>
          obtain ⟨texts, written, each⟩ := expressions?_reads children inside
          refine ⟨_, by rw [expression?_element, written]; rfl, ?_⟩
          rw [View.ofNode]
          exact readsNode_element legible each

theorem expressions?_reads : (nodes : List Node) → (∀ node ∈ nodes, IsLegible node) →
    ∃ texts, expressions? nodes = some texts ∧
      List.Forall₂ (fun text view => ReadsNode text.toList view) texts (View.ofNodes nodes)
  | [], _ => ⟨[], rfl, .nil⟩
  | node :: nodes, legible => by
      obtain ⟨text, written, read⟩ := expression?_reads node (legible node List.mem_cons_self)
      obtain ⟨texts, others, each⟩ := expressions?_reads nodes fun other member =>
        legible other (List.mem_cons_of_mem node member)
      refine ⟨text :: texts, ?_, ?_⟩
      · rw [expressions?, written, others]
        rfl
      · rw [View.ofNodes]
        exact .cons read each

end

end Decode
end SvgComponent.Component
