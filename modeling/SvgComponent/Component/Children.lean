/-
This file writes texts as literals of a module, and nodes as calls that create them.
-/

import SvgComponent.Markup.Node
import SvgComponent.Value.Compact

namespace SvgComponent.Component

open Markup

namespace Literal

/-- Line ends, quotes and backslashes cannot stand in a literal as they are. -/
def escape (c : Char) : List Char :=
  if c = '\\' then ['\\', '\\']
  else if c = '\'' then ['\\', '\'']
  else if c = '\n' then ['\\', 'n']
  else if c = '\r' then ['\\', 'r']
  else if c = '\u2028' then "\\u2028".toList
  else if c = '\u2029' then "\\u2029".toList
  else [c]

/-- A single-quoted literal. -/
def write (text : String) : String :=
  String.ofList ('\'' :: text.toList.flatMap escape ++ ['\''])

end Literal

/-- The items that are not empty, with commas between them. -/
def joinPresent (items : List (Option String)) : String :=
  String.intercalate "," (items.filterMap fun item => item.filter (· ≠ ""))

def field? (name : String) (literal : Option String) : Option String :=
  (literal.filter (· ≠ "")).map fun text => name ++ ":" ++ text

/-- The class, style and other attributes of an element, as far as it has them. -/
def fields (head : Head) : List String :=
  let attributes := if head.entries.isEmpty then none
    else some (Value.Compact.writeStrings (Mapping.ofEntries head.entries))
  [field? "staticClass" head.staticClass, field? "staticStyle" head.staticStyle,
    field? "attrs" attributes].filterMap id

/-- The object of the fields of an element, if it has any. -/
def data? (head : Head) : Option String :=
  if head.attributes.isEmpty || (fields head).isEmpty then none
  else some ("\x7b" ++ String.intercalate "," (fields head) ++ "\x7d")

def call (function : String) (arguments : List String) : String :=
  function ++ "(" ++ String.intercalate "," arguments ++ ")"

def array (items : List String) : String :=
  "[" ++ String.intercalate "," items ++ "]"

mutual

/-- A bare node has no expression. -/
def expression? : Node → Option String
  | .text content => some (call "_v" [Literal.write content])
  | .bare => none
  | .element head [] => some (call "_c" (Literal.write head.tag :: (data? head).toList))
  | .element head (child :: children) => do
      let first ← expression? child
      let others ← expressions? children
      return call "_c"
        (Literal.write head.tag :: ((data? head).toList ++ [array (first :: others)]))

def expressions? : List Node → Option (List String)
  | [] => some []
  | node :: nodes => do
      let first ← expression? node
      let others ← expressions? nodes
      return first :: others

end

/-- The array of the expressions of all nodes. There is none if a bare node is among them. -/
def children? (nodes : List Node) : Option String :=
  (expressions? nodes).map array

end SvgComponent.Component
