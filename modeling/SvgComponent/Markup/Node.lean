/-
This file holds the tree of elements and texts.
-/

import SvgComponent.Mapping

namespace SvgComponent.Markup

/-- The head of an element is what its start tag says. -/
structure Head where
  tag : String
  /-- Every attribute by name. -/
  attributes : Mapping String String
  /-- The attributes in source order, apart from class and style. -/
  entries : List (String × String)
  /-- The class as a literal. -/
  staticClass : Option String
  /-- The style declarations as a literal. -/
  staticStyle : Option String
  deriving DecidableEq, Inhabited

/-- A bare node is of no known kind and cannot be rendered. -/
inductive Node where
  | text (content : String)
  | element (head : Head) (children : List Node)
  | bare
  deriving Inhabited

structure Element where
  head : Head
  children : List Node
  deriving Inhabited

def Element.toNode (element : Element) : Node :=
  .element element.head element.children

end SvgComponent.Markup
