/-
This file builds the head of an element from its tag and attributes.
-/

import SvgComponent.Markup.Node
import SvgComponent.Markup.Style
import SvgComponent.Value.Compact

namespace SvgComponent.Markup

/-- The class and the style are not listed among the entries. -/
def isListed (name : String) : Bool :=
  name ≠ "class" && name ≠ "style"

/-- The words of a class with one space between them. -/
def classText (text : String) : String :=
  String.ofList (Text.trim (Text.condense text.toList))

def nonempty? (text : Option String) : Option String :=
  text.filter fun content => content ≠ ""

/-- A class or style attribute without a value counts as missing. -/
def Head.ofAttributes (tag : String) (attributes : List (String × String)) : Head :=
  let mapping := Mapping.ofEntries attributes
  { tag
    attributes := mapping
    entries := attributes.filter fun entry => isListed entry.1
    staticClass := (nonempty? (mapping.valueAt? "class")).map fun text =>
      Value.Compact.writeString (classText text)
    staticStyle := (nonempty? (mapping.valueAt? "style")).map fun text =>
      Value.Compact.writeStrings (Style.parse text) }

end SvgComponent.Markup
