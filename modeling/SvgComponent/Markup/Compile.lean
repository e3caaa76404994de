/-
This file builds the element tree from the tokens of its markup.
-/

import SvgComponent.Markup.Head
import SvgComponent.Markup.Token

namespace SvgComponent.Markup

/-- An element whose end tag has not been read. Its children are listed from the last one on. -/
structure Frame where
  head : Head
  children : List Node

/-- The open elements from the innermost one on, and the root once it has been closed. -/
structure Build where
  frames : List Frame
  root : Option Element

namespace Build

def empty : Build := ⟨[], none⟩

def isBlankNode : Node → Bool
  | .text content => Text.isBlankText content.toList
  | _ => false

/-- A closed element becomes a child of the element around it, or else the root. -/
def attach (frames : List Frame) (root : Option Element) (element : Element) : Build :=
  match frames with
  | [] => ⟨[], some element⟩
  | frame :: outer =>
      ⟨{ frame with children := element.toNode :: frame.children } :: outer, root⟩

def openElement (build : Build) (tag : String) (attributes : List (String × String))
    (selfClosed : Bool) : Except Error Build :=
  let head := Head.ofAttributes tag attributes
  if build.frames.isEmpty && build.root.isSome then .error .secondRoot
  else if selfClosed then .ok (attach build.frames build.root ⟨head, []⟩)
  else .ok { build with frames := ⟨head, []⟩ :: build.frames }

/-- The children of an element in their order. A blank text at the end is dropped. -/
def closed (children : List Node) : List Node :=
  match children with
  | [] => []
  | last :: others => if isBlankNode last then others.reverse else (last :: others).reverse

def closeElement (build : Build) (tag : String) : Except Error Build :=
  match build.frames with
  | [] => .error (.unexpectedEndTag tag)
  | frame :: outer =>
      if frame.head.tag = tag then
        .ok (attach outer build.root ⟨frame.head, closed frame.children⟩)
      else .error (.unexpectedEndTag tag)

def isSpace : Node → Bool
  | .text content => content = " "
  | _ => false

/-- A blank text is dropped or becomes one space between two other nodes. -/
def addBlank (preserve : Bool) (children : List Node) : List Node :=
  match children with
  | [] => []
  | last :: others => if preserve && !isSpace last then .text " " :: last :: others
      else last :: others

/-- Whether a text is blank is decided before its references are decoded. -/
def addText (preserve : Bool) (build : Build) (raw : List Char)
    (decode? : List Char → Option (List Char)) : Except Error Build :=
  match build.frames with
  | [] => if Text.isBlankText raw then .ok build else .error .textOutsideRoot
  | frame :: outer =>
      if Text.isBlankText raw then
        .ok { build with
          frames := { frame with children := addBlank preserve frame.children } :: outer }
      else
        match decode? raw with
        | none => .error .oversizedNumeral
        | some content =>
            let node := Node.text (String.ofList content)
            .ok { build with frames := { frame with children := node :: frame.children } :: outer }

def step (preserve : Bool) (build : Build) (event : Event) : Except Error Build :=
  match event with
  | .skipped => .ok build
  | .startTag tag attributes selfClosed => build.openElement tag attributes selfClosed
  | .endTag tag => build.closeElement tag
  | .text raw => build.addText preserve raw CharacterReference.decode?
  | .verbatim content => build.addText preserve content some

def finish (build : Build) : Except Error Element :=
  match build.frames, build.root with
  | frame :: _, _ => .error (.unclosedTag frame.head.tag)
  | [], none => .error .missingRoot
  | [], some root => .ok root

end Build

/-- The tree of a markup with exactly one root element. The error that stands first is reported. -/
def compile (preserve : Bool) (markup : String) : Except Error Element := do
  let (tokens, error) := Token.tokens markup.toList
  let build ← (tokens.map Token.event).foldlM (Build.step preserve) Build.empty
  match error with
  | some error => .error error
  | none => build.finish

end SvgComponent.Markup
