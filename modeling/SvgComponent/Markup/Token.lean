/-
This file cuts markup into tokens, and holds the errors of markup that has no tree.
-/

import SvgComponent.Markup.Tag

namespace SvgComponent.Markup

open Text

inductive Error where
  | malformedStartTag (tag : String) (offset : Nat)
  | unclosedTag (tag : String)
  | unexpectedEndTag (tag : String)
  | textOutsideRoot
  | secondRoot
  | missingRoot
  | oversizedNumeral
  deriving DecidableEq

def Error.message : Error → String
  | malformedStartTag tag offset =>
      "Malformed start tag <" ++ tag ++ "> at offset " ++ toString offset
  | unclosedTag tag => "Tag <" ++ tag ++ "> has no matching end tag"
  | unexpectedEndTag tag => "Unexpected end tag </" ++ tag ++ ">"
  | textOutsideRoot => "Text is not allowed outside the root element"
  | secondRoot => "Markup should contain exactly one root element"
  | missingRoot => "Markup requires a root element"
  | oversizedNumeral => "A character reference has too many digits"

/-- What a token contributes to the tree. Only plain text contains character references. -/
inductive Event where
  | skipped
  | startTag (tag : String) (attributes : List (String × String)) (selfClosed : Bool)
  | endTag (tag : String)
  | text (raw : List Char)
  | verbatim (content : List Char)
  deriving DecidableEq

/-- A token stands between the markup from its beginning on and the markup after it. -/
structure Token where
  markup : List Char
  rest : List Char
  event : Event

namespace Token

def source (token : Token) : List Char :=
  token.markup.take (token.markup.length - token.rest.length)

def comment? (text : List Char) : Option (List Char) := do
  let body ← ['<', '!', '-', '-'].isPrefixOf? text
  let (_, rest) ← untilMark? ['-', '-', '>'] body
  return rest

/-- The letters of the mark may be written in either case. -/
def doctype? (text : List Char) : Option (List Char) := do
  let mark := ['<', '!', 'D', 'O', 'C', 'T', 'Y', 'P', 'E']
  let _ ← mark.isPrefixOf? ((text.take mark.length).map Char.toUpper)
  (cut '>' (text.drop mark.length)).2

def instruction? (text : List Char) : Option (List Char) := do
  let body ← ['<', '?'].isPrefixOf? text
  let (_, rest) ← untilMark? ['?', '>'] body
  return rest

/-- The content of a verbatim section, and the text after it. -/
def verbatim? (text : List Char) : Option (List Char × List Char) := do
  let body ← ['<', '!', '[', 'C', 'D', 'A', 'T', 'A', '['].isPrefixOf? text
  untilMark? [']', ']', '>'] body

/-- Elements with side effects are dropped together with their content. -/
def isDropped (tag : List Char) : Bool :=
  tag = "style".toList || tag = "script".toList

/-- The start tag that begins the markup, and the text after it. The offset of the tag is the
length of the whole text less that of the markup. -/
def start (length : Nat) (markup tag text : List Char) : Except Error (Event × List Char) :=
  let name := String.ofList tag
  match Tag.attributes (length + 1) text with
  | .error .malformed => .error (.malformedStartTag name (length - markup.length))
  | .error .oversizedNumeral => .error .oversizedNumeral
  | .ok (entries, selfClosed, rest) =>
      if isDropped tag then
        if selfClosed then .ok (.skipped, rest)
        else
          match Tag.afterClosing? tag rest with
          | some after => .ok (.skipped, after)
          | none => .error (.unclosedTag name)
      else .ok (.startTag name entries selfClosed, rest)

/-- A text extends to the next angle bracket. A bracket that opens nothing is text as well. -/
def text : List Char → Event × List Char
  | [] => (.text [], [])
  | c :: rest => (.text (c :: rest.takeWhile (· ≠ '<')), rest.dropWhile (· ≠ '<'))

/-- The event at the front of the markup, and the text after it. -/
def read (length : Nat) (markup : List Char) : Except Error (Event × List Char) :=
  match comment? markup <|> doctype? markup <|> instruction? markup with
  | some rest => .ok (.skipped, rest)
  | none =>
      match verbatim? markup, Tag.closing? markup, Tag.opening? markup with
      | some (content, rest), _, _ => .ok (.verbatim content, rest)
      | none, some (name, rest), _ => .ok (.endTag (String.ofList name), rest)
      | none, none, some (name, rest) => start length markup name rest
      | none, none, none => .ok (text markup)

/-- The tokens up to the first error. Every token takes at least one character. -/
def tokensFrom (length : Nat) : (fuel : Nat) → List Char → List Token × Option Error
  | 0, _ | _, [] => ([], none)
  | fuel + 1, markup =>
      match read length markup with
      | .error error => ([], some error)
      | .ok (event, rest) =>
          let (others, error) := tokensFrom length fuel rest
          (⟨markup, rest, event⟩ :: others, error)

def tokens (markup : List Char) : List Token × Option Error :=
  tokensFrom markup.length markup.length markup

end Token
end SvgComponent.Markup
