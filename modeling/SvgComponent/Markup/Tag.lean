/-
This file reads start tags and end tags.
-/

import SvgComponent.Markup.CharacterReference.Decode
import SvgComponent.Text.Blank
import SvgComponent.Text.Category
import SvgComponent.Text.Scan

namespace SvgComponent.Markup.Tag

open Text

def isNameStart (c : Char) : Bool :=
  c.isAlpha || c = '_'

def isNameCharacter (c : Char) : Bool :=
  isWord c || c = '-' || c = '.' || c = ':'

/-- The longest name at the front of a text, and the text after it. -/
def name? : List Char → Option (List Char × List Char)
  | [] => none
  | c :: rest =>
      if isNameStart c then
        some (c :: rest.takeWhile isNameCharacter, rest.dropWhile isNameCharacter)
      else none

/-- The name of an end tag, and the text after the tag. -/
def closing? (text : List Char) : Option (List Char × List Char) := do
  let body ← ['<', '/'].isPrefixOf? text
  let (name, rest) ← name? body
  let rest ← (cut '>' rest).2
  return (name, rest)

/-- The name of a start tag, and the text after the name. -/
def opening? (text : List Char) : Option (List Char × List Char) := do
  let body ← ['<'].isPrefixOf? text
  name? body

def isAttributeName (c : Char) : Bool :=
  !isBlank c && c != '"' && c != '\'' && c != '<' && c != '>' && c != '/' && c != '='

def isUnquoted (c : Char) : Bool :=
  !isBlank c && c != '"' && c != '\'' && c != '=' && c != '<' && c != '>' && c != '\x60'

def quotedBy? (quote : Char) (text : List Char) : Option (List Char × List Char) :=
  match cut quote text with
  | (value, some rest) => some (value, rest)
  | (_, none) => none

def value? (text : List Char) : Option (List Char × List Char) :=
  match text with
  | '"' :: rest => quotedBy? '"' rest
  | '\'' :: rest => quotedBy? '\'' rest
  | _ =>
      let value := text.takeWhile isUnquoted
      if value.isEmpty then none else some (value, text.dropWhile isUnquoted)

def assigned? (text : List Char) : Option (List Char × List Char) :=
  match dropBlank text with
  | '=' :: rest => value? (dropBlank rest)
  | _ => none

/-- The name and the raw value of an attribute, and the text after it. An attribute without a
readable value is empty, and what follows its name is read next. -/
def attribute? (text : List Char) : Option ((List Char × List Char) × List Char) :=
  let name := (dropBlank text).takeWhile isAttributeName
  let rest := (dropBlank text).dropWhile isAttributeName
  if name.isEmpty then none
  else
    match assigned? rest with
    | some (value, rest) => some ((name, value), rest)
    | none => some ((name, []), rest)

/-- Whether a start tag ends here as a self-closed one, and the text after it. -/
def ending? (text : List Char) : Option (Bool × List Char) :=
  match dropBlank text with
  | '/' :: '>' :: rest => some (true, rest)
  | '>' :: rest => some (false, rest)
  | _ => none

/-- The reason why a start tag cannot be read. -/
inductive Fault where
  | malformed
  | oversizedNumeral

/-- The attributes of a start tag, whether it is self-closed, and the text after it. -/
def attributes :
    (fuel : Nat) → List Char → Except Fault (List (String × String) × Bool × List Char)
  | 0, _ => .error .malformed
  | fuel + 1, text =>
      match ending? text, attribute? text with
      | some (selfClosed, rest), _ => .ok ([], selfClosed, rest)
      | none, none => .error .malformed
      | none, some ((name, raw), rest) =>
          match CharacterReference.decode? raw with
          | none => .error .oversizedNumeral
          | some value => do
              let (others, ending) ← attributes fuel rest
              return ((String.ofList name, String.ofList value) :: others, ending)

/-- The text after the first end tag of the given name. -/
def afterClosing? (tag : List Char) : List Char → Option (List Char)
  | [] => none
  | c :: rest =>
      match (['<', '/'] ++ tag).isPrefixOf? (c :: rest) with
      | none => afterClosing? tag rest
      | some after =>
          match dropBlank after with
          | '>' :: ending => some ending
          | _ => afterClosing? tag rest

end SvgComponent.Markup.Tag
