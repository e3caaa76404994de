/-
This file reads inline style declarations.
-/

import SvgComponent.Mapping
import SvgComponent.Text.Blank
import SvgComponent.Text.Scan

namespace SvgComponent.Markup.Style

open Text

/-- A semicolon does not separate if the next parenthesis after it is a closing one. -/
def closesNext (rest : List Char) : Bool :=
  (rest.find? fun c => c = '(' || c = ')') = some ')'

def declarations : List Char → List (List Char)
  | [] => [[]]
  | c :: rest =>
      if c = ';' && !closesNext rest then [] :: declarations rest
      else
        match declarations rest with
        | [] => [[c]]
        | declaration :: others => (c :: declaration) :: others

/-- A declaration without a colon, or with nothing after its colon, says nothing. -/
def entry? (declaration : List Char) : Option (String × String) :=
  match cut ':' declaration with
  | (_, none) | (_, some []) => none
  | (name, some value) => some (String.ofList (trim name), String.ofList (trim value))

/-- The values of the properties that a style text declares. -/
def parse (text : String) : Mapping String String :=
  Mapping.ofEntries ((declarations text.toList).filterMap entry?)

end SvgComponent.Markup.Style
