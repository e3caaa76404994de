/-
This file reads values from text. The lexical rules are those of a dialect.
-/

import SvgComponent.Value.Basic

namespace SvgComponent.Value

inductive ReadError where
  | malformed
  | oversizedNumeral
  deriving DecidableEq

/-- A scanner takes one lexeme from the front of a text and leaves the rest. -/
abbrev Scanner (α : Type) := List Char → Except ReadError (α × List Char)

/-- A dialect says what may stand between lexemes and how the lexemes themselves are written. -/
structure Dialect where
  skip : List Char → List Char
  key : Scanner String
  string : Scanner String
  number : Scanner Value
  trailingComma : Bool

namespace Dialect

def words : List (List Char × Value) :=
  [("null".toList, .null), ("true".toList, .bool true), ("false".toList, .bool false)]

/-- A word, if the text begins with one. -/
def word? (text : List Char) : Option (Value × List Char) :=
  words.findSome? fun entry => (entry.1.isPrefixOf? text).map fun rest => (entry.2, rest)

/-- A list or object ends here, or goes on after a comma. -/
def next (dialect : Dialect) (closing : Char) (text : List Char) :
    Except ReadError (Bool × List Char) :=
  match dialect.skip text with
  | [] => .error .malformed
  | c :: rest =>
      if c = closing then .ok (false, rest)
      else if c = ',' then
        match dialect.skip rest with
        | [] => .error .malformed
        | c :: after =>
            if c = closing && dialect.trailingComma then .ok (false, after)
            else .ok (true, c :: after)
      else .error .malformed

mutual

/-- Two units of fuel for each character and one more are enough for every value. -/
def value (dialect : Dialect) : (fuel : Nat) → Scanner Value
  | 0, _ => .error .malformed
  | fuel + 1, text =>
      match text with
      | '[' :: rest =>
          match dialect.skip rest with
          | ']' :: after => .ok (.list [], after)
          | inside => do
              let (items, after) ← items dialect fuel inside
              return (.list items, after)
      | '{' :: rest =>
          match dialect.skip rest with
          | '}' :: after => .ok (.object [], after)
          | inside => do
              let (members, after) ← members dialect fuel inside
              return (.object (Mapping.ofEntries members), after)
      | _ =>
          match word? text with
          | some found => .ok found
          | none =>
              if text.head? = some '"' || text.head? = some '\'' then do
                let (content, after) ← dialect.string text
                return (.string content, after)
              else dialect.number text

def items (dialect : Dialect) : (fuel : Nat) → Scanner (List Value)
  | 0, _ => .error .malformed
  | fuel + 1, text => do
      let (item, rest) ← value dialect fuel text
      let (more, rest) ← dialect.next ']' rest
      if more then
        let (others, rest) ← items dialect fuel rest
        return (item :: others, rest)
      else return ([item], rest)

def members (dialect : Dialect) : (fuel : Nat) → Scanner (List (String × Value))
  | 0, _ => .error .malformed
  | fuel + 1, text => do
      let (name, rest) ← dialect.key text
      match dialect.skip rest with
      | ':' :: rest =>
          let (item, rest) ← value dialect fuel (dialect.skip rest)
          let (more, rest) ← dialect.next '}' rest
          if more then
            let (others, rest) ← members dialect fuel rest
            return ((name, item) :: others, rest)
          else return ([(name, item)], rest)
      | _ => .error .malformed

end

/-- The whole text is one value. -/
def read (dialect : Dialect) (text : String) : Except ReadError Value := do
  let characters := text.toList
  let (result, rest) ← value dialect (2 * characters.length + 1) (dialect.skip characters)
  if (dialect.skip rest).isEmpty then return result else .error .malformed

end Dialect
end SvgComponent.Value
