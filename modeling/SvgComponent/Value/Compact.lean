/-
This file writes values in their compact form: double quotes, no blanks, members in order.
-/

import SvgComponent.Decimal.Layout
import SvgComponent.Text.Code
import SvgComponent.Value.Basic

namespace SvgComponent.Value.Compact

/-- Quotes, backslashes and controls are escaped. All other characters stand for themselves. -/
def escape (c : Char) : List Char :=
  if c = '"' then ['\\', '"']
  else if c = '\\' then ['\\', '\\']
  else if c = '\x08' then ['\\', 'b']
  else if c = '\t' then ['\\', 't']
  else if c = '\n' then ['\\', 'n']
  else if c = '\x0C' then ['\\', 'f']
  else if c = '\r' then ['\\', 'r']
  else if c.toNat < 0x20 then '\\' :: 'u' :: Text.Hexadecimal.write 4 c.toNat
  else [c]

def stringText (text : String) : List Char :=
  '"' :: text.toList.flatMap escape ++ ['"']

def floats : Decimal.Layout := ⟨"NaN", "Infinity"⟩

mutual

def text : Value → List Char
  | null => "null".toList
  | bool true => "true".toList
  | bool false => "false".toList
  | int number => (toString number).toList
  | float number => (floats.write number).toList
  | string content => stringText content
  | list [] => ['[', ']']
  | list (item :: items) => '[' :: text item ++ itemsText items ++ [']']
  | object [] => ['{', '}']
  | object ((name, item) :: members) =>
      '{' :: stringText name ++ ':' :: text item ++ membersText members ++ ['}']

def itemsText : List Value → List Char
  | [] => []
  | item :: items => ',' :: text item ++ itemsText items

def membersText : List (String × Value) → List Char
  | [] => []
  | (name, item) :: members => ',' :: stringText name ++ ':' :: text item ++ membersText members

end

def write (value : Value) : String :=
  String.ofList (text value)

mutual

/-- Whether the numerals of all integers are short enough to be written. -/
def isWritable : Value → Bool
  | int number => (Nat.toDigits 10 number.natAbs).length ≤ Text.Numeral.mostDigits
  | list items => areItemsWritable items
  | object members => areMembersWritable members
  | _ => true

def areItemsWritable : List Value → Bool
  | [] => true
  | item :: items => isWritable item && areItemsWritable items

def areMembersWritable : List (String × Value) → Bool
  | [] => true
  | (_, item) :: members => isWritable item && areMembersWritable members

end

/-- A value with an integer that is too long has no text. -/
def write? (value : Value) : Option String :=
  if isWritable value then some (write value) else none

def writeString (content : String) : String :=
  write (.string content)

def writeStrings (mapping : Mapping String String) : String :=
  write (.object (mapping.map fun entry => (entry.1, .string entry.2)))

end SvgComponent.Value.Compact
