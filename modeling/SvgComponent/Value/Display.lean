/-
This file shows values inside messages.
-/

import SvgComponent.Decimal.Layout
import SvgComponent.Text.Display
import SvgComponent.Value.Basic

namespace SvgComponent.Value.Display

def floats : Decimal.Layout := ⟨"nan", "inf"⟩

mutual

/-- Texts inside a list or an object are quoted. -/
def nested : Value → String
  | null => "None"
  | bool true => "True"
  | bool false => "False"
  | int number => toString number
  | float number => floats.write number
  | string content => Text.Quoted.write content
  | list [] => "[]"
  | list (item :: items) => "[" ++ nested item ++ nestedItems items ++ "]"
  | object [] => "\x7b\x7d"
  | object ((name, item) :: members) =>
      "\x7b" ++ Text.Quoted.write name ++ ": " ++ nested item ++ nestedMembers members ++ "\x7d"

def nestedItems : List Value → String
  | [] => ""
  | item :: items => ", " ++ nested item ++ nestedItems items

def nestedMembers : List (String × Value) → String
  | [] => ""
  | (name, item) :: members =>
      ", " ++ Text.Quoted.write name ++ ": " ++ nested item ++ nestedMembers members

end

/-- A text by itself is shown as it is. -/
def write : Value → String
  | string content => content
  | value => nested value

end SvgComponent.Value.Display
