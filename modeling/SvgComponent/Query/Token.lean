/-
This file reads one token of a query.
-/

import SvgComponent.Query.Percent
import SvgComponent.Text.Display
import SvgComponent.Text.Scan
import SvgComponent.Value.Basic

namespace SvgComponent.Query

inductive Error where
  | missingMark
  | malformedLiteral
  | malformedEscape (component : String)
  | invalidEncoding (component : String)
  deriving DecidableEq

def Error.message : Error → String
  | missingMark => "A valid query string passed to parse_query should begin with \"?\""
  | malformedLiteral => "Invalid object literal in query"
  | malformedEscape component =>
      "Malformed percent-escape in query component " ++ Text.Quoted.write component
  | invalidEncoding component =>
      "Invalid percent-encoding in query component " ++ Text.Quoted.write component

/-- A scalar token replaces the value of its name. An item token extends the list of its name. -/
inductive Token where
  | scalar (name : String) (value : Value)
  | item (name : String) (value : Value)

def decode (component : List Char) : Except Error String :=
  match Percent.decode component with
  | .ok text => .ok (String.ofList text)
  | .error .malformedEscape => .error (.malformedEscape (String.ofList component))
  | .error .invalidEncoding => .error (.invalidEncoding (String.ofList component))

/-- Three words stand for values of their own. -/
def wordValue (word : String) : Value :=
  if word = "null" then .null
  else if word = "true" then .bool true
  else if word = "false" then .bool false
  else .string word

/-- The name of an item token ends in a pair of brackets. -/
def itemName? (name : List Char) : Option (List Char) :=
  match name.reverse with
  | ']' :: '[' :: rest => some rest.reverse
  | _ => none

namespace Token

def name : Token → String
  | scalar name _ | item name _ => name

/-- The value is decoded before the name. The brackets of an item are not encoded. -/
def ofAssignment (name value : List Char) : Except Error Token := do
  let value ← decode value
  match itemName? name with
  | some name => return .item (← decode name) (wordValue value)
  | none => return .scalar (← decode name) (wordValue value)

/-- A token without an equals sign is a flag. It is on unless it begins with a minus sign. -/
def ofFlag : List Char → Except Error Token
  | '-' :: name => do return .scalar (← decode name) (.bool false)
  | '+' :: name => do return .scalar (← decode name) (.bool true)
  | name => do return .scalar (← decode name) (.bool true)

def read (token : List Char) : Except Error Token :=
  match Text.cut '=' token with
  | (name, some value) => ofAssignment name value
  | (name, none) => ofFlag name

/-- An item starts a new list unless its name already has one. -/
def apply (options : Options) : Token → Options
  | scalar name value => options.assign name value
  | item name value =>
      match options.valueAt? name with
      | some (.list items) => options.assign name (.list (items ++ [value]))
      | _ => options.assign name (.list [value])

end Token
end SvgComponent.Query
