/-
This file checks the structure of a component module.
-/

import SvgComponent.Text.Scan

namespace SvgComponent.Component.Check

inductive Fault where
  | missingMarker
  | missingRender
  | unbalanced (bracket : Char)
  | unclosed (count : Nat)
  deriving DecidableEq

def Fault.message : Fault → String
  | missingMarker => "Generated module is missing the functional marker"
  | missingRender => "Generated module has no render function"
  | unbalanced bracket => "Generated module has an unbalanced '" ++ bracket.toString ++ "'"
  | unclosed count => "Generated module has " ++ toString count ++ " unclosed bracket(s)"

/-- The text after the literal whose opening quote has just been read. A literal ends on its line
and a backslash escapes the character after it. -/
def afterLiteral? (quote : Char) : List Char → Option (List Char)
  | [] => none
  | c :: rest =>
      if c = quote then some rest
      else if c = '\n' then none
      else if c = '\\' then
        match rest with
        | [] => none
        | escaped :: others => if escaped = '\n' then none else afterLiteral? quote others
      else afterLiteral? quote rest

def isQuote (c : Char) : Bool :=
  c = '\'' || c = '"'

/-- Every literal becomes an empty one. A quote that opens no literal stays. -/
def stripWithin : (fuel : Nat) → List Char → List Char
  | 0, _ | _, [] => []
  | fuel + 1, c :: rest =>
      match (if isQuote c then afterLiteral? c rest else none) with
      | some after => '\'' :: '\'' :: stripWithin fuel after
      | none => c :: stripWithin fuel rest

def strip (text : List Char) : List Char :=
  stripWithin text.length text

def opening? (closing : Char) : Option Char :=
  if closing = ')' then some '('
  else if closing = ']' then some '['
  else if closing = '}' then some '{'
  else none

def isOpening (c : Char) : Bool :=
  c = '(' || c = '[' || c = '{'

/-- The brackets that are open after a text, from the innermost one on. -/
def scan : (opened : List Char) → List Char → Except Fault (List Char)
  | opened, [] => .ok opened
  | opened, c :: rest =>
      if isOpening c then scan (c :: opened) rest
      else
        match opening? c, opened with
        | none, _ => scan opened rest
        | some _, [] => .error (.unbalanced c)
        | some bracket, last :: others =>
            if last = bracket then scan others rest else .error (.unbalanced c)

/-- A module has both markers, and its brackets outside literals are balanced. -/
def check (content : String) : Except Fault Unit :=
  if !Text.occurs "functional: true".toList content.toList then .error .missingMarker
  else if !Text.occurs "render(".toList content.toList then .error .missingRender
  else
    match scan [] (strip content.toList) with
    | .error fault => .error fault
    | .ok [] => .ok ()
    | .ok opened => .error (.unclosed opened.length)

end SvgComponent.Component.Check
