/-
This file reads the options that a query carries.
-/

import SvgComponent.Query.Token
import SvgComponent.Value.Relaxed

namespace SvgComponent.Query

def isSeparator (c : Char) : Bool :=
  c = ',' || c = '&'

/-- The tokens take effect from left to right. -/
def parseTokens (text : List Char) : Except Error Options := do
  let tokens ← (Text.split isSeparator text).mapM Token.read
  return tokens.foldl Token.apply []

def isLiteral (text : List Char) : Bool :=
  text.head? = some '{' && text.getLast? = some '}'

def parseLiteral (text : List Char) : Except Error Options :=
  match Value.Relaxed.read (String.ofList text) with
  | .ok (.object members) => .ok members
  | _ => .error .malformedLiteral

/-- A query is empty, or a question mark followed by nothing, an object literal or tokens. -/
def parse (query : String) : Except Error Options :=
  match query.toList with
  | [] => .ok []
  | ['?'] => .ok []
  | '?' :: rest => if isLiteral rest then parseLiteral rest else parseTokens rest
  | _ => .error .missingMark

end SvgComponent.Query
