/-
This file shows texts: quoted inside messages, and without control sequences on terminals.
-/

import SvgComponent.Text.Code
import SvgComponent.Text.Printable

namespace SvgComponent.Text

namespace Quoted

/-- Double quotes are used only around a text that has a single quote and no double quote. -/
def quoteFor (text : List Char) : Char :=
  if text.contains '\'' && !text.contains '"' then '"' else '\''

def escape (quote : Char) (c : Char) : List Char :=
  if c = quote || c = '\\' then ['\\', c]
  else if c = '\n' then ['\\', 'n']
  else if c = '\r' then ['\\', 'r']
  else if c = '\t' then ['\\', 't']
  else if isPrintable c then [c]
  else if c.toNat ≤ 0xFF then '\\' :: 'x' :: Hexadecimal.write 2 c.toNat
  else if c.toNat ≤ 0xFFFF then '\\' :: 'u' :: Hexadecimal.write 4 c.toNat
  else '\\' :: 'U' :: Hexadecimal.write 8 c.toNat

/-- A quoted text stays on one line and shows its invisible characters. -/
def write (text : String) : String :=
  let quote := quoteFor text.toList
  String.ofList (quote :: text.toList.flatMap (escape quote) ++ [quote])

end Quoted

namespace Terminal

/-- A control sequence has an introducer, parameters, intermediates and one final character. The
text after the sequence is returned. -/
def afterSequence? (text : List Char) : Option (List Char) := do
  let body ← ['\x1B', '['].isPrefixOf? text
  let body := body.dropWhile fun c => '0' ≤ c && c ≤ '?'
  match body.dropWhile fun c => ' ' ≤ c && c ≤ '/' with
  | c :: rest => if '@' ≤ c && c ≤ '~' then some rest else none
  | [] => none

def plainWithin : (fuel : Nat) → List Char → List Char
  | 0, _ | _, [] => []
  | fuel + 1, c :: rest =>
      match afterSequence? (c :: rest) with
      | some after => plainWithin fuel after
      | none => c :: plainWithin fuel rest

/-- All control sequences are removed in one pass. A sequence without a final character stays. -/
def plain (text : String) : String :=
  String.ofList (plainWithin text.toList.length text.toList)

end Terminal

end SvgComponent.Text
