/-
This file holds the relaxed dialect, in which object literals are written by hand.
-/

import SvgComponent.Text.Category
import SvgComponent.Text.Code
import SvgComponent.Text.Scan
import SvgComponent.Value.Reader

namespace SvgComponent.Value.Relaxed

open Text

def isLineEnd (c : Char) : Bool :=
  c = '\n' || c = '\r' || c = '\u2028' || c = '\u2029'

def isBlank (c : Char) : Bool :=
  c = '\t' || c = '\x0B' || c = '\x0C' || c = '\uFEFF' || isLineEnd c ||
    Category.contains Category.spaces c

/-- Blanks and comments are skipped. An open comment is left in place. -/
def skipWithin : (fuel : Nat) → List Char → List Char
  | 0, text => text
  | _, [] => []
  | fuel + 1, c :: rest =>
      if isBlank c then skipWithin fuel rest
      else if c = '/' && rest.head? = some '/' then
        skipWithin fuel (rest.dropWhile fun c => !isLineEnd c)
      else if c = '/' && rest.head? = some '*' then
        match untilMark? ['*', '/'] (rest.drop 1) with
        | some (_, after) => skipWithin fuel after
        | none => c :: rest
      else c :: rest

def skip (text : List Char) : List Char :=
  skipWithin text.length text

def escapes : List (Char × Nat) :=
  [('b', 0x08), ('f', 0x0C), ('n', 0x0A), ('r', 0x0D), ('t', 0x09), ('v', 0x0B)]

/-- The units that stand after a backslash. A line end after a backslash stands for nothing, and
most other characters stand for themselves. -/
def escaped? : List Char → Option (List Nat × List Char)
  | [] => none
  | c :: rest =>
      if c = 'u' then (Hexadecimal.read? 4 rest).map fun found => ([found.1], found.2)
      else if c = 'x' then (Hexadecimal.read? 2 rest).map fun found => ([found.1], found.2)
      else if c = '\r' && rest.head? = some '\n' then some ([], rest.drop 1)
      else if isLineEnd c then some ([], rest)
      else if c.isDigit then
        if c = '0' && !(rest.head?.any Char.isDigit) then some ([0], rest) else none
      else some ([(escapes.lookup c).getD c.toNat], rest)

/-- The units up to the closing quote. -/
def units (quote : Char) : (fuel : Nat) → Scanner (List Nat)
  | 0, _ | _, [] => .error .malformed
  | fuel + 1, c :: rest =>
      if c = quote then .ok ([], rest)
      else if c = '\\' then
        match escaped? rest with
        | none => .error .malformed
        | some (found, rest) => do
            let (more, rest) ← units quote fuel rest
            return (found ++ more, rest)
      else if c = '\n' || c = '\r' then .error .malformed
      else do
        let (more, rest) ← units quote fuel rest
        return (c.toNat :: more, rest)

def isQuote (c : Char) : Bool :=
  c = '"' || c = '\''

def string : Scanner String
  | [] => .error .malformed
  | quote :: rest =>
      if isQuote quote then do
        let (found, rest) ← units quote rest.length rest
        return (String.ofList (Units.characters found), rest)
      else .error .malformed

def startsName (c : Char) : Bool :=
  c.isAlpha || c = '$' || c = '_' ||
    Category.isLetter c || Category.contains Category.letterNumbers c

def continuesName (c : Char) : Bool :=
  startsName c || c.isDigit || c = '\u200C' || c = '\u200D' ||
    Category.contains Category.marks c || Category.contains Category.decimalNumbers c ||
    Category.contains Category.connectors c

/-- The units of a name. An escape may stand for any character. -/
def nameUnits : (fuel : Nat) → (first : Bool) → List Char → List Nat × List Char
  | 0, _, text => ([], text)
  | _, _, [] => ([], [])
  | fuel + 1, first, c :: rest =>
      if (if first then startsName c else continuesName c) then
        let (more, rest) := nameUnits fuel false rest
        (c.toNat :: more, rest)
      else if c = '\\' && rest.head? = some 'u' then
        match Hexadecimal.read? 4 (rest.drop 1) with
        | some (unit, rest) =>
            let (more, rest) := nameUnits fuel false rest
            (unit :: more, rest)
        | none => ([], c :: rest)
      else ([], c :: rest)

def name (text : List Char) : Except ReadError (String × List Char) :=
  let (found, rest) := nameUnits text.length true text
  if found.isEmpty then .error .malformed
  else .ok (String.ofList (Units.characters found), rest)

def key (text : List Char) : Except ReadError (String × List Char) :=
  if text.head?.any isQuote then string text else name text

def isExponentMark (c : Char) : Bool :=
  c = 'e' || c = 'E'

/-- The exponent that stands here, or none at all. -/
def exponent (text : List Char) : Except ReadError (Option Int × List Char) :=
  match text with
  | [] => .ok (none, [])
  | c :: rest =>
      if isExponentMark c then
        let (negative, rest) := match rest with
          | '-' :: rest => (true, rest)
          | '+' :: rest => (false, rest)
          | rest => (false, rest)
        let digits := rest.takeWhile Char.isDigit
        let size : Int := Numeral.value digits
        if digits.isEmpty then .error .malformed
        else .ok (some (if negative then -size else size), rest.drop digits.length)
      else .ok (none, c :: rest)

/-- A decimal has no leading zeros. With a point or an exponent it is a floating-point number. -/
def decimal (negative : Bool) (text : List Char) : Except ReadError (Value × List Char) := do
  let whole := text.takeWhile Char.isDigit
  let rest := text.drop whole.length
  let (places, rest) := match rest with
    | '.' :: rest => (some (rest.takeWhile Char.isDigit), rest.dropWhile Char.isDigit)
    | rest => (none, rest)
  let digits := whole ++ places.getD []
  if digits.isEmpty || (whole.head? = some '0' && 1 < whole.length) then .error .malformed
  else
    let (power, rest) ← exponent rest
    if places.isNone && power.isNone then
      match Numeral.value? whole with
      | none => .error .oversizedNumeral
      | some magnitude => return (.int (if negative then -magnitude else magnitude), rest)
    else
      let power := power.getD 0 - (places.getD []).length
      return (.float (.ofDecimal negative (Numeral.value digits) power), rest)

def hexadecimal (negative : Bool) (text : List Char) : Except ReadError (Value × List Char) :=
  let digits := text.takeWhile Hexadecimal.isDigit
  let size : Int := Hexadecimal.value digits
  if digits.isEmpty then .error .malformed
  else .ok (.int (if negative then -size else size), text.drop digits.length)

def unsigned (negative : Bool) (text : List Char) : Except ReadError (Value × List Char) :=
  match "Infinity".toList.isPrefixOf? text, "NaN".toList.isPrefixOf? text with
  | some rest, _ => .ok (.float (.infinity negative), rest)
  | none, some rest => .ok (.float .notANumber, rest)
  | none, none =>
      match text with
      | '0' :: 'x' :: rest => hexadecimal negative rest
      | '0' :: 'X' :: rest => hexadecimal negative rest
      | _ => decimal negative text

def number : Scanner Value
  | '-' :: rest => unsigned true rest
  | '+' :: rest => unsigned false rest
  | text => unsigned false text

def dialect : Dialect where
  skip := skip
  key := key
  string := string
  number := number
  trailingComma := true

def read (text : String) : Except ReadError Value :=
  dialect.read text

end SvgComponent.Value.Relaxed
