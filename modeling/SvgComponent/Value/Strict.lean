/-
This file holds the strict dialect, in which configuration files are written.
-/

import SvgComponent.Text.Code
import SvgComponent.Value.Reader

namespace SvgComponent.Value.Strict

open Text

def isBlank (c : Char) : Bool :=
  c = ' ' || c = '\t' || c = '\n' || c = '\r'

def skip (text : List Char) : List Char :=
  text.dropWhile isBlank

def escapes : List (Char × Nat) :=
  [('"', 0x22), ('\\', 0x5C), ('/', 0x2F), ('b', 0x08), ('f', 0x0C), ('n', 0x0A), ('r', 0x0D),
    ('t', 0x09)]

/-- The unit that stands after a backslash. -/
def escaped? : List Char → Option (Nat × List Char)
  | [] => none
  | 'u' :: rest => Hexadecimal.read? 4 rest
  | c :: rest => (escapes.lookup c).map fun unit => (unit, rest)

/-- The units up to the closing quote. Controls have to be escaped. -/
def units : (fuel : Nat) → Scanner (List Nat)
  | 0, _ | _, [] => .error .malformed
  | fuel + 1, c :: rest =>
      if c = '"' then .ok ([], rest)
      else if c = '\\' then
        match escaped? rest with
        | none => .error .malformed
        | some (unit, rest) => do
            let (more, rest) ← units fuel rest
            return (unit :: more, rest)
      else if c.toNat < 0x20 then .error .malformed
      else do
        let (more, rest) ← units fuel rest
        return (c.toNat :: more, rest)

def string : Scanner String
  | '"' :: rest => do
      let (found, rest) ← units rest.length rest
      return (String.ofList (Units.characters found), rest)
  | _ => .error .malformed

/-- The digits after a point or an exponent mark, if they are complete. -/
def part? (mark : Char → Bool) (signed : Bool) : List Char → Option (List Char × List Char)
  | [] => none
  | c :: rest =>
      if mark c then
        let sign := if signed then rest.takeWhile (fun c => c = '+' || c = '-') else []
        let digits := (rest.drop sign.length).takeWhile Char.isDigit
        if sign.length ≤ 1 && !digits.isEmpty then
          some (sign ++ digits, rest.drop (sign.length + digits.length))
        else none
      else none

def exponentValue : List Char → Int
  | '-' :: digits => -(Numeral.value digits : Int)
  | '+' :: digits => Numeral.value digits
  | digits => Numeral.value digits

def unsigned (negative : Bool) (text : List Char) : Except ReadError (Value × List Char) :=
  let whole := match text with
    | '0' :: _ => ['0']
    | _ => text.takeWhile Char.isDigit
  let rest := text.drop whole.length
  let point := part? (· = '.') false rest
  let rest := (point.map Prod.snd).getD rest
  let power := part? (fun c => c = 'e' || c = 'E') true rest
  let rest := (power.map Prod.snd).getD rest
  let places := (point.map Prod.fst).getD []
  if whole.isEmpty then .error .malformed
  else if point.isNone && power.isNone then
    match Numeral.value? whole with
    | none => .error .oversizedNumeral
    | some magnitude => .ok (.int (if negative then -magnitude else magnitude), rest)
  else
    let exponent := ((power.map fun found => exponentValue found.1).getD 0) - places.length
    .ok (.float (.ofDecimal negative (Numeral.value (whole ++ places)) exponent), rest)

def number (text : List Char) : Except ReadError (Value × List Char) :=
  let (negative, text) := match text with
    | '-' :: rest => (true, rest)
    | rest => (false, rest)
  match "Infinity".toList.isPrefixOf? text, "NaN".toList.isPrefixOf? text with
  | some rest, _ => .ok (.float (.infinity negative), rest)
  | none, some rest => if negative then .error .malformed else .ok (.float .notANumber, rest)
  | none, none => unsigned negative text

def dialect : Dialect where
  skip := skip
  key := string
  string := string
  number := number
  trailingComma := false

def read (text : String) : Except ReadError Value :=
  dialect.read text

end SvgComponent.Value.Strict
