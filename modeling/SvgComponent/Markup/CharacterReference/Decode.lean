/-
This file replaces character references by the characters they stand for.
-/

import SvgComponent.Markup.CharacterReference.Names
import SvgComponent.Text.Code

namespace SvgComponent.Markup.CharacterReference

open Text

/-- The codes from 0x80 to 0x9F stand for the characters of an older code page. -/
def olderCodePage : List Nat := [
  0x20AC, 0x81, 0x201A, 0x0192, 0x201E, 0x2026, 0x2020, 0x2021,
  0x02C6, 0x2030, 0x0160, 0x2039, 0x0152, 0x8D, 0x017D, 0x8F,
  0x90, 0x2018, 0x2019, 0x201C, 0x201D, 0x2022, 0x2013, 0x2014,
  0x02DC, 0x2122, 0x0161, 0x203A, 0x0153, 0x9D, 0x017E, 0x0178]

/-- Controls and noncharacters are left out. -/
def isLeftOut (code : Nat) : Bool :=
  (0x1 ≤ code && code ≤ 0x8) || code = 0xB || (0xE ≤ code && code ≤ 0x1F) || code = 0x7F ||
    (0xFDD0 ≤ code && code ≤ 0xFDEF) || 0xFFFE ≤ code % 0x10000

/-- The text that a code stands for. The replacement character stands for what is no character. -/
def numbered (code : Nat) : List Char :=
  if code = 0 then ['\uFFFD']
  else if 0x80 ≤ code ∧ code ≤ 0x9F then [Char.ofNat (olderCodePage.getD (code - 0x80) 0)]
  else if (0xD800 ≤ code ∧ code ≤ 0xDFFF) ∨ 0x10FFFF < code then ['\uFFFD']
  else if isLeftOut code then []
  else [Char.ofNat code]

/-- What a reference stands for, and the text after it. -/
inductive Reading where
  | replaced (characters rest : List Char)
  | plain
  | oversizedNumeral

def dropSemicolon : List Char → List Char
  | ';' :: rest => rest
  | text => text

/-- The semicolon after a numeral may be missing. -/
def readNumber (digits rest : List Char) (code : Option Nat) : Reading :=
  if digits.isEmpty then .plain
  else
    match code with
    | some code => .replaced (numbered code) (dropSemicolon rest)
    | none => .oversizedNumeral

def readHexadecimal (text : List Char) : Reading :=
  let digits := text.takeWhile Hexadecimal.isDigit
  readNumber digits (text.drop digits.length) (some (Hexadecimal.value digits))

def readDecimal (text : List Char) : Reading :=
  let digits := text.takeWhile Char.isDigit
  readNumber digits (text.drop digits.length) (Numeral.value? digits)

def isNameCharacter (c : Char) : Bool :=
  c != '\t' && c != '\n' && c != '\x0C' && c != ' ' && c != '<' && c != '&' && c != '#' && c != ';'

/-- A name with its semicolon is looked up as a whole. Otherwise an abbreviated name is replaced
and the text after it stays. -/
def readName (text : List Char) : Reading :=
  let name := text.takeWhile isNameCharacter
  let whole := match text.drop name.length with
    | ';' :: rest => (named? name).map fun characters => (characters, rest)
    | _ => none
  match whole, abbreviated? text with
  | some (characters, rest), _ => .replaced characters rest
  | none, some (characters, rest) => .replaced characters rest
  | none, none => .plain

/-- The reading of the text after an ampersand. -/
def read : List Char → Reading
  | '#' :: 'x' :: rest => readHexadecimal rest
  | '#' :: 'X' :: rest => readHexadecimal rest
  | '#' :: rest => readDecimal rest
  | text => readName text

def decodeWithin : (fuel : Nat) → List Char → Option (List Char)
  | 0, _ | _, [] => some []
  | fuel + 1, c :: rest =>
      if c = '&' then
        match read rest with
        | .replaced characters after => (decodeWithin fuel after).map (characters ++ ·)
        | .plain => (decodeWithin fuel rest).map (c :: ·)
        | .oversizedNumeral => none
      else (decodeWithin fuel rest).map (c :: ·)

/-- All references are replaced in one pass. There is no result if a numeral is too long to read. -/
def decode? (text : List Char) : Option (List Char) :=
  decodeWithin text.length text

end SvgComponent.Markup.CharacterReference
