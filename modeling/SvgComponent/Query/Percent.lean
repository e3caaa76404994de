/-
This file decodes percent escapes.
-/

import SvgComponent.Text.Code

namespace SvgComponent.Query.Percent

open Text

inductive Fault where
  | malformedEscape
  | invalidEncoding
  deriving DecidableEq

def isAscii (c : Char) : Bool :=
  c.toNat < 0x80

/-- A percent sign has to be followed by two hexadecimal digits. -/
def isWellFormed : List Char → Bool
  | [] => true
  | c :: rest => (c != '%' || (Hexadecimal.read? 2 rest).isSome) && isWellFormed rest

/-- The bytes of ASCII text. An escape stands for one byte and any other character for itself. -/
def bytes : (fuel : Nat) → List Char → List UInt8
  | 0, _ | _, [] => []
  | fuel + 1, c :: rest =>
      match (if c = '%' then Hexadecimal.read? 2 rest else none) with
      | some (byte, rest) => UInt8.ofNat byte :: bytes fuel rest
      | none => UInt8.ofNat c.toNat :: bytes fuel rest

/-- Bytes are decoded strictly: overlong forms, surrogates and incomplete sequences are refused. -/
def text? (encoded : List UInt8) : Option (List Char) :=
  (String.fromUTF8? ⟨encoded.toArray⟩).map String.toList

/-- The ASCII characters are decoded run by run. All other characters stay as they are and so cut
an encoded sequence. -/
def decodeRuns? : (fuel : Nat) → List Char → Option (List Char)
  | 0, _ | _, [] => some []
  | fuel + 1, c :: rest =>
      if isAscii c then do
        let run := (c :: rest).takeWhile isAscii
        let decoded ← text? (bytes run.length run)
        let others ← decodeRuns? fuel ((c :: rest).dropWhile isAscii)
        return decoded ++ others
      else (decodeRuns? fuel rest).map (c :: ·)

/-- The escapes of a text stand for bytes, and the bytes for characters. -/
def decode (text : List Char) : Except Fault (List Char) :=
  if isWellFormed text then
    match decodeRuns? text.length text with
    | some decoded => .ok decoded
    | none => .error .invalidEncoding
  else .error .malformedEscape

end SvgComponent.Query.Percent
