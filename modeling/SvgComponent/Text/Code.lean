/-
This file reads and writes numerals, and joins the halves of characters that are written as a pair
of 16-bit units.
-/

namespace SvgComponent.Text

namespace Numeral

/-- Characters that are no digits count as zero. -/
def value (digits : List Char) : Nat :=
  digits.foldl (fun total c => 10 * total + (if c.isDigit then c.toNat - '0'.toNat else 0)) 0

/-- A whole number is read or written only if its numeral has at most this many digits. -/
def mostDigits : Nat := 4300

def value? (digits : List Char) : Option Nat :=
  if digits.length ≤ mostDigits then some (value digits) else none

end Numeral

namespace Hexadecimal

def digit? (c : Char) : Option Nat :=
  if '0' ≤ c ∧ c ≤ '9' then some (c.toNat - '0'.toNat)
  else if 'a' ≤ c ∧ c ≤ 'f' then some (c.toNat - 'a'.toNat + 10)
  else if 'A' ≤ c ∧ c ≤ 'F' then some (c.toNat - 'A'.toNat + 10)
  else none

def isDigit (c : Char) : Bool :=
  (digit? c).isSome

/-- Characters that are no digits count as zero. -/
def value (digits : List Char) : Nat :=
  digits.foldl (fun total c => 16 * total + (digit? c).getD 0) 0

/-- A numeral of exactly `count` digits, and the text after it. -/
def read? (count : Nat) (text : List Char) : Option (Nat × List Char) :=
  let digits := text.take count
  if digits.length = count && digits.all isDigit then some (value digits, text.drop count) else none

/-- A numeral in lower case, with zeros in front up to the given width. -/
def write (width number : Nat) : List Char :=
  let digits := Nat.toDigits 16 number
  List.replicate (width - digits.length) '0' ++ digits

end Hexadecimal

namespace Units

def isLeading (unit : Nat) : Bool :=
  0xD800 ≤ unit && unit < 0xDC00

def isTrailing (unit : Nat) : Bool :=
  0xDC00 ≤ unit && unit < 0xE000

/-- A half that stands alone is no character and is shown as the replacement character. -/
def single (unit : Nat) : Char :=
  if isLeading unit || isTrailing unit then '\uFFFD' else Char.ofNat unit

def pair (leading trailing : Nat) : Char :=
  Char.ofNat (0x10000 + (leading - 0xD800) * 0x400 + (trailing - 0xDC00))

/-- The characters of a sequence of code points in which pairs may occur. -/
def characters : List Nat → List Char
  | [] => []
  | [unit] => [single unit]
  | leading :: trailing :: rest =>
      if isLeading leading && isTrailing trailing then pair leading trailing :: characters rest
      else single leading :: characters (trailing :: rest)

end Units

end SvgComponent.Text
