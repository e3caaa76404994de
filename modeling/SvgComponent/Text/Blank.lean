/-
This file trims and condenses blank text.
-/

namespace SvgComponent.Text

/-- The blank characters separate words and may be trimmed from either end of a text. -/
def isBlank (c : Char) : Bool :=
  let code := c.toNat
  (0x09 ≤ code && code ≤ 0x0D) || (0x1C ≤ code && code ≤ 0x20) || code = 0x85 || code = 0xA0 ||
    code = 0x1680 || (0x2000 ≤ code && code ≤ 0x200A) || code = 0x2028 || code = 0x2029 ||
    code = 0x202F || code = 0x205F || code = 0x3000

def dropBlank (text : List Char) : List Char :=
  text.dropWhile isBlank

def trim (text : List Char) : List Char :=
  (dropBlank (dropBlank text).reverse).reverse

/-- A blank text has no visible character. The empty text is blank. -/
def isBlankText (text : List Char) : Bool :=
  text.all isBlank

/-- Every run of blank characters becomes one space. -/
def condense : List Char → List Char
  | [] => []
  | c :: rest =>
      if isBlank c then
        match condense rest with
        | ' ' :: tail => ' ' :: tail
        | other => ' ' :: other
      else c :: condense rest

end SvgComponent.Text
