import Stencil.Text.Ranges

/-!
# Blank characters

Blank means the Unicode property White_Space. Trimming removes blank characters from both ends of
a text.
-/

namespace Stencil.Text

/-- The code points of the property White_Space. -/
def blankRanges : Ranges :=
  [(0x9, 0xD), (0x20, 0x20), (0x85, 0x85), (0xA0, 0xA0), (0x1680, 0x1680), (0x2000, 0x200A),
   (0x2028, 0x2029), (0x202F, 0x202F), (0x205F, 0x205F), (0x3000, 0x3000)]

/-- A character is blank when it has the property White_Space. -/
def isBlank (c : Char) : Bool :=
  blankRanges.contains c

/-- The text without the blank characters at its two ends. -/
def trim (text : List Char) : List Char :=
  ((text.dropWhile isBlank).reverse.dropWhile isBlank).reverse

/-- The string without the blank characters at its two ends. -/
def trimmed (text : String) : String :=
  String.ofList (trim text.toList)

end Stencil.Text
