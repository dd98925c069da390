import Stencil.Url.Domain.Direction
import Stencil.Url.Domain.Joining
import Stencil.Url.Domain.Mapping
import Stencil.Url.Punycode

/-!
# Labels

A label is the part of a domain name between two dots. In ASCII, a label with characters past ASCII
is written as a tag and the Punycode of its characters; such a label may also be given in its ASCII
form, as long as that is the one form in which it would be written.
-/

namespace Stencil.Url.Domain

/-- A label of a domain name. -/
structure Label where
  /-- The characters of the label. -/
  chars : List Char
  /-- The label in ASCII. -/
  ascii : List Char
deriving DecidableEq, Repr

namespace Label

/-- The tag in front of Punycode. -/
def tag : List Char :=
  ['x', 'n', '-', '-']

/-- The most characters of a label past ASCII. -/
def sizeLimit : Nat := 1000

/-- The most characters of Punycode that are read. -/
def codeLimit : Nat := 2000

/-- Whether a text is in ASCII. -/
def isAscii (text : List Char) : Bool :=
  text.all (·.toNat < 128)

/-- The label that Punycode stands for. Its characters stand for themselves, in composed form, and
have no tag of their own. -/
def ofCode? (code : List Char) : Option Label := do
  if !isAscii code || codeLimit < code.length || code.isEmpty || code.getLast? = some '-' then none
  let chars ← Punycode.decode? code
  if sizeLimit < chars.length || !chars.all isUsual || Text.composed chars != chars
      || chars.take 4 = tag then none
  some ⟨chars, tag ++ code⟩

/-- The label of a text between two dots. -/
def read? (text : List Char) : Option Label :=
  if text.take 4 = tag then ofCode? (text.drop 4)
  else if isAscii text then some ⟨text, text⟩
  else if sizeLimit < text.length then none
  else some ⟨text, tag ++ Punycode.encode text⟩

/-- Whether a label starts with something to which the marks of it belong, and its joiners make a
difference. -/
def isReadable (label : Label) : Bool :=
  !label.chars.head?.any Text.isMark && placesJoiners [] label.chars

end Label

end Stencil.Url.Domain
