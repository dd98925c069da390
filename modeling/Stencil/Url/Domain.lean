import Stencil.Url.Domain.Label

/-!
# Domain names

A domain name is a row of labels with dots between them. It is written in ASCII, and names that look
alike are written alike.
-/

namespace Stencil.Url.Domain

/-- The labels of a domain name. -/
def labels? (text : List Char) : Option (List Label) := do
  let usual ← usual? text
  let labels ← (Text.splitWhere (· == '.') usual).mapM Label.read?
  if labels.all Label.isReadable && keepDirection (labels.map Label.chars) then some labels
  else none

/-- A domain name in ASCII. -/
def ascii? (text : List Char) : Option (List Char) :=
  (labels? text).map fun labels => ['.'].intercalate (labels.map Label.ascii)

end Stencil.Url.Domain
