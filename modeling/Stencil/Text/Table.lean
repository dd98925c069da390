import Stencil.Text.Ranges
import Stencil.Text.Split

/-!
# Tables of code points

Long tables are written as lines of text, in hexadecimal. Spaces stand between the entries of a
line, colons between the fields of an entry, and hyphens between the numbers of a field.
-/

namespace Stencil.Text

/-- The number that hexadecimal digits in lower case spell. -/
def hexNumber (digits : List Char) : Nat :=
  digits.foldl (fun n c => n * 16 + (if c ≤ '9' then c.toNat - 48 else c.toNat - 87)) 0

/-- The entries of a table. -/
def tableEntries (lines : List String) : List (List (List Nat)) :=
  lines.flatMap fun line =>
    (splitWhere (· == ' ') line.toList).map fun entry =>
      (splitWhere (· == ':') entry).map fun field => (splitWhere (· == '-') field).map hexNumber

/-- The range of a field: one code point, or from the first one to the last one. -/
def rangeOfField : List Nat → Option (Nat × Nat)
  | [only] => some (only, only)
  | [first, last] => some (first, last)
  | _ => none

/-- The set of the code points of all fields of a table. -/
def Ranges.read (lines : List String) : Ranges :=
  (tableEntries lines).flatMap (·.filterMap rangeOfField)

end Stencil.Text
