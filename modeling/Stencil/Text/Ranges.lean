/-!
# Sets of code points

A character property is a list of ranges of code points, in increasing order. The property tables
of the neighbouring modules are such lists.
-/

namespace Stencil.Text

/-- A set of code points, as ranges that include both ends. -/
abbrev Ranges := List (Nat × Nat)

/-- A character belongs to a set when some range holds its code point. -/
def Ranges.contains (ranges : Ranges) (c : Char) : Bool :=
  ranges.any fun range => range.1 ≤ c.toNat && c.toNat ≤ range.2

end Stencil.Text
