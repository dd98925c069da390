import Stencil.Decimal.Double

/-!
# Shortest digits

A double is written with the fewest decimal digits that read back as the same double, and with the
nearest of those. For each number of digits the two neighbours of the double on that decimal grid
are tested; the first grid with a neighbour that reads back wins.
-/

namespace Stencil.Decimal

/-- The decimal exponent of the first digit of a size that is not zero. -/
def leadingExponent (units : Nat) : Int :=
  (digitsOf (units * Nat.pow 10 400 / one)).length - 401

/-- A size counted in steps of `10 ^ p`, as a fraction. -/
def inSteps (units : Nat) (p : Int) : Nat × Nat :=
  match p with
  | .ofNat p => (units, one * Nat.pow 10 p)
  | .negSucc p => (units * Nat.pow 10 (p + 1), one)

/-- Whether the decimal number `c * 10 ^ p` reads back as the given size. -/
def readsBack (units : Nat) (c : Nat) (p : Int) : Bool :=
  Magnitude.toUnits? ⟨c, p⟩ == some units

/-- The nearest neighbour of a size on the grid of `10 ^ p` among those that read back. Halfway
between two of them, `tiesUp` takes the greater one, and otherwise the even one is taken. -/
def onGrid (tiesUp : Bool) (units : Nat) (p : Int) : Option Magnitude :=
  let (n, d) := inSteps units p
  let low := n / d
  let twice := 2 * (n % d)
  match readsBack units low p, readsBack units (low + 1) p with
  | true, false => some ⟨low, p⟩
  | false, true => some ⟨low + 1, p⟩
  | true, true =>
    if twice < d then some ⟨low, p⟩
    else if d < twice then some ⟨low + 1, p⟩
    else if tiesUp || low % 2 == 1 then some ⟨low + 1, p⟩
    else some ⟨low, p⟩
  | false, false => none

/-- The shortest decimal number that reads back as a size that is not zero. Every size reads back
from its own expansion, so the search could stop there at the latest. -/
def shortest (tiesUp : Bool) (units : Nat) : Magnitude :=
  let first := leadingExponent units
  ((List.range 17).findSome? fun (n : Nat) => onGrid tiesUp units (first - (n : Int))).getD
    ⟨units * Nat.pow 5 1074, -1074⟩

/-- How doubles are laid out as text. -/
structure Layout where
  /-- The least exponent of a first digit that is written without an exponent. -/
  plainFrom : Int
  /-- The greatest exponent of a first digit that is written without an exponent. -/
  plainTo : Int
  /-- Whether the greater of two equally near shortest decimals is taken. -/
  tiesUp : Bool

/-- The digits of a number without the zeros at the end. -/
def significantDigits (coefficient : Nat) : List Char :=
  ((digitsOf coefficient).reverse.dropWhile (· == '0')).reverse

/-- Digits with the point after the digit of exponent zero; `first` is the exponent of the first
digit. At least one digit stands on either side. -/
def plainNumeral (negative : Bool) (digits : List Char) (first : Int) : Numeral :=
  match first with
  | .ofNat e =>
    let fraction := digits.drop (e + 1)
    { negative
      whole := digits.take (e + 1) ++ List.replicate (e + 1 - digits.length) '0'
      fraction := if fraction.isEmpty then ['0'] else fraction
      exponent := none }
  | .negSucc e =>
    { negative, whole := ['0'], fraction := List.replicate e '0' ++ digits, exponent := none }

/-- Digits with the point after the first one, and the exponent of the first digit. -/
def scientificNumeral (negative : Bool) (digits : List Char) (first : Int) : Numeral :=
  { negative, whole := digits.take 1, fraction := digits.drop 1, exponent := some first }

/-- The numeral that a double is written as. -/
def Layout.numeral (layout : Layout) (x : Double) : Numeral :=
  if x.units = 0 then plainNumeral x.negative ['0'] 0
  else
    let decimal := shortest layout.tiesUp x.units
    let digits := significantDigits decimal.coefficient
    let first := decimal.exponent + (digitsOf decimal.coefficient).length - 1
    if layout.plainFrom ≤ first ∧ first ≤ layout.plainTo then
      plainNumeral x.negative digits first
    else scientificNumeral x.negative digits first

end Stencil.Decimal
