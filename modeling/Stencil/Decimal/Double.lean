import Stencil.Decimal.Numeral

/-!
# Doubles

A double is a finite number of the 64-bit binary format: a sign and a whole number of units of
`2 ^ -1074`, of which at most the 53 leading binary digits are not zero. All arithmetic on doubles
is on these whole numbers, so nothing is rounded twice.
-/

namespace Stencil.Decimal

/-- The power of two that a size of `units` is counted in: past `2 ^ 53` units the steps widen. -/
def spacing (units : Nat) : Nat :=
  Nat.pow 2 (units.log2 - 52)

/-- The sizes that a double can have. -/
def Representable (units : Nat) : Prop :=
  units % spacing units = 0 ∧ units < Nat.pow 2 2098

instance (units : Nat) : Decidable (Representable units) :=
  inferInstanceAs (Decidable (_ ∧ _))

/-- A finite 64-bit binary number. -/
structure Double where
  /-- Whether the sign is minus; zero has both signs. -/
  negative : Bool
  /-- The size, in units of `2 ^ -1074`. -/
  units : Nat
  /-- The size has at most 53 significant binary digits and is below the overflow limit. -/
  representable : Representable units
deriving DecidableEq

/-- The whole number of units in one. -/
def one : Nat := Nat.pow 2 1074

/-- The quotient rounded to the nearest whole number, and to the even one of two nearest. -/
def roundHalfEven (n d : Nat) : Nat :=
  let q := n / d
  let twice := 2 * (n % d)
  if twice < d || (twice == d && q % 2 == 0) then q else q + 1

/-- The size nearest to `n / d` units. -/
def nearestUnits (n d : Nat) : Nat :=
  let step := spacing (n / d)
  roundHalfEven n (d * step) * step

/-- A decimal number in units, as a fraction. -/
def Magnitude.fraction (x : Magnitude) : Nat × Nat :=
  match x.exponent with
  | .ofNat e => (x.coefficient * Nat.pow 10 e * one, 1)
  | .negSucc e => (x.coefficient * one, Nat.pow 10 (e + 1))

/-- The size nearest to a decimal number. A number of more than 310 places before the point is
past every double, and one that starts more than 330 places after it is nearest to zero. -/
def Magnitude.toUnits? (x : Magnitude) : Option Nat :=
  let reach := (digitsOf x.coefficient).length + x.exponent
  if x.coefficient = 0 then some 0
  else if 310 < reach then none
  else if reach < -330 then some 0
  else some (nearestUnits x.fraction.1 x.fraction.2)

/-- The double nearest to a decimal number, unless it overflows. -/
def Double.ofMagnitude? (negative : Bool) (x : Magnitude) : Option Double := do
  let units ← x.toUnits?
  if h : Representable units then some ⟨negative, units, h⟩ else none

/-- The double nearest to what a numeral denotes, unless it overflows. -/
def Double.ofNumeral? (n : Numeral) : Option Double :=
  Double.ofMagnitude? n.negative n.magnitude

end Stencil.Decimal
