/-!
# Decimal numerals

A numeral is a decimal number as it is written: its sign, the digits before and after the point
and its exponent. Two numerals may denote the same number; a `Magnitude` keeps only the number.
-/

namespace Stencil.Decimal

/-- The number `coefficient * 10 ^ exponent`. -/
structure Magnitude where
  /-- The digits, as one whole number. -/
  coefficient : Nat
  /-- The power of ten that the coefficient counts. -/
  exponent : Int
deriving DecidableEq, Repr

/-- A decimal number as it is written. -/
structure Numeral where
  /-- Whether a minus sign stands in front. -/
  negative : Bool
  /-- The digits before the point. -/
  whole : List Char
  /-- The digits after the point; none of them means that no point is written. -/
  fraction : List Char
  /-- The exponent, if one is written. -/
  exponent : Option Int
deriving DecidableEq, Repr

/-- The digits of a whole number. -/
def digitsOf (n : Nat) : List Char :=
  Nat.toDigits 10 n

/-- The whole number that digits spell; no digits spell zero. -/
def ofDigits (digits : List Char) : Nat :=
  Nat.ofDigitChars 10 digits 0

/-- Whether a whole number fits 64 bits with a sign. -/
def fitsSigned (i : Int) : Bool :=
  -9223372036854775808 ≤ i && i < 9223372036854775808

/-- A whole number as a numeral. -/
def Numeral.ofInt (i : Int) : Numeral where
  negative := i < 0
  whole := digitsOf i.natAbs
  fraction := []
  exponent := none

/-- Whether the numeral is written without a point and without an exponent. -/
def Numeral.isWhole (n : Numeral) : Bool :=
  n.fraction.isEmpty && n.exponent.isNone

/-- The size of the number that the numeral denotes. -/
def Numeral.magnitude (n : Numeral) : Magnitude where
  coefficient := ofDigits (n.whole ++ n.fraction)
  exponent := n.exponent.getD 0 - n.fraction.length

/-- The characters of a written exponent; `plus` asks for a sign on one that is not negative. -/
def exponentChars (plus : Bool) (e : Int) : List Char :=
  'e' :: (if e < 0 then ['-'] else if plus then ['+'] else []) ++ digitsOf e.natAbs

/-- The characters of a numeral; `plus` asks for a sign on an exponent that is not negative. -/
def Numeral.chars (plus : Bool) (n : Numeral) : List Char :=
  (if n.negative then ['-'] else [])
    ++ n.whole
    ++ (if n.fraction.isEmpty then [] else '.' :: n.fraction)
    ++ (n.exponent.map (exponentChars plus)).getD []

end Stencil.Decimal
