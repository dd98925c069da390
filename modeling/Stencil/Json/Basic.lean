import Stencil.Decimal.Numeral

/-!
# JSON as it is written

A JSON text is read into a tree that keeps what a reader of records or of plain data may need to
know: numbers stay numerals, members keep their order and their repetitions, and a string that
holds half of a surrogate pair is told apart, because it is no text but may stand where nobody
reads it.
-/

namespace Stencil

open Decimal (Numeral)

/-- A JSON text as a tree. -/
inductive Json where
  /-- The word `null`. -/
  | null
  /-- The words `true` and `false`. -/
  | bool (value : Bool)
  /-- A number, as its numeral. -/
  | number (numeral : Numeral)
  /-- A string, as its text. -/
  | string (text : String)
  /-- An array of items. -/
  | array (items : List Json)
  /-- An object with its members in the order they are written in. -/
  | object (members : List (String × Json))
  /-- A string that is no text, or an object with such a string for a name. -/
  | garbled
deriving Repr

end Stencil
