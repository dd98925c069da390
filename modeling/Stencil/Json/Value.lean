import Stencil.Decimal.Shortest
import Stencil.Json.Basic
import Stencil.Entries

/-!
# Plain data

Models, service values and literals are plain JSON data: numbers are numbers, and an object has
one value a name, in increasing order of the names. Where the text repeats a name, the last value
stays.
-/

namespace Stencil

open Decimal

/-- A number of plain data. -/
inductive Number where
  /-- A whole number of 64 bits, with or without a sign. -/
  | whole (value : Int)
  /-- Any other number. -/
  | double (value : Double)
deriving DecidableEq

namespace Number

/-- Whether a whole number fits 64 bits, with or without a sign. -/
def fits (i : Int) : Bool :=
  fitsSigned i || (0 ≤ i && i < 18446744073709551616)

/-- Doubles are written plainly when their first digit has an exponent from -5 to 15. -/
def layout : Layout where
  plainFrom := -5
  plainTo := 15
  tiesUp := false

/-- The number of a numeral, unless it overflows. A whole number that does not fit 64 bits, and a
zero with a minus sign, is a double. -/
def ofNumeral? (n : Numeral) : Option Number :=
  let size : Int := ofDigits n.whole
  let value := if n.negative then -size else size
  if n.isWhole && fits value && !(n.negative && size == 0) then some (.whole value)
  else (Double.ofNumeral? n).map .double

/-- The numeral that a number is written as. -/
def numeral : Number → Numeral
  | .whole i => Numeral.ofInt i
  | .double x => layout.numeral x

end Number

/-- Plain JSON data. -/
inductive Value where
  /-- Nothing. -/
  | null
  /-- A truth value. -/
  | bool (value : Bool)
  /-- A number. -/
  | number (value : Number)
  /-- A text. -/
  | string (text : String)
  /-- An array of items. -/
  | array (items : List Value)
  /-- An object, its names in increasing order. -/
  | object (members : List (String × Value))

namespace Value

instance : Inhabited Value := ⟨.null⟩

/-- Whether the value is nothing. -/
def isNull : Value → Bool
  | .null => true
  | _ => false

mutual

/-- The data that a JSON tree stands for. `depth` bounds how deep arrays and objects may nest. -/
def ofJson? (depth : Nat) : Json → Option Value
  | .null => some .null
  | .bool b => some (.bool b)
  | .number n => (Number.ofNumeral? n).map .number
  | .string text => some (.string text)
  | .array items =>
    match depth with
    | 0 => none
    | depth + 1 => (ofItems? depth items).map .array
  | .object members =>
    match depth with
    | 0 => none
    | depth + 1 => (ofMembers? depth members).map fun members => .object (Entries.ofList members)
  | .garbled => none

/-- The data of the items of an array. -/
def ofItems? (depth : Nat) : List Json → Option (List Value)
  | [] => some []
  | item :: items =>
    match ofJson? depth item, ofItems? depth items with
    | some value, some values => some (value :: values)
    | _, _ => none

/-- The data of the members of an object, in the order they are written in. -/
def ofMembers? (depth : Nat) : List (String × Json) → Option (List (String × Value))
  | [] => some []
  | (name, member) :: members =>
    match ofJson? depth member, ofMembers? depth members with
    | some value, some values => some ((name, value) :: values)
    | _, _ => none

end

mutual

/-- The JSON tree that a value is written as. -/
def toJson : Value → Json
  | .null => .null
  | .bool b => .bool b
  | .number n => .number n.numeral
  | .string text => .string text
  | .array items => .array (itemsToJson items)
  | .object members => .object (membersToJson members)

/-- The JSON trees of the items of an array. -/
def itemsToJson : List Value → List Json
  | [] => []
  | item :: items => toJson item :: itemsToJson items

/-- The JSON trees of the members of an object. -/
def membersToJson : List (String × Value) → List (String × Json)
  | [] => []
  | (name, member) :: members => (name, toJson member) :: membersToJson members

end

end Value

end Stencil
