import Stencil.Json.Reader
import Stencil.Json.Value
import Stencil.Text.Utf8

/-!
# Decoding records

A record is read from an object, whose unknown members are passed over unread, or from an array of
its fields in order. Only what is decoded counts for the bound on nesting: what is passed over may
nest as deep as it likes, and may hold numbers and strings that nothing could be made of.
-/

namespace Stencil

/-- Makes a value of a JSON tree; the number tells how many more arrays and objects may nest. -/
abbrev Decoder (α : Type) := Nat → Json → Option α

namespace Decoder

/-- How many arrays and objects may nest in a decoded text. -/
def nestingLimit : Nat := 127

/-- Decodes a text. -/
def text : Decoder String
  | _, .string text => some text
  | _, _ => none

/-- Decodes plain data. -/
def value : Decoder Value :=
  Value.ofJson?

/-- Decodes an index, a whole number of 64 bits without a sign. -/
def index : Decoder Nat
  | _, .number n =>
    match Number.ofNumeral? n with
    | some (.whole i) => if 0 ≤ i then some i.toNat else none
    | _ => none
  | _, _ => none

/-- Decodes an array, item by item. -/
def list (item : Decoder α) : Decoder (List α)
  | depth + 1, .array items => items.mapM (item depth)
  | _, _ => none

/-- Decodes an object into a dictionary; the last value of each name stays. -/
def dictionary (member : Decoder α) : Decoder (Dictionary α)
  | depth + 1, .object members =>
    (members.mapM fun m => (member depth m.2).map (m.1, ·)).map Dictionary.ofList
  | _, _ => none

/-- Decodes `null` to nothing and all else by the given decoder. -/
def orNull (some? : Decoder α) : Decoder (Option α)
  | _, .null => some none
  | depth, json => (some? depth json).map some

/-- The member of a record under a name, if there is one; two are refused. -/
def field? (members : List (String × Json)) (name : String) : Option (Option Json) :=
  match members.filter (·.1 == name) with
  | [] => some none
  | [member] => some (some member.2)
  | _ => none

/-- The fields of a record in the order of their names; later fields may be missing. -/
def fields? (names : List String) : Json → Option (List (Option Json))
  | .object members => names.mapM (field? members)
  | .array items =>
    if items.length ≤ names.length then
      some (items.map some ++ List.replicate (names.length - items.length) none)
    else none
  | _ => none

/-- A field that must be there. -/
def required (decoder : Decoder α) (depth : Nat) (field : Option Json) : Option α :=
  field.bind (decoder depth)

/-- A field that has a default. -/
def optional (decoder : Decoder α) (default : α) (depth : Nat) : Option Json → Option α
  | none => some default
  | some json => decoder depth json

/-- Decodes the whole of a text. -/
def run (decoder : Decoder α) (text : List Char) : Option α :=
  (Json.read text).bind (decoder nestingLimit)

/-- How a JSON text spells a gap between its characters: U+FFFD, which stands between no tokens and
behind no backslash, and the escape of half a surrogate pair, which makes a string no text. -/
def gap : List Char :=
  [Text.replacementChar, '\\', 'u', 'd', 'c', '0', '0']

/-- The JSON text of bytes. Bytes that are no character may only stand in strings that nobody
reads. -/
def textOfBytes (bytes : ByteArray) : List Char :=
  match String.fromUTF8? bytes with
  | some text => text.toList
  | none => (Text.charsOrGaps bytes.toList).flatMap fun char => (char.map ([·])).getD gap

/-- Decodes the bytes of a text. -/
def runBytes (decoder : Decoder α) (bytes : ByteArray) : Option α :=
  decoder.run (textOfBytes bytes)

end Decoder

end Stencil
