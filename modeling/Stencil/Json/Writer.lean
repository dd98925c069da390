import Stencil.Json.Basic
import Stencil.Json.Escape

/-!
# Writing JSON

A JSON tree is written without blanks, its members in their order.
-/

namespace Stencil.Json

mutual

/-- The characters of a JSON text. Garbled strings are never written; they stand for no text. -/
def chars : Json → List Char
  | .null => ['n', 'u', 'l', 'l']
  | .bool true => ['t', 'r', 'u', 'e']
  | .bool false => ['f', 'a', 'l', 's', 'e']
  | .number n => n.chars true
  | .string text => stringChars text.toList
  | .array [] => ['[', ']']
  | .array (item :: items) => '[' :: (chars item ++ itemChars items)
  | .object [] => ['\x7b', '\x7d']
  | .object ((name, value) :: members) =>
    '\x7b' :: (stringChars name.toList ++ ':' :: (chars value ++ memberChars members))
  | .garbled => ['"', '"']

/-- The items after the first one, up to the end of the array. -/
def itemChars : List Json → List Char
  | [] => [']']
  | item :: items => ',' :: (chars item ++ itemChars items)

/-- The members after the first one, up to the end of the object. -/
def memberChars : List (String × Json) → List Char
  | [] => ['\x7d']
  | (name, value) :: members =>
    ',' :: (stringChars name.toList ++ ':' :: (chars value ++ memberChars members))

end

/-- The text of a JSON tree. -/
def text (json : Json) : String :=
  String.ofList json.chars

end Stencil.Json
