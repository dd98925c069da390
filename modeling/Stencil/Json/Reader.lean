import Stencil.Json.Token

/-!
# Reading JSON

The reader goes through the tokens once. It keeps what it has seen of the arrays and objects that
are still open, innermost first; there is no bound on their number.
-/

namespace Stencil.Json

/-- What has been read of an array or object that is still open, latest first. -/
inductive Frame where
  /-- An open array and its items. -/
  | array (items : List Json)
  /-- An open object, its members and the name whose value is being read. -/
  | object (members : List (Option String × Json)) (name : Option String)

/-- The object of the given members; it is garbled when one of the names is. -/
def ofMembers (members : List (Option String × Json)) : Json :=
  let named := members.mapM fun (member : Option String × Json) => member.1.map (·, member.2)
  (named.map Json.object).getD .garbled

mutual

/-- Reads a value. -/
def readValue (frames : List Frame) : List Token → Option Json
  | .null :: rest => readNext frames .null rest
  | .bool b :: rest => readNext frames (.bool b) rest
  | .number n :: rest => readNext frames (.number n) rest
  | .string (some text) :: rest => readNext frames (.string text) rest
  | .string none :: rest => readNext frames .garbled rest
  | .openArray :: .closeArray :: rest => readNext frames (.array []) rest
  | .openArray :: rest => readValue (.array [] :: frames) rest
  | .openObject :: .closeObject :: rest => readNext frames (.object []) rest
  | .openObject :: .string name :: .colon :: rest => readValue (.object [] name :: frames) rest
  | _ => none

/-- Goes on after a value. -/
def readNext (frames : List Frame) (value : Json) : List Token → Option Json
  | [] => if frames.isEmpty then some value else none
  | .comma :: .string name :: .colon :: rest =>
    match frames with
    | .object members name' :: frames =>
      readValue (.object ((name', value) :: members) name :: frames) rest
    | _ => none
  | .comma :: rest =>
    match frames with
    | .array items :: frames => readValue (.array (value :: items) :: frames) rest
    | _ => none
  | .closeArray :: rest =>
    match frames with
    | .array items :: frames => readNext frames (.array (value :: items).reverse) rest
    | _ => none
  | .closeObject :: rest =>
    match frames with
    | .object members name :: frames =>
      readNext frames (ofMembers ((name, value) :: members).reverse) rest
    | _ => none
  | _ => none

end

/-- Reads a whole JSON text. -/
def read (text : List Char) : Option Json :=
  (tokens text).bind (readValue [])

end Stencil.Json
