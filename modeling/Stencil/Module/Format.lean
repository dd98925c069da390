import Stencil.Json.Decoder
import Stencil.Json.Writer
import Stencil.Module.Basic

/-!
# Modules as bytes

Modules travel as JSON. A sealed type is written without a list of members, a type that has no
members with an empty one.
-/

namespace Stencil

/-- Members as a JSON object. -/
def membersJson (members : Dictionary String) : Json :=
  .object (members.entries.map fun member => (member.1, .string member.2))

namespace Schema

/-- A schema as JSON. -/
def toJson (schema : Schema) : Json :=
  .object (("name", .string schema.name) ::
    (schema.members.map fun members => ("members", membersJson members)).toList)

/-- Decodes a schema. -/
def decode : Decoder Schema
  | 0, _ => none
  | depth + 1, json => do
    match ← Decoder.fields? ["name", "members"] json with
    | [name, members] =>
      some {
        name := ← Decoder.required Decoder.text depth name
        members :=
          ← Decoder.optional (Decoder.orNull (Decoder.dictionary Decoder.text)) none depth members }
    | _ => none

end Schema

namespace Module

/-- A module as JSON. -/
def toJson (module : Module) : Json :=
  .object [("name", .string module.name), ("types", .array (module.types.map Schema.toJson))]

/-- Decodes a module. -/
def decode : Decoder Module
  | 0, _ => none
  | depth + 1, json => do
    match ← Decoder.fields? ["name", "types"] json with
    | [name, types] =>
      some {
        name := ← Decoder.required Decoder.text depth name
        types := ← Decoder.optional (Decoder.list Schema.decode) [] depth types }
    | _ => none

/-- The JSON text of a module. -/
def text (module : Module) : String :=
  module.toJson.text

/-- The bytes that a module travels as. -/
def bytes (module : Module) : ByteArray :=
  module.text.toUTF8

/-- The module that bytes stand for. -/
def ofBytes? (bytes : ByteArray) : Option Module :=
  Module.decode.runBytes bytes

end Module

end Stencil
