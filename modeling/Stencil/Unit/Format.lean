import Stencil.Expression.Format
import Stencil.Unit.Basic

/-!
# Units as bytes

A unit is stored as JSON.
-/

namespace Stencil

namespace Contract

/-- A bound contract as JSON. -/
def toJson (contract : Contract) : Json :=
  .object [("name", .string contract.name), ("model", .string contract.model)]

/-- Decodes a bound contract. -/
def decode : Decoder Contract
  | 0, _ => none
  | depth + 1, json => do
    match ← Decoder.fields? ["name", "model"] json with
    | [name, model] =>
      some {
        name := ← Decoder.required Decoder.text depth name
        model := ← Decoder.required Decoder.text depth model }
    | _ => none

end Contract

namespace Instruction

/-- An instruction as JSON. -/
def toJson : Instruction → Json
  | .writeLiteral text => .object [("WriteLiteral", .string text)]
  | .write expression => .object [("Write", expression.toJson)]

/-- Decodes an instruction. -/
def decode : Decoder Instruction
  | depth + 1, .object [(kind, json)] =>
    match kind with
    | "WriteLiteral" => (Decoder.text depth json).map .writeLiteral
    | "Write" => (Expression.decode depth json).map .write
    | _ => none
  | _, _ => none

end Instruction

namespace RendererImage

/-- A renderer as JSON. -/
def toJson (image : RendererImage) : Json :=
  .object [("name", .string image.name), ("base", image.base.toJson),
    ("dependencies", .array (image.dependencies.map Json.string)),
    ("body", .array (image.body.map Instruction.toJson))]

/-- Decodes a renderer. -/
def decode : Decoder RendererImage
  | 0, _ => none
  | depth + 1, json => do
    match ← Decoder.fields? ["name", "base", "dependencies", "body"] json with
    | [name, base, dependencies, body] =>
      some {
        name := ← Decoder.required Decoder.text depth name
        base := ← Decoder.required Contract.decode depth base
        dependencies := ← Decoder.optional (Decoder.list Decoder.text) [] depth dependencies
        body := ← Decoder.required (Decoder.list Instruction.decode) depth body }
    | _ => none

end RendererImage

namespace UnitImage

/-- A unit as JSON. -/
def toJson (image : UnitImage) : Json :=
  .object [("name", .string image.name), ("types", .array (image.types.map RendererImage.toJson))]

/-- Decodes a unit. -/
def decode : Decoder UnitImage
  | 0, _ => none
  | depth + 1, json => do
    match ← Decoder.fields? ["name", "types"] json with
    | [name, types] =>
      some {
        name := ← Decoder.required Decoder.text depth name
        types := ← Decoder.required (Decoder.list RendererImage.decode) depth types }
    | _ => none

/-- The JSON text of a unit. -/
def text (image : UnitImage) : String :=
  image.toJson.text

/-- The bytes that a unit is stored as. -/
def bytes (image : UnitImage) : ByteArray :=
  image.text.toUTF8

/-- The unit that bytes stand for. -/
def ofBytes? (bytes : ByteArray) : Option UnitImage :=
  UnitImage.decode.runBytes bytes

end UnitImage

end Stencil
