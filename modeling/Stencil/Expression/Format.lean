import Stencil.Expression.Basic
import Stencil.Json.Decoder
import Stencil.Json.Writer

/-!
# Expressions in compiled units

An expression is stored as a JSON object of one member, whose name tells the kind of expression.
-/

namespace Stencil

namespace Step

/-- A step as JSON. -/
def toJson : Step → Json
  | .member name => .object [("Member", .string name)]
  | .index position => .object [("Index", .number (.ofInt position))]
  | .key name => .object [("Key", .string name)]

/-- Decodes a step. -/
def decode : Decoder Step
  | depth + 1, .object [(kind, json)] =>
    match kind with
    | "Member" => (Decoder.text depth json).map .member
    | "Index" => (Decoder.index depth json).map .index
    | "Key" => (Decoder.text depth json).map .key
    | _ => none
  | _, _ => none

end Step

namespace Expression

mutual

/-- An expression as JSON. -/
def toJson : Expression → Json
  | .path root steps =>
    .object [("Path",
      .object [("root", .string root), ("steps", .array (steps.map Step.toJson))])]
  | .literal value => .object [("Literal", value.toJson)]
  | .coalesce operands => .object [("Coalesce", .array (operandsToJson operands))]

/-- The operands of a chain as JSON. -/
def operandsToJson : List Expression → List Json
  | [] => []
  | operand :: operands => toJson operand :: operandsToJson operands

end

/-- Decodes a path. -/
def decodePath : Decoder Expression
  | 0, _ => none
  | depth + 1, json => do
    match ← Decoder.fields? ["root", "steps"] json with
    | [root, steps] =>
      some (.path (← Decoder.required Decoder.text depth root)
        (← Decoder.required (Decoder.list Step.decode) depth steps))
    | _ => none

mutual

/-- Decodes an expression. -/
def decode (depth : Nat) : Json → Option Expression
  | .object [("Coalesce", .array operands)] =>
    match depth with
    | depth + 2 => (decodeOperands depth operands).map .coalesce
    | _ => none
  | .object [(kind, json)] =>
    match depth with
    | depth + 1 =>
      match kind with
      | "Path" => decodePath depth json
      | "Literal" => (Decoder.value depth json).map .literal
      | _ => none
    | _ => none
  | _ => none

/-- Decodes the operands of a chain. -/
def decodeOperands (depth : Nat) : List Json → Option (List Expression)
  | [] => some []
  | json :: rest =>
    match decode depth json, decodeOperands depth rest with
    | some operand, some operands => some (operand :: operands)
    | _, _ => none

end

/-- The JSON text of an expression. -/
def jsonText (e : Expression) : String :=
  e.toJson.text

end Expression

end Stencil
