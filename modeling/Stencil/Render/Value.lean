import Stencil.Expression.Basic
import Stencil.Json.Writer
import Stencil.Text.Caseless

/-!
# Values on paths and in text

A step leads from an object to a member, named in its own case if possible, and from an array to an
item. Where a value has no such part the path leads nowhere. Written out, a text stands for itself,
nothing leaves no trace, and arrays and objects are written as JSON.
-/

namespace Stencil.Value

/-- The part of a value that a step leads to. -/
def step? : Value → Step → Option Value
  | .object members, .member name => Text.findNamed name members
  | .object members, .key name => Text.findNamed name members
  | .array items, .index position => items[position]?
  | _, _ => none

/-- The part of a value that several steps lead to, one after the other. -/
def lookup? (value : Value) : List Step → Option Value
  | [] => some value
  | step :: steps =>
    match value.step? step with
    | some part => part.lookup? steps
    | none => none

/-- The JSON text of a value. -/
def jsonText (value : Value) : String :=
  value.toJson.text

/-- What is written for a value. -/
def display : Value → String
  | .null => ""
  | .string text => text
  | .bool true => "true"
  | .bool false => "false"
  | .number n => String.ofList (n.numeral.chars true)
  | .array items => (Value.array items).jsonText
  | .object members => (Value.object members).jsonText

end Stencil.Value
