import Stencil.Expression.Basic

/-!
# Compiled units

A compiled unit holds renderers. A renderer is bound to a contract and a model type, names the
dependencies it needs, and has a body of instructions.
-/

namespace Stencil

/-- A contract bound to a model type. -/
structure Contract where
  /-- The name of the contract. -/
  name : String
  /-- The name of the model type. -/
  model : String
deriving DecidableEq, Repr

/-- An instruction of a renderer. -/
inductive Instruction where
  /-- Writes a text. -/
  | writeLiteral (text : String)
  /-- Writes the value of an expression. -/
  | write (expression : Expression)

/-- A renderer as it stands in a unit. -/
structure RendererImage where
  /-- The name of the renderer. -/
  name : String
  /-- The contract it implements. -/
  base : Contract
  /-- The names of the dependencies it needs. -/
  dependencies : List String
  /-- Its instructions in order. -/
  body : List Instruction

/-- A unit: a named list of renderers. -/
structure UnitImage where
  /-- The name of the unit. -/
  name : String
  /-- The renderers of the unit. -/
  types : List RendererImage

/-- A renderer that has been loaded from a unit. -/
structure Renderer where
  /-- The name of the unit. -/
  unit : String
  /-- The renderer as it stood in the unit. -/
  image : RendererImage

end Stencil
