import Stencil.Json.Value

/-!
# Expressions

An expression computes the value that a template shows at one place: a path into the model or into
the value of a dependency, a literal, or the first of several operands that is not null.
-/

namespace Stencil

/-- A step of a path, from a value to a part of it. -/
inductive Step where
  /-- To a member of an object, written after a dot. -/
  | member (name : String)
  /-- To an item of an array. -/
  | index (position : Nat)
  /-- To a member of an object, written as a string between brackets. -/
  | key (name : String)
deriving DecidableEq, Repr

/-- An expression. -/
inductive Expression where
  /-- A path from the model or from a dependency. -/
  | path (root : String) (steps : List Step)
  /-- A value that is written down. -/
  | literal (value : Value)
  /-- The first operand that is not null. -/
  | coalesce (operands : List Expression)

namespace Expression

/-- The root of the paths into the model. -/
def modelRoot : String := "Model"

/-- One operand stands for itself; several of them are joined. -/
def join : List Expression → Expression
  | [operand] => operand
  | operands => .coalesce operands

end Expression

end Stencil
