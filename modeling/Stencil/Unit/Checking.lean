import Stencil.Module.Basic
import Stencil.Unit.Basic
import Stencil.Unit.Problem

/-!
# Checking expressions

Every path of an expression starts at the model or at a declared dependency. The members on a path
into the model are followed through the schemas of their types, until a type is unknown or sealed
or a step is no member.
-/

namespace Stencil.Unit

/-- The schemas of all types that the referenced modules define, by the names of the types. -/
abbrev TypeTable := Dictionary Schema

/-- The problem of a path, given the type that has been reached and the way to it. -/
def memberProblems (types : TypeTable) (type walked : String) : List Step → List Problem
  | .member name :: steps =>
    match types.get? type with
    | none => []
    | some schema =>
      match schema.member name with
      | .unknown => []
      | .absent => [.missingMember walked type name]
      | .declared next => memberProblems types next (walked ++ "." ++ name) steps
  | _ => []

/-- What the paths of an expression are checked against. -/
structure Scope where
  /-- The known types. -/
  types : TypeTable
  /-- The type of the model, if the renderer is declared. -/
  model : Option String
  /-- The dependencies that are declared. -/
  dependencies : List String

/-- The problems of a path. -/
def pathProblems (scope : Scope) (root : String) (steps : List Step) : List Problem :=
  if root = Expression.modelRoot then
    match scope.model with
    | some model => memberProblems scope.types model Expression.modelRoot steps
    | none => []
  else if root ∈ scope.dependencies then []
  else [.unknownName root]

mutual

/-- The problems of an expression, in the order of its paths. -/
def expressionProblems (scope : Scope) : Expression → List Problem
  | .literal _ => []
  | .path root steps => pathProblems scope root steps
  | .coalesce operands => operandProblems scope operands

/-- The problems of the operands of a chain. -/
def operandProblems (scope : Scope) : List Expression → List Problem
  | [] => []
  | operand :: operands => expressionProblems scope operand ++ operandProblems scope operands

end

end Stencil.Unit
