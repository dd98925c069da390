import Stencil.Error
import Stencil.Expression.Token

/-!
# Problems of renderer source

What a compiler may find wrong with a module or with a line of renderer source.
-/

namespace Stencil.Unit

open Expression (SyntaxError)

/-- What is wrong. -/
inductive Problem where
  /-- The bytes of a module are no module. -/
  | unreadableModule (module : String)
  /-- The source does not start with a unit. -/
  | missingUnit
  /-- A unit without a name. -/
  | unnamedUnit
  /-- A second renderer. -/
  | repeatedRenderer
  /-- A renderer without a contract. -/
  | unboundRenderer
  /-- A contract that is not bound to a model type. -/
  | unboundContract (text : String)
  /-- A renderer whose name is no identifier. -/
  | badTypeName (name : String)
  /-- A type that no module defines. -/
  | missingType (name : String)
  /-- A dependency whose name is no identifier. -/
  | badDependency (name : String)
  /-- A dependency whose name is taken. -/
  | repeatedDependency (name : String)
  /-- Instructions before there is a renderer. -/
  | earlyExecute
  /-- A literal that is no JSON string. -/
  | badLiteral
  /-- An expression that is none. -/
  | badExpression (code : String) (cause : SyntaxError)
  /-- A path that starts neither at the model nor at a dependency. -/
  | unknownName (root : String)
  /-- A path to a member that its type does not have. -/
  | missingMember (walked type member : String)
  /-- A word that starts no statement here. -/
  | unexpected (keyword : String)
  /-- A statement after the end. -/
  | afterEnd (keyword : String)
  /-- The instructions have no end. -/
  | missingEnd
  /-- There are no instructions. -/
  | missingExecute
  /-- There is no renderer. -/
  | missingRenderer
deriving DecidableEq

/-- The wording of a problem. -/
def Problem.message : Problem → String
  | .unreadableModule module => s!"metadata of module '{module}' could not be read"
  | .missingUnit => "expected a 'unit' declaration"
  | .unnamedUnit => "'unit' requires a name"
  | .repeatedRenderer => "duplicate renderer declaration"
  | .unboundRenderer => "expected 'renderer <Name> : <Contract><<Model>>'"
  | .unboundContract text => s!"'{text}' is not a bound contract"
  | .badTypeName name => s!"'{name}' is not a valid type name"
  | .missingType name => s!"type '{name}' could not be found in the referenced modules"
  | .badDependency name => s!"'{name}' is not a valid dependency name"
  | .repeatedDependency name => s!"dependency '{name}' is already defined"
  | .earlyExecute => "'execute' appears before a renderer declaration"
  | .badLiteral => "invalid literal"
  | .badExpression code cause => s!"invalid expression '{code}': {cause.message}"
  | .unknownName root => s!"the name '{root}' does not exist in this context"
  | .missingMember walked type member => s!"'{walked}' of type '{type}' has no member '{member}'"
  | .unexpected keyword => s!"unexpected '{keyword}'"
  | .afterEnd keyword => s!"unexpected '{keyword}' after 'end'"
  | .missingEnd => "missing 'end' of the execute block"
  | .missingExecute => "missing 'execute' block"
  | .missingRenderer => "source produced no renderer type"

/-- A problem and the line it stands in, if it stands in one. -/
structure Finding where
  /-- The number of the line, counted from one. -/
  line : Option Nat
  /-- What is wrong. -/
  problem : Problem
deriving DecidableEq

/-- A finding as a diagnostic. -/
def Finding.diagnostic (finding : Finding) : Diagnostic where
  line := finding.line
  message := finding.problem.message

end Stencil.Unit
