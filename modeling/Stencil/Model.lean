import Stencil.Error
import Stencil.Text.Blank

/-!
# Model types

A template is bound to the type of its model. A model type is known by its qualified name and by
the module that defines it; in renderer source it is named with dots between the parts of its name.
-/

namespace Stencil

/-- The module that defines the types every module may use. -/
def runtimeModule : String := "quill.runtime"

/-- The module that defines the contract of renderers. -/
def hostModule : String := "quill"

/-- The contract that every generated renderer implements. -/
def baseContract : String := "quill.templating.TemplateBase"

/-- The type of a model. -/
structure ModelType where
  /-- The full name, with `::` or `+` between its parts. -/
  name : String
  /-- The module that defines the type. -/
  module : String
  /-- Whether the type has type parameters. -/
  parameterized : Bool
deriving DecidableEq, Repr

namespace ModelType

/-- The characters that tell a type made of other types. -/
def isCompoundMark (c : Char) : Bool :=
  c == '<' || c == '(' || c == '[' || c == '&' || c == ';'

/-- The text before the first `::`, if there is one. -/
def beforeColons : List Char → Option (List Char)
  | [] => none
  | ':' :: ':' :: _ => some []
  | c :: rest => (beforeColons rest).map (c :: ·)

/-- The model type with the given full name. Its module is named by the first part of the name; a
name without parts, or with a compound first part, belongs to the runtime module. -/
def ofTypeName (name : String) : ModelType where
  name
  module :=
    match beforeColons name.toList with
    | some first =>
      if first.any isCompoundMark then runtimeModule else String.ofList first
    | none => runtimeModule
  parameterized := name.toList.any isCompoundMark

/-- A name with a dot in place of every `::` and every `+`. -/
def dotted : List Char → List Char
  | [] => []
  | ':' :: ':' :: rest => '.' :: dotted rest
  | c :: rest => (if c = '+' then '.' else c) :: dotted rest

/-- The name of the type in renderer source. -/
def sourceName (model : ModelType) : Except Error String :=
  if model.parameterized then
    .error (.unsupportedModel model.name "generic models are not supported")
  else
    match Text.trim model.name.toList with
    | [] => .error (.unsupportedModel model.name "the full name of the model type is empty")
    | name => .ok (String.ofList (dotted name))

end ModelType

end Stencil
