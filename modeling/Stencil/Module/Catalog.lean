import Stencil.Module.Format
import Stencil.Module.References

/-!
# The catalog of loaded modules

A catalog holds the modules that are at hand. Registering a module whose name is taken defines its
types in the module that is there.
-/

namespace Stencil

/-- Why a module could not be fetched. -/
inductive FetchError where
  /-- There is no such module. -/
  | notFound (module : String)
  /-- A server refused. -/
  | status (code : Nat) (url : String)
  /-- A server could not be asked. -/
  | transport (url message : String)
  /-- The module cannot be asked for. -/
  | invalidRequest (message : String)
deriving DecidableEq, Repr

/-- The wording of a fetch error. -/
def FetchError.message : FetchError → String
  | notFound module => s!"Module '{module}' is not available"
  | status code url => s!"HTTP {code} when fetching {url}"
  | transport url message => s!"Failed to fetch {url}: {message}"
  | invalidRequest message => s!"Invalid module request: {message}"

/-- The modules at hand, by their names. -/
abbrev Catalog := Dictionary Module

namespace Catalog

/-- Adds a module, or its types to the module of its name. -/
def register (catalog : Catalog) (module : Module) : Catalog :=
  match catalog.get? module.name with
  | some existing => catalog.insert module.name (existing.merge module)
  | none => catalog.insert module.name module

/-- Adds a type to a module, and the module if it is not there. -/
def registerSchema (catalog : Catalog) (module : String) (schema : Schema) : Catalog :=
  catalog.register ((Module.new module).define schema)

/-- Adds a model type as a sealed type of its module, and tells the type. A model type that
templates cannot be bound to is refused. What is left is the catalog afterwards, in either case. -/
def enroll (catalog : Catalog) (model : ModelType) : Except Error ModelType × Catalog :=
  match model.sourceName with
  | .ok name => (.ok model, catalog.registerSchema model.module (.sealed name))
  | .error e => (.error e, catalog)

/-- The catalog with a model type, unless the model type is refused. -/
def registerModel (catalog : Catalog) (model : ModelType) : Except Error Catalog :=
  let (result, catalog) := catalog.enroll model
  result.map fun _ => catalog

/-- The catalog of the built-in modules. -/
def builtin : Catalog :=
  register (register (∅ : Dictionary Module) Module.runtime) Module.host

/-- The bytes of a module of the catalog. -/
def fetch (catalog : Catalog) (module : String) : Except FetchError ByteArray :=
  match catalog.get? module with
  | some module => .ok module.bytes
  | none => .error (.notFound module)

end Catalog

end Stencil
