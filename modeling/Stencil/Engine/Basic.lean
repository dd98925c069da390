import Stencil.Markup.Document
import Stencil.Module.Remote
import Stencil.Render.Instance
import Stencil.Source.Text
import Stencil.Text.Quoted
import Stencil.Unit.Compiler

/-!
# Engines

An engine turns requests, a template text and a model type each, into renderers. Renderers that are
made in different builds are told apart by a serial number. An engine that keeps what it has
compiled holds one renderer a request, the last one that was made for it. It also records which
modules were asked for and what its backend was given.
-/

namespace Stencil

/-- What turns source and the modules it refers to into the bytes of a unit. -/
structure Backend where
  /-- The name of the backend. -/
  name : String
  /-- Builds a unit. -/
  build : Source.Generated → References → Except Error ByteArray

/-- The backend of an engine that none is chosen for. -/
def Backend.interpreter : Backend where
  name := "interpreter"
  build source references := Unit.build source.text references

/-- A request to compile a template. -/
structure Request where
  /-- The text of the template. -/
  text : String
  /-- The type of its model. -/
  model : ModelType
deriving DecidableEq, Repr

namespace Request

/-- The source of the renderer that is asked for. -/
def source (request : Request) : Except Error Source.Generated :=
  (Markup.Document.parse request.text request.model).bind Source.generated

/-- The modules that the renderer refers to. -/
def references (request : Request) : ReferenceSet :=
  ReferenceSet.ofModel request.model

end Request

/-- A renderer that a request has led to. Whoever is given the same one sees the same number. -/
structure Template where
  /-- The number of the renderer among those that the engine has made. -/
  serial : Nat
  /-- The renderer. -/
  renderer : Renderer

/-- The template as messages show it. -/
def Template.described (template : Template) : String :=
  let name := Text.quoted template.renderer.image.name
  let model := Text.quoted template.renderer.image.base.model
  "Template \x7b renderer: " ++ name ++ ", model: " ++ model ++ " \x7d"

/-- An engine. -/
structure Engine where
  /-- The backend. -/
  backend : Backend
  /-- The services of the templates. -/
  services : ServiceRegistry
  /-- Whether sources are compiled one at a time. -/
  serialized : Bool
  /-- The templates that are kept, one a request, if any are kept at all. -/
  kept : Option (List (Request × Template))
  /-- How many renderers have been made. -/
  made : Nat
  /-- The modules that have been asked for, in order. -/
  asked : List String
  /-- The sources and modules that the backend has been given, in order. -/
  built : List (Source.Generated × References)

namespace Engine

/-- An engine with the given settings, backend and services. -/
def new (config : Config) (backend : Backend) (services : ServiceRegistry) :
    Except Error Engine :=
  config.validate.map fun _ =>
    { backend, services
      serialized := config.serializeBackend
      kept := if config.cacheCompiled then some [] else none
      made := 0
      asked := []
      built := [] }

/-- An engine with the sources of modules that its settings ask for. -/
def ofConfig (config : Config) (catalog : Catalog) (services : ServiceRegistry) :
    Except Error (Engine × Sources) := do
  let engine ← new config .interpreter services
  let sources ← Sources.ofConfig catalog config
  return (engine, sources)

/-- The templates that are kept. -/
def cache (engine : Engine) : List (Request × Template) :=
  engine.kept.getD []

/-- How many templates are kept. -/
def cachedCount (engine : Engine) : Nat :=
  engine.cache.length

/-- The template that is kept for a request. -/
def cached? (engine : Engine) (request : Request) : Option Template :=
  engine.cache.lookup request

/-- The engine as messages show it. -/
def described (engine : Engine) : String :=
  let backend := Text.quoted engine.backend.name
  let services := engine.services.described
  let serialized := if engine.serialized then "true" else "false"
  let cached := toString engine.cachedCount
  "TemplateEngine \x7b backend: " ++ backend ++ ", services: " ++ services ++ ", serialized: "
    ++ serialized ++ ", cached: " ++ cached ++ " \x7d"

/-- Renders a model with a template of the engine. A model that is no plain data is an error. -/
def render (engine : Engine) (template : Template) (model : Except String Value) :
    Except Halt String × Engine :=
  match model with
  | .error cause =>
    (.error (.failed (.render s!"model could not be serialized: {cause}")), engine)
  | .ok model =>
    let (result, services) := template.renderer.render engine.services model
    (result, { engine with services })

end Engine

end Stencil
