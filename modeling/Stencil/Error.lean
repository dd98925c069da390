import Stencil.Text.Lines

/-!
# Errors

An error tells what went wrong and at which stage of a template's life: configuring an engine,
reading the template, writing its source, fetching modules, compiling, loading, creating an
instance, or rendering.
-/

namespace Stencil

/-- A stage of a template's life. -/
inductive Stage where
  /-- Setting up an engine. -/
  | configuration
  /-- Reading the template text. -/
  | parsing
  /-- Writing the renderer source. -/
  | generation
  /-- Fetching the modules that a compilation refers to. -/
  | referenceResolution
  /-- Compiling the renderer source. -/
  | compilation
  /-- Loading the compiled unit. -/
  | loading
  /-- Creating an instance of the renderer. -/
  | instantiation
  /-- Running the instance. -/
  | rendering
deriving DecidableEq, Repr

/-- What a compiler has to say about a line of source, or about none in particular. -/
structure Diagnostic where
  /-- The number of the line, counted from one. -/
  line : Option Nat
  /-- What is wrong. -/
  message : String
deriving DecidableEq, Repr

/-- A diagnostic as a line of a message. -/
def Diagnostic.text (d : Diagnostic) : String :=
  match d.line with
  | some line => s!"line {line}: {d.message}"
  | none => d.message

/-- Why a template did not compile or render. -/
inductive Error where
  /-- The template has nothing but blanks. -/
  | emptyTemplate
  /-- Templates cannot be bound to the model type. -/
  | unsupportedModel (model reason : String)
  /-- A construct of the template is malformed. -/
  | parse (message : String) (place : Text.Position)
  /-- A module could not be fetched; `unresolved` are the modules that had not arrived by then. -/
  | referenceResolution (module : String) (unresolved : List String) (reason : String)
  /-- The source did not compile. -/
  | compilation (diagnostics : List Diagnostic)
  /-- The compiled unit holds no renderer of the wanted kind. -/
  | rendererNotFound (name reason : String)
  /-- No instance of the renderer could be created. -/
  | instantiation (message : String)
  /-- An instance failed while it ran, or was used out of order. -/
  | render (message : String)
  /-- A setting is not acceptable. -/
  | config (message : String)
  /-- A file could not be read. -/
  | file
  /-- A JSON text could not be read. -/
  | json
deriving DecidableEq, Repr

namespace Error

/-- The wording of an error. -/
def message : Error → String
  | emptyTemplate => "Template cannot be empty"
  | unsupportedModel model reason => s!"Unsupported model type '{model}': {reason}"
  | parse message place =>
    s!"Parse error at line {place.line}, column {place.column}: {message}"
  | referenceResolution module _ reason =>
    s!"Could not resolve reference module '{module}': {reason}"
  | compilation diagnostics =>
    "Could not compile the provided template. Errors:\n"
      ++ "\n".intercalate (diagnostics.map Diagnostic.text)
  | rendererNotFound name reason => s!"Compiled renderer type '{name}' not found: {reason}"
  | instantiation message =>
    s!"Could not create an instance of the compiled renderer: {message}"
  | render message => s!"Render error: {message}"
  | config message => s!"Configuration error: {message}"
  | file => "I/O error"
  | json => "JSON error"

/-- The stage at which an error arises. -/
def stage : Error → Stage
  | emptyTemplate | parse _ _ => .parsing
  | unsupportedModel _ _ => .generation
  | referenceResolution _ _ _ => .referenceResolution
  | compilation _ => .compilation
  | rendererNotFound _ _ => .loading
  | instantiation _ => .instantiation
  | render _ | json => .rendering
  | config _ | file => .configuration

/-- Whether the error is about what the caller handed in, before anything was read of it. -/
def isValidation : Error → Bool
  | emptyTemplate | unsupportedModel _ _ => true
  | _ => false

end Error

end Stencil
