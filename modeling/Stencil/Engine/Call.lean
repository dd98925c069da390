import Stencil.Engine.Basic
import Stencil.Unit.Loader

/-!
# Calls on an engine

A call serves one request. It looks for a kept template, generates the source, collects the modules
that the source refers to, builds the renderer and hands the template to the engine, and it ends at
the first of these that fails. Calls on one engine may take their steps in any order; only a step
that is taken here changes the engine.
-/

namespace Stencil

/-- How far a call has come. -/
inductive Progress where
  /-- It has not started. -/
  | issued
  /-- There is a source, and some of the modules have arrived. -/
  | collecting (source : Source.Generated) (arrived : References)
  /-- There is a source with all its modules. -/
  | ready (source : Source.Generated) (references : References)
  /-- There is a template. -/
  | made (template : Template)
  /-- The call has ended. -/
  | ended (outcome : Except Error Template)

namespace Progress

/-- How far a call with a source has come when its modules have come so far. -/
def ofResolution (source : Source.Generated) : Resolution → Progress
  | .resolved references => .ready source references
  | .failed e => .ended (.error e)
  | .waiting arrived => .collecting source arrived

/-- How a call has ended. -/
def outcome? : Progress → Option (Except Error Template)
  | .ended outcome => some outcome
  | _ => none

end Progress

/-- A call on an engine. -/
structure Call where
  /-- What it is asked for. -/
  request : Request
  /-- How far it has come. -/
  progress : Progress

namespace Call

/-- A call that has not started. -/
def ofRequest (request : Request) : Call where
  request
  progress := .issued

/-- The step of a call that starts: a kept template ends it at once. -/
def start (engine : Engine) (request : Request) : Progress :=
  match engine.cached? request with
  | some template => .ended (.ok template)
  | none =>
    match request.source with
    | .error e => .ended (.error e)
    | .ok source => .ofResolution source (request.references.resolve [])

end Call

namespace Engine

/-- The engine after a module has been asked for. -/
def ask (engine : Engine) (module : String) : Engine :=
  { engine with asked := engine.asked ++ [module] }

/-- Builds a source with its modules and loads the renderer of a request. -/
def make (engine : Engine) (request : Request) (source : Source.Generated)
    (references : References) : Engine × Except Error Template :=
  let engine := { engine with built := engine.built ++ [(source, references)] }
  match (engine.backend.build source references).bind (Unit.load · request.model) with
  | .error e => (engine, .error e)
  | .ok renderer =>
    ({ engine with made := engine.made + 1 }, .ok { serial := engine.made, renderer })

/-- Keeps a template for a request, in place of the one that is kept for it. An engine that keeps
nothing stays as it is. -/
def keep (engine : Engine) (request : Request) (template : Template) : Engine :=
  { engine with
    kept := engine.kept.map fun kept =>
      (request, template) :: kept.filter fun entry => entry.1 != request }

end Engine

namespace Call

/-- A step that a call takes by itself, if it can take one. -/
def advance (engine : Engine) (call : Call) : Engine × Call :=
  match call.progress with
  | .issued => (engine, { call with progress := start engine call.request })
  | .ready source references =>
    match engine.make call.request source references with
    | (engine, .ok template) => (engine, { call with progress := .made template })
    | (engine, .error e) => (engine, { call with progress := .ended (.error e) })
  | .made template =>
    (engine.keep call.request template, { call with progress := .ended (.ok template) })
  | .collecting .. | .ended _ => (engine, call)

/-- A step that a fetch takes for a call. Only a call that collects modules takes notice. -/
def observe (engine : Engine) (call : Call) (event : FetchEvent) : Engine × Call :=
  match call.progress, event with
  | .collecting .., .asked module => (engine.ask module, call)
  | .collecting source arrived, .completed completion =>
    let resolution := call.request.references.resolveFrom arrived [completion]
    (engine, { call with progress := .ofResolution source resolution })
  | _, _ => (engine, call)

end Call

end Stencil
