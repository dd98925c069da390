import Stencil.Render.Evaluation
import Stencil.Render.Rendering

/-!
# Instances of renderers

An instance runs the body of a renderer once, with the services of its dependencies at hand. A run
that fails or stalls leaves its instance started for good.
-/

namespace Stencil

/-- An instance of a renderer. -/
structure Instance where
  /-- The renderer. -/
  renderer : Renderer
  /-- The services of its dependencies. -/
  services : Dictionary Provider
  /-- The state of its only run. -/
  rendering : Rendering
  /-- The values of the dependencies that have been asked for. -/
  known : Dictionary Value
  /-- What the services have answered, with the names of the dependencies, latest first. -/
  heard : List (String × Answer)

namespace ServiceRegistry

/-- The dependencies of a renderer that no service is registered for. -/
def missing (registry : ServiceRegistry) (renderer : Renderer) : List String :=
  renderer.image.dependencies.filter (!registry.services.contains ·)

/-- The services of the dependencies of a renderer. -/
def servicesOf (registry : ServiceRegistry) (renderer : Renderer) : Dictionary Provider :=
  Dictionary.ofList
    (renderer.image.dependencies.filterMap fun name =>
      (registry.services.get? name).map (name, ·))

/-- Creates an instance of a renderer. Every dependency must have a service. -/
def activate (registry : ServiceRegistry) (renderer : Renderer) : Except Error Instance :=
  match registry.missing renderer with
  | [] =>
    .ok
      { renderer, services := registry.servicesOf renderer, rendering := .new, known := ∅
        heard := [] }
  | missing =>
    let names := ", ".intercalate missing
    .error (.instantiation
      s!"no service registered for dependencies of '{renderer.image.name}': {names}")

end ServiceRegistry

namespace Instance

/-- Runs instructions, one after the other. -/
def run (services : Dictionary Provider) :
    List Instruction → Rendering → Session → Except Halt Unit × Rendering × Session
  | [], rendering, session => (.ok (), rendering, session)
  | .writeLiteral text :: rest, rendering, session =>
    run services rest (rendering.writeLiteral text) session
  | .write expression :: rest, rendering, session =>
    match expression.evaluate ⟨rendering.model, services⟩ session with
    | (.ok value, session) => run services rest (rendering.write value) session
    | (.error halt, session) => (.error halt, rendering, session)

/-- Runs the body of the renderer, given the labels of the services that have been asked before. -/
def execute (inst : Instance) (asked : List String) :
    Except Halt Unit × Instance × List String :=
  match inst.rendering.begin with
  | .error e => (.error (.failed e), inst, asked)
  | .ok begun =>
    match run inst.services inst.renderer.image.body begun ⟨inst.known, inst.heard, asked⟩ with
    | (.ok (), rendering, session) =>
      (.ok (),
        { inst with
          rendering := rendering.complete, known := session.known, heard := session.heard },
        session.asked)
    | (.error halt, rendering, session) =>
      (.error halt, { inst with rendering, known := session.known, heard := session.heard },
        session.asked)

end Instance

/-- Renders a model with a fresh instance of a renderer. -/
def Renderer.render (renderer : Renderer) (registry : ServiceRegistry) (model : Value) :
    Except Halt String × ServiceRegistry :=
  match registry.activate renderer with
  | .error e => (.error (.failed e), registry)
  | .ok inst =>
    let inst := { inst with rendering := inst.rendering.setModel model }
    match inst.execute registry.asked with
    | (.ok (), inst, asked) => (inst.rendering.text.mapError .failed, { registry with asked })
    | (.error halt, _, asked) => (.error halt, { registry with asked })

end Stencil
