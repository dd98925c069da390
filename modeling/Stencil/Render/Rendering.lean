import Stencil.Error
import Stencil.Render.Value

/-!
# The life of a rendering

A rendering holds the model, collects the output, and is run once. Its text may be asked for only
when the run has come to its end.
-/

namespace Stencil

/-- How far a rendering has come. -/
inductive RenderState where
  /-- It has not been run. -/
  | created
  /-- It has been started and not come to its end. -/
  | executing
  /-- It has come to its end. -/
  | completed
deriving DecidableEq, Repr

/-- How a message names a state. -/
def RenderState.described : RenderState → String
  | .created => "Created"
  | .executing => "Executing"
  | .completed => "Completed"

/-- A rendering. -/
structure Rendering where
  /-- The model, once it is set. -/
  model : Option Value
  /-- What has been written so far. -/
  output : String
  /-- How far it has come. -/
  state : RenderState

namespace Rendering

/-- A rendering that nothing has been done with. -/
def new : Rendering where
  model := none
  output := ""
  state := .created

/-- Sets the model. -/
def setModel (r : Rendering) (model : Value) : Rendering :=
  { r with model := some model }

/-- Writes a text. -/
def writeLiteral (r : Rendering) (text : String) : Rendering :=
  { r with output := r.output ++ text }

/-- Writes a value. -/
def write (r : Rendering) (value : Value) : Rendering :=
  r.writeLiteral value.display

/-- Starts the run; only one run can be started. -/
def begin (r : Rendering) : Except Error Rendering :=
  match r.state with
  | .created => .ok { r with state := .executing }
  | .executing | .completed =>
    .error (.render "renderer instances are single-use; execute has already run")

/-- Ends the run. -/
def complete (r : Rendering) : Rendering :=
  { r with state := .completed }

/-- Runs a rendering that has no instructions. -/
def execute (r : Rendering) : Except Error Rendering :=
  r.begin.map complete

/-- The text of a rendering that has come to its end. -/
def text (r : Rendering) : Except Error String :=
  match r.state with
  | .completed => .ok r.output
  | .created | .executing =>
    let state := r.state.described
    .error (.render s!"rendered text requested before execute completed (state: {state})")

end Rendering

end Stencil
