import Stencil.Error
import Stencil.Render.Service
import Stencil.Render.Value
import Stencil.Unit.Basic

/-!
# Evaluating expressions

An expression is evaluated against a model and the services of the dependencies. A service is asked
when the first path from its name is evaluated, and its value is kept for the later paths from that
name. A chain evaluates its operands from the left and stops at the first that is not null.
-/

namespace Stencil

/-- Why an evaluation has no value. -/
inductive Halt where
  /-- Something failed. -/
  | failed (error : Error)
  /-- A service never answers. -/
  | stalled

/-- What an evaluation reads. -/
structure Surroundings where
  /-- The model, if it is set. -/
  model : Option Value
  /-- The services of the dependencies. -/
  services : Dictionary Provider

/-- What an evaluation changes. -/
structure Session where
  /-- The values of the dependencies that have been asked for. -/
  known : Dictionary Value
  /-- What the services have answered, with the names of the dependencies, latest first. -/
  heard : List (String × Answer)
  /-- The labels of the services that have been asked, latest first. -/
  asked : List String

namespace Session

/-- The value of a dependency, which is kept once it is there. -/
def serviceValue (around : Surroundings) (session : Session) (name : String) :
    Except Halt Value × Session :=
  match session.known.get? name with
  | some value => (.ok value, session)
  | none =>
    match around.services.get? name with
    | none =>
      (.error (.failed (.render s!"'{name}' is not an injected dependency")), session)
    | some provider =>
      let answer := provider.service (session.asked.count provider.label)
      let asked :=
        { session with
          heard := (name, answer) :: session.heard
          asked := provider.label :: session.asked }
      match answer with
      | .value value =>
        let answered := { asked with known := asked.known.insert name value }
        match answered.known.get? name with
        | some value => (.ok value, answered)
        | none => (.error (.failed (.render s!"service '{name}' produced no value")), answered)
      | .failure causes =>
        let cause := failureText causes
        (.error (.failed (.render s!"service '{name}' failed: {cause}")), asked)
      | .never => (.error .stalled, asked)

end Session

namespace Expression

/-- What a path shows of a value; a path that leads nowhere shows nothing. -/
def shownPart (value : Value) (steps : List Step) : Value :=
  (value.lookup? steps).getD .null

/-- The value of a path. -/
def evaluatePath (around : Surroundings) (session : Session) (root : String)
    (steps : List Step) : Except Halt Value × Session :=
  if root = modelRoot then
    (.ok ((around.model.map (shownPart · steps)).getD .null), session)
  else
    match session.serviceValue around root with
    | (.ok value, session) => (.ok (shownPart value steps), session)
    | (.error halt, session) => (.error halt, session)

mutual

/-- The value of an expression. -/
def evaluate (around : Surroundings) (session : Session) :
    Expression → Except Halt Value × Session
  | .literal value => (.ok value, session)
  | .path root steps => evaluatePath around session root steps
  | .coalesce operands => evaluateFirst around session operands

/-- The value of the first operand that is not null. -/
def evaluateFirst (around : Surroundings) (session : Session) :
    List Expression → Except Halt Value × Session
  | [] => (.ok .null, session)
  | operand :: operands =>
    match evaluate around session operand with
    | (.ok value, session) =>
      if value.isNull then evaluateFirst around session operands else (.ok value, session)
    | (.error halt, session) => (.error halt, session)

end

end Expression

end Stencil
