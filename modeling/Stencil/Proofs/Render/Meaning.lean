import Mathlib
import Stencil.Render.Instance

/-!
# What a template means

The meaning of an expression is told by the model and one value a dependency, without any state, and
what an instruction shows is the text of its meaning. Where the values come from is told by replies:
what each dependency has to say when it is asked. Services may be shared and may count how often
they are asked, so replies are those of one execution.
-/

namespace Stencil

/-! ## Meanings -/

namespace Expression

mutual

/-- The value of an expression, given the model and the values of the dependencies. -/
def meaning (model : Value) (answer : String → Value) : Expression → Value
  | .literal value => value
  | .path root steps => shownPart (if root = modelRoot then model else answer root) steps
  | .coalesce operands => firstMeaning model answer operands

/-- The first value of operands that is not null. -/
def firstMeaning (model : Value) (answer : String → Value) : List Expression → Value
  | [] => .null
  | operand :: operands =>
    if (meaning model answer operand).isNull then firstMeaning model answer operands
    else meaning model answer operand

end

end Expression

/-- What an instruction writes. -/
def Instruction.shown (model : Value) (answer : String → Value) : Instruction → String
  | .writeLiteral text => text
  | .write e => (e.meaning model answer).display

/-! ## Replies -/

/-- The error of a service that fails when it is asked. -/
def Error.ofService (name : String) (causes : List String) : Error :=
  let cause := failureText causes
  .render s!"service '{name}' failed: {cause}"

/-- What comes of an answer to whoever has asked for a name. -/
def Answer.result (name : String) : Answer → Except Halt Value
  | .value answered => .ok answered
  | .failure causes => .error (.failed (.ofService name causes))
  | .never => .error .stalled

/-- What the services have to say when they are asked for the dependencies. Nothing is said for a
name without a service. -/
abbrev Replies := String → Option Answer

namespace Replies

/-- The value that is answered for a name, if one is answered. -/
def value (said : Replies) (name : String) : Value :=
  match said name with
  | some (.value answered) => answered
  | _ => .null

/-- Whether a value is answered for a name. -/
def Answers (said : Replies) (name : String) : Prop :=
  ∃ value, said name = some (.value value)

/-- What comes of taking the value for a name. -/
def result (said : Replies) (name : String) : Except Halt Value :=
  match said name with
  | some answer => answer.result name
  | none => .error (.failed (.render s!"'{name}' is not an injected dependency"))

variable {said : Replies} {name : String}

theorem result_of_some {answer : Answer} (h : said name = some answer) :
    said.result name = answer.result name := by
  rw [result, h]

theorem value_of_result {value : Value} (h : said.result name = .ok value) :
    said.value name = value := by
  rw [result] at h
  rw [Replies.value]
  cases hsaid : said name with
  | none =>
    rw [hsaid] at h
    cases h
  | some answer =>
    rw [hsaid] at h
    cases answer with
    | value answered => exact Except.ok.inj h
    | failure causes => cases h
    | never => cases h

theorem answers_iff : said.Answers name ↔ ∃ value, said.result name = .ok value := by
  rw [Answers, result]
  cases said name with
  | none => simp
  | some answer => cases answer <;> simp [Answer.result]

end Replies

/-- What an instance hears when it is executed after the given services have been asked. A service
that it does not ask has nothing to say. -/
def Instance.told (inst : Instance) (asked : List String) : Replies := fun name =>
  (inst.services.get? name).map fun _ =>
    (Entries.get? (inst.execute asked).2.1.heard name).getD .never

/-- An instance whose model is set. -/
def Instance.withModel (inst : Instance) (model : Value) : Instance :=
  { inst with rendering := inst.rendering.setModel model }

/-- What the instance of a rendering hears. -/
def Renderer.told (renderer : Renderer) (registry : ServiceRegistry) (model : Value) : Replies :=
  match registry.activate renderer with
  | .ok inst => (inst.withModel model).told registry.asked
  | .error _ => fun _ => none

end Stencil
