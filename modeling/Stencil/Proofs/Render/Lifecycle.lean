import Mathlib
import Stencil.Proofs.Render.Execution

/-!
# The life of an instance

Whoever holds an instance may set its model, write to it, run it and ask for its text, in any order
and as often as they like, and may give up a run while a service is at work. Whatever they do, the
instance is run once at most, what has been written stays, and the text is there only after a run
that has come to its end (`isLifecycle_history`). The first run is never refused, and it comes to
its end when the services that it reaches answer (`Instance.begins_first`).
-/

namespace Stencil

/-! ## Operations and histories -/

/-- What may be done with a rendering. -/
inductive Operation where
  /-- The model is set. -/
  | setModel (model : Value)
  /-- A text is written. -/
  | writeLiteral (text : String)
  /-- A value is written. -/
  | write (value : Value)
  /-- The rendering is run. Whether the answer of a service is waited for is told by its name and by
  how often it has been asked before; the run is given up where it is not. -/
  | execute (waits : String → Nat → Bool)
  /-- The text is asked for. -/
  | text

/-- What an operation returns. -/
inductive Outcome where
  /-- It returns nothing. -/
  | done
  /-- A run that has come to its end, or how it has halted. -/
  | executed (result : Except Halt Unit)
  /-- The text, or why there is none. -/
  | shown (result : Except Error String)

/-- What comes of an operation. -/
structure Reaction (σ : Type) where
  /-- What is returned. -/
  outcome : Outcome
  /-- The texts that are appended, in order. -/
  written : List String
  /-- What there is afterwards. -/
  left : σ

/-- An operation that has been carried out. -/
structure Event where
  /-- The operation. -/
  operation : Operation
  /-- What it has returned. -/
  outcome : Outcome
  /-- The texts that it has appended. -/
  written : List String
  /-- The rendering before the operation. -/
  before : Rendering
  /-- The rendering after the operation. -/
  after : Rendering

/-- The operations one after the other, as they are seen from outside. -/
def history {σ : Type} (view : σ → Rendering) (perform : σ → Operation → Reaction σ) (held : σ) :
    List Operation → List Event
  | [] => []
  | operation :: rest =>
    let reaction := perform held operation
    ⟨operation, reaction.outcome, reaction.written, view held, view reaction.left⟩
      :: history view perform reaction.left rest

/-- Carries out an operation on a rendering that has no instructions. -/
def Rendering.perform (r : Rendering) : Operation → Reaction Rendering
  | .setModel model => ⟨.done, [], r.setModel model⟩
  | .writeLiteral text => ⟨.done, [text], r.writeLiteral text⟩
  | .write value => ⟨.done, [value.display], r.write value⟩
  | .execute _ =>
    match r.execute with
    | .ok executed => ⟨.executed (.ok ()), [], executed⟩
    | .error e => ⟨.executed (.error (.failed e)), [], r⟩
  | .text => ⟨.shown r.text, [], r⟩

/-- The history of a rendering that has no instructions. -/
def Rendering.history : Rendering → List Operation → List Event :=
  Stencil.history id Rendering.perform

namespace Instance

/-- The services as they are met by someone who does not wait for every answer. -/
def awaited (waits : String → Nat → Bool) (services : Dictionary Provider) :
    Dictionary Provider where
  entries := services.entries.map fun entry =>
    (entry.1, { entry.2 with
      service := fun before => if waits entry.1 before then entry.2.service before else .never })
  increasing := by
    rw [Entries.Increasing, List.pairwise_map]
    exact services.increasing

/-- The texts of the instructions that a run executes. -/
def texts (around : Surroundings) : List Instruction → Session → List String
  | [], _ => []
  | .writeLiteral text :: rest, session => text :: texts around rest session
  | .write expression :: rest, session =>
    match expression.evaluate around session with
    | (.ok value, session) => value.display :: texts around rest session
    | (.error _, _) => []

/-- The texts that an execution writes. -/
def executedTexts (inst : Instance) (asked : List String) : List String :=
  match inst.rendering.begin with
  | .ok begun =>
    texts ⟨begun.model, inst.services⟩ inst.renderer.image.body ⟨inst.known, inst.heard, asked⟩
  | .error _ => []

/-- Carries out an operation on an instance, given the services that have been asked before. Only
executing is not left to the rendering. -/
def perform (held : Instance × List String) (operation : Operation) :
    Reaction (Instance × List String) :=
  match operation with
  | .execute waits =>
    let started := { held.1 with services := awaited waits held.1.services }
    let (result, finished, asked) := started.execute held.2
    ⟨.executed result, started.executedTexts held.2,
      ({ finished with services := held.1.services }, asked)⟩
  | operation =>
    let reaction := held.1.rendering.perform operation
    ⟨reaction.outcome, reaction.written, ({ held.1 with rendering := reaction.left }, held.2)⟩

/-- The history of an instance, given the services that have been asked before. -/
def history (inst : Instance) (asked : List String) : List Operation → List Event :=
  Stencil.history (·.1.rendering) perform (inst, asked)

end Instance

/-! ## Lives -/

namespace Event

/-- The rendering is run. -/
def IsExecute (event : Event) : Prop :=
  ∃ waits, event.operation = .execute waits

/-- A run gets started. -/
def Begins (event : Event) : Prop :=
  event.IsExecute ∧ ∃ begun, event.before.begin = .ok begun

/-- A run comes to its end. -/
def Succeeds (event : Event) : Prop :=
  event.outcome = .executed (.ok ())

/-- A text is returned. -/
def Shows (event : Event) (text : String) : Prop :=
  event.outcome = .shown (.ok text)

end Event

/-- What the history of a rendering is like from its creation on. -/
structure IsLifecycle (events : List Event) : Prop where
  /-- No two runs get started. -/
  once : events.Pairwise fun earlier later => ¬ (earlier.Begins ∧ later.Begins)
  /-- A run that does not get started is an error and changes nothing. -/
  refused : ∀ event ∈ events, event.IsExecute → ¬ event.Begins →
    (∃ e, event.outcome = .executed (.error (.failed e))) ∧ event.after = event.before
  /-- The output before an operation is the beginning of the output after it. -/
  grows : ∀ event ∈ events, ∃ more, event.after.output = event.before.output ++ more
  /-- A text is returned exactly if a run has come to its end before. -/
  shows_iff : ∀ front event rest, events = front ++ event :: rest → event.operation = .text →
    ((∃ text, event.Shows text) ↔ ∃ earlier ∈ front, earlier.Succeeds)
  /-- The text is all that has been written before, in order. -/
  text_eq : ∀ front event rest text, events = front ++ event :: rest → event.operation = .text →
    event.Shows text → text = String.join (front.flatMap (·.written))
  /-- After a run that was started and has not come to its end there is no text any more. -/
  failed : ∀ front event rest, events = front ++ event :: rest → event.Begins →
    ¬ event.Succeeds → ∀ later ∈ rest, later.operation = .text →
      ∃ e, later.outcome = .shown (.error e)

/-! ## Single operations -/

/-- What an operation does. Those that are no runs leave the state of the rendering, and a run that
is started writes the texts of the instructions that it executes. -/
inductive Event.IsStep : Event → Prop
  | setModel (r : Rendering) (model : Value) :
    IsStep ⟨.setModel model, .done, [], r, r.setModel model⟩
  | writeLiteral (r : Rendering) (text : String) :
    IsStep ⟨.writeLiteral text, .done, [text], r, r.writeLiteral text⟩
  | write (r : Rendering) (value : Value) :
    IsStep ⟨.write value, .done, [value.display], r, r.write value⟩
  | refused (r : Rendering) (waits : String → Nat → Bool) (e : Error)
    (hstate : r.state ≠ .created) :
    IsStep ⟨.execute waits, .executed (.error (.failed e)), [], r, r⟩
  | finished (r : Rendering) (waits : String → Nat → Bool) (texts : List String)
    (hstate : r.state = .created) :
    IsStep ⟨.execute waits, .executed (.ok ()), texts, r,
      ⟨r.model, r.output ++ String.join texts, .completed⟩⟩
  | halted (r : Rendering) (waits : String → Nat → Bool) (texts : List String) (halt : Halt)
    (hstate : r.state = .created) :
    IsStep ⟨.execute waits, .executed (.error halt), texts, r,
      ⟨r.model, r.output ++ String.join texts, .executing⟩⟩
  | text (r : Rendering) : IsStep ⟨.text, .shown r.text, [], r, r⟩

theorem Rendering.begin_eq (r : Rendering) :
    r.begin = if r.state = .created then .ok { r with state := .executing }
      else .error (.render "renderer instances are single-use; execute has already run") := by
  unfold begin
  cases r.state with
  | created => rfl
  | executing => rfl
  | completed => rfl

theorem Rendering.exists_begin_iff {r : Rendering} :
    (∃ begun, r.begin = .ok begun) ↔ r.state = .created := by
  rw [begin_eq]
  by_cases hstate : r.state = .created
  · simp [hstate]
  · simp [hstate]

theorem Rendering.exists_text_iff {r : Rendering} :
    (∃ text, r.text = .ok text) ↔ r.state = .completed := by
  unfold text
  cases r.state with
  | created => simp
  | executing => simp
  | completed => simp

theorem Rendering.output_of_text {r : Rendering} {text : String} (h : r.text = .ok text) :
    text = r.output := by
  unfold Rendering.text at h
  split at h
  · exact (Except.ok.inj h).symm
  · cases h
  · cases h

/-- What an operation does to a rendering that has no instructions. -/
theorem Rendering.isStep_perform (r : Rendering) (operation : Operation) :
    Event.IsStep ⟨operation, (r.perform operation).outcome, (r.perform operation).written, r,
      (r.perform operation).left⟩ := by
  cases operation with
  | setModel model => exact .setModel r model
  | writeLiteral text => exact .writeLiteral r text
  | write value => exact .write r value
  | execute waits =>
    rw [perform, execute, begin_eq]
    by_cases hstate : r.state = .created
    · rw [if_pos hstate]
      have hstep := Event.IsStep.finished r waits [] hstate
      rwa [String.join_nil, String.append_empty] at hstep
    · rw [if_neg hstate]
      exact .refused r waits _ hstate
  | text => exact .text r

namespace Instance

/-- A run writes the texts of the instructions that it executes, and nothing else changes. -/
theorem rendering_run (services : Dictionary Provider) (body : List Instruction)
    (rendering : Rendering) (session : Session) :
    (run services body rendering session).2.1
      = rendering.writeLiteral (String.join (texts ⟨rendering.model, services⟩ body session)) := by
  induction body generalizing rendering session with
  | nil => simp [run, texts, Rendering.writeLiteral]
  | cons instruction body ih =>
    cases instruction with
    | writeLiteral text =>
      rw [run, texts, ih]
      simp [Rendering.writeLiteral, String.append_assoc]
    | write expression =>
      rw [run, texts]
      -- A run goes on only with the value, and what it halts with leaves the rendering alone.
      cases expression.evaluate ⟨rendering.model, services⟩ session with
      | mk result session' =>
        cases result with
        | ok value =>
          dsimp only
          rw [ih]
          simp [Rendering.write, Rendering.writeLiteral, String.append_assoc]
        | error halt => simp [Rendering.writeLiteral]

/-- What an operation does to an instance. -/
theorem isStep_perform (held : Instance × List String) (operation : Operation) :
    Event.IsStep ⟨operation, (perform held operation).outcome, (perform held operation).written,
      held.1.rendering, (perform held operation).left.1.rendering⟩ := by
  cases operation with
  | setModel model => exact .setModel _ model
  | writeLiteral text => exact .writeLiteral _ text
  | write value => exact .write _ value
  | execute waits =>
    obtain ⟨inst, asked⟩ := held
    rw [perform]
    dsimp only
    rw [execute, executedTexts]
    dsimp only
    rw [Rendering.begin_eq]
    by_cases hstate : inst.rendering.state = .created
    · rw [if_pos hstate]
      dsimp only
      have hrun := rendering_run (awaited waits inst.services) inst.renderer.image.body
        { inst.rendering with state := .executing } ⟨inst.known, inst.heard, asked⟩
      -- What is written is the same whether the run comes to its end or not.
      cases hended : run (awaited waits inst.services) inst.renderer.image.body
          { inst.rendering with state := .executing } ⟨inst.known, inst.heard, asked⟩ with
      | mk result rest =>
        rw [hended] at hrun
        cases result with
        | ok done =>
          dsimp only at hrun ⊢
          rw [hrun]
          exact .finished _ waits _ hstate
        | error halt =>
          dsimp only at hrun ⊢
          rw [hrun]
          exact .halted _ waits _ halt hstate
    · rw [if_neg hstate]
      exact .refused _ waits _ hstate
  | text => exact .text _

end Instance

namespace Event

variable {event : Event}

theorem begins_iff : event.Begins ↔ event.IsExecute ∧ event.before.state = .created := by
  rw [Begins, Rendering.exists_begin_iff]

/-- What is written is appended to the output. -/
theorem IsStep.output_eq (h : event.IsStep) :
    event.after.output = event.before.output ++ String.join event.written := by
  cases h with
  | setModel r model => simp [Rendering.setModel]
  | writeLiteral r text => simp [Rendering.writeLiteral]
  | write r value => simp [Rendering.write, Rendering.writeLiteral]
  | refused r waits e hstate => simp
  | finished r waits texts hstate => rfl
  | halted r waits texts halt hstate => rfl
  | text r => simp

/-- An operation that starts no run leaves the state, and no run comes to its end by it. -/
theorem IsStep.state_eq (h : event.IsStep) (hbegins : ¬ event.Begins) :
    event.after.state = event.before.state ∧ ¬ event.Succeeds := by
  rw [begins_iff] at hbegins
  cases h with
  | setModel r model => exact ⟨rfl, fun h => nomatch h⟩
  | writeLiteral r text => exact ⟨rfl, fun h => nomatch h⟩
  | write r value => exact ⟨rfl, fun h => nomatch h⟩
  | refused r waits e hstate => exact ⟨rfl, fun h => nomatch h⟩
  | finished r waits texts hstate => exact absurd ⟨⟨waits, rfl⟩, hstate⟩ hbegins
  | halted r waits texts halt hstate => exact absurd ⟨⟨waits, rfl⟩, hstate⟩ hbegins
  | text r => exact ⟨rfl, fun h => nomatch h⟩

/-- A run that is started leaves the rendering executing, unless it comes to its end. -/
theorem IsStep.state_of_begins (h : event.IsStep) (hbegins : event.Begins) :
    (event.Succeeds ∧ event.after.state = .completed)
      ∨ (¬ event.Succeeds ∧ event.after.state = .executing) := by
  obtain ⟨⟨waits', hexecute⟩, hcreated⟩ := begins_iff.mp hbegins
  cases h with
  | setModel r model => cases hexecute
  | writeLiteral r text => cases hexecute
  | write r value => cases hexecute
  | refused r waits e hstate => exact absurd hcreated hstate
  | finished r waits texts hstate => exact Or.inl ⟨rfl, rfl⟩
  | halted r waits texts halt hstate => exact Or.inr ⟨(fun h => nomatch h), rfl⟩
  | text r => cases hexecute

/-- A run that is not started is an error and changes nothing. -/
theorem IsStep.refused_of_isExecute (h : event.IsStep) (hexecute : event.IsExecute)
    (hbegins : ¬ event.Begins) :
    (∃ e, event.outcome = .executed (.error (.failed e))) ∧ event.after = event.before := by
  rw [begins_iff] at hbegins
  obtain ⟨waits', hoperation⟩ := hexecute
  cases h with
  | setModel r model => cases hoperation
  | writeLiteral r text => cases hoperation
  | write r value => cases hoperation
  | refused r waits e hstate => exact ⟨⟨e, rfl⟩, rfl⟩
  | finished r waits texts hstate => exact absurd ⟨⟨waits, rfl⟩, hstate⟩ hbegins
  | halted r waits texts halt hstate => exact absurd ⟨⟨waits, rfl⟩, hstate⟩ hbegins
  | text r => cases hoperation

/-- What is shown is the text of the rendering. -/
theorem IsStep.outcome_of_text (h : event.IsStep) (hoperation : event.operation = .text) :
    event.outcome = .shown event.before.text := by
  cases h with
  | setModel r model => cases hoperation
  | writeLiteral r text => cases hoperation
  | write r value => cases hoperation
  | refused r waits e hstate => cases hoperation
  | finished r waits texts hstate => cases hoperation
  | halted r waits texts halt hstate => cases hoperation
  | text r => rfl

end Event

/-! ## Runs of operations -/

/-- Events that follow one upon the other, from one rendering to another. -/
inductive Evolves : Rendering → List Event → Rendering → Prop
  | nil (r : Rendering) : Evolves r [] r
  | cons {event : Event} {rest : List Event} {final : Rendering} (hstep : event.IsStep)
    (hrest : Evolves event.after rest final) : Evolves event.before (event :: rest) final

namespace Evolves

variable {start final : Rendering} {events front rest : List Event} {event : Event}

theorem exists_of_append (h : Evolves start (front ++ rest) final) :
    ∃ middle, Evolves start front middle ∧ Evolves middle rest final := by
  induction front generalizing start with
  | nil => exact ⟨start, .nil start, h⟩
  | cons event front ih =>
    rw [List.cons_append] at h
    cases h with
    | cons hstep hrest =>
      obtain ⟨middle, hfront, hrest⟩ := ih hrest
      exact ⟨middle, .cons hstep hfront, hrest⟩

/-- What has led to an event, and what it leads to. -/
theorem split (h : Evolves start (front ++ event :: rest) final) :
    Evolves start front event.before ∧ event.IsStep ∧ Evolves event.after rest final := by
  obtain ⟨middle, hfront, hrest⟩ := exists_of_append h
  cases hrest with
  | cons hstep hrest => exact ⟨hfront, hstep, hrest⟩

theorem isStep (h : Evolves start events final) (hevent : event ∈ events) : event.IsStep := by
  obtain ⟨front, rest, rfl⟩ := List.append_of_mem hevent
  exact h.split.2.1

theorem output_eq (h : Evolves start events final) :
    final.output = start.output ++ String.join (events.flatMap (·.written)) := by
  induction h with
  | nil r => simp
  | @cons event rest final hstep hrest ih =>
    rw [ih, hstep.output_eq, List.flatMap_cons, String.join_append, String.append_assoc]

/-- A rendering that has been started starts no run, and its state stays. -/
theorem state_of_ne_created (h : Evolves start events final) (hstart : start.state ≠ .created) :
    final.state = start.state ∧ ∀ event ∈ events, ¬ event.Begins ∧ ¬ event.Succeeds := by
  induction h with
  | nil r => exact ⟨rfl, fun event hevent => absurd hevent List.not_mem_nil⟩
  | @cons event rest final hstep hrest ih =>
    have hbegins : ¬ event.Begins := fun h => hstart (Event.begins_iff.mp h).2
    obtain ⟨hstate, hsucceeds⟩ := hstep.state_eq hbegins
    obtain ⟨hfinal, hlater⟩ := ih (hstate ▸ hstart)
    refine ⟨hfinal.trans hstate, fun later hlater' => ?_⟩
    rcases List.mem_cons.mp hlater' with rfl | hmem
    · exact ⟨hbegins, hsucceeds⟩
    · exact hlater later hmem

/-- After a run has been started, none is. -/
theorem pairwise (h : Evolves start events final) :
    events.Pairwise fun earlier later => ¬ (earlier.Begins ∧ later.Begins) := by
  induction h with
  | nil r => exact .nil
  | @cons event rest final hstep hrest ih =>
    refine List.pairwise_cons.mpr ⟨fun later hlater hboth => ?_, ih⟩
    have hstate : event.after.state ≠ .created := by
      rcases hstep.state_of_begins hboth.1 with ⟨-, hstate⟩ | ⟨-, hstate⟩
      · simp [hstate]
      · simp [hstate]
    exact ((hrest.state_of_ne_created hstate).2 later hlater).1 hboth.2

/-- A rendering has come to its end when a run has. -/
theorem completed_iff (h : Evolves start events final) (hstart : start.state = .created) :
    final.state = .completed ↔ ∃ event ∈ events, event.Succeeds := by
  induction h with
  | nil r => simp [hstart]
  | @cons event rest final hstep hrest ih =>
    rw [List.exists_mem_cons_iff]
    by_cases hbegins : event.Begins
    · -- The run that is started decides: the state stays from then on.
      rcases hstep.state_of_begins hbegins with ⟨hsucceeds, hstate⟩ | ⟨hsucceeds, hstate⟩
      · obtain ⟨hfinal, -⟩ := hrest.state_of_ne_created (by simp [hstate])
        simp [hfinal, hstate, hsucceeds]
      · obtain ⟨hfinal, hlater⟩ := hrest.state_of_ne_created (by simp [hstate])
        have hnone : ¬ ∃ later ∈ rest, later.Succeeds := by
          rintro ⟨later, hmem, hlater'⟩
          exact (hlater later hmem).2 hlater'
        simp [hfinal, hstate, hsucceeds, hnone]
    · obtain ⟨hstate, hsucceeds⟩ := hstep.state_eq hbegins
      rw [ih (hstate.trans hstart), or_iff_right hsucceeds]

/-- What is true of all that follows upon a fresh rendering. -/
theorem isLifecycle (h : Evolves .new events final) : IsLifecycle events where
  once := h.pairwise
  refused event hevent := (h.isStep hevent).refused_of_isExecute
  grows event hevent := ⟨_, (h.isStep hevent).output_eq⟩
  shows_iff front event rest hevents hoperation := by
    subst hevents
    obtain ⟨hfront, hstep, -⟩ := h.split
    rw [← hfront.completed_iff rfl, ← Rendering.exists_text_iff]
    simp [Event.Shows, hstep.outcome_of_text hoperation]
  text_eq front event rest text hevents hoperation hshows := by
    subst hevents
    obtain ⟨hfront, hstep, -⟩ := h.split
    rw [Event.Shows, hstep.outcome_of_text hoperation, Outcome.shown.injEq] at hshows
    rw [Rendering.output_of_text hshows, hfront.output_eq]
    exact String.empty_append
  failed front event rest hevents hbegins hsucceeds later hlater hoperation := by
    subst hevents
    obtain ⟨-, hstep, hrest⟩ := h.split
    have hstate : event.after.state = .executing :=
      ((hstep.state_of_begins hbegins).resolve_left fun h => hsucceeds h.1).2
    -- The rendering is executing until it is asked for its text.
    obtain ⟨before, after, rfl⟩ := List.append_of_mem hlater
    obtain ⟨hbefore, hstep', -⟩ := hrest.split
    obtain ⟨hlast, -⟩ := hbefore.state_of_ne_created (by simp [hstate])
    rw [hstep'.outcome_of_text hoperation, Rendering.text, hlast, hstate]
    exact ⟨_, rfl⟩

end Evolves

/-! ## Histories -/

/-- A history follows the operations if each of them does what an operation does. -/
theorem exists_evolves_history {σ : Type} {view : σ → Rendering}
    {perform : σ → Operation → Reaction σ}
    (hstep : ∀ held operation, Event.IsStep ⟨operation, (perform held operation).outcome,
      (perform held operation).written, view held, view (perform held operation).left⟩)
    (operations : List Operation) (held : σ) :
    ∃ final, Evolves (view held) (history view perform held operations) final := by
  induction operations generalizing held with
  | nil => exact ⟨_, .nil _⟩
  | cons operation operations ih =>
    obtain ⟨final, hrest⟩ := ih (perform held operation).left
    exact ⟨final, .cons (hstep held operation) hrest⟩

/-- Whatever is done with an instance, with whatever services, its history is that of one life. So
is the history of a rendering without instructions. -/
theorem isLifecycle_history (renderer : Renderer) (services : Dictionary Provider)
    (asked : List String) (operations : List Operation) :
    IsLifecycle (Instance.history ⟨renderer, services, .new, ∅, []⟩ asked operations)
      ∧ IsLifecycle (Rendering.history .new operations) := by
  obtain ⟨_, hinstance⟩ := exists_evolves_history Instance.isStep_perform operations
    (Instance.mk renderer services .new ∅ [], asked)
  obtain ⟨_, hbase⟩ : ∃ final, Evolves .new (Rendering.history .new operations) final :=
    exists_evolves_history Rendering.isStep_perform operations .new
  exact ⟨hinstance.isLifecycle, hbase.isLifecycle⟩

/-! ## The first run -/

namespace Instance

/-- An instance after operations one after the other, given the services that have been asked before
them. -/
def after (inst : Instance) (asked : List String) (operations : List Operation) : Instance :=
  (operations.foldl (fun held operation => (perform held operation).left) (inst, asked)).1

/-- Only a run changes what an instance knows, and it leaves the first state. -/
theorem isFresh_perform {held : Instance × List String} (operation : Operation)
    (h : held.1.rendering.state = .created → held.1.IsFresh) :
    (perform held operation).left.1.rendering.state = .created →
      (perform held operation).left.1.IsFresh := by
  have hstep := isStep_perform held operation
  intro hafter
  by_cases hexecute : ∃ waits, operation = .execute waits
  · obtain ⟨waits, rfl⟩ := hexecute
    by_cases hcreated : held.1.rendering.state = .created
    · rcases hstep.state_of_begins (Event.begins_iff.mpr ⟨⟨waits, rfl⟩, hcreated⟩) with
        ⟨-, hleft⟩ | ⟨-, hleft⟩
      · exact nomatch hleft.symm.trans hafter
      · exact nomatch hleft.symm.trans hafter
    · have hsame := (hstep.state_eq fun hbegins => hcreated (Event.begins_iff.mp hbegins).2).1
      exact absurd (hsame.symm.trans hafter) hcreated
  · have hsame := (hstep.state_eq fun hbegins => hexecute hbegins.1).1
    obtain ⟨-, hknown, hheard⟩ := h (hsame.symm.trans hafter)
    cases operation with
    | execute waits => exact absurd ⟨waits, rfl⟩ hexecute
    | _ => exact ⟨hafter, hknown, hheard⟩

/-- As long as an instance is in the first state it has not been run. -/
theorem isFresh_after {inst : Instance} (h : inst.IsFresh) (asked : List String)
    (operations : List Operation) :
    (inst.after asked operations).rendering.state = .created →
      (inst.after asked operations).IsFresh := by
  rw [after]
  suffices hall : ∀ held : Instance × List String,
      (held.1.rendering.state = .created → held.1.IsFresh) →
      let left := operations.foldl (fun held operation => (perform held operation).left) held
      left.1.rendering.state = .created → left.1.IsFresh from
    hall (inst, asked) fun _ => h
  induction operations with
  | nil => exact fun _ h => h
  | cons operation operations ih => exact fun held h => ih _ (isFresh_perform operation h)

/-- An instance stays in the first state as long as it is not run. -/
theorem state_after {inst : Instance} (h : inst.rendering.state = .created) (asked : List String)
    {operations : List Operation}
    (hfirst : ∀ operation ∈ operations, ∀ waits, operation ≠ .execute waits) :
    (inst.after asked operations).rendering.state = .created := by
  rw [after]
  suffices hall : ∀ held : Instance × List String, held.1.rendering.state = .created →
      (operations.foldl (fun held operation => (perform held operation).left)
        held).1.rendering.state = .created from
    hall (inst, asked) h
  induction operations with
  | nil => exact fun _ h => h
  | cons operation operations ih =>
    intro held hheld
    obtain ⟨hoperation, hrest⟩ := List.forall_mem_cons.mp hfirst
    have hstep := isStep_perform held operation
    have hsame := (hstep.state_eq fun hbegins => by
      obtain ⟨waits, hwaits⟩ := hbegins.1
      exact hoperation waits hwaits).1
    exact ih hrest _ (hsame.trans hheld)

/-- The first run of an instance gets started, whatever has been done with the instance before. It
comes to its end exactly when every name that it reaches has an answer that is waited for. -/
theorem begins_first {inst : Instance} (h : inst.IsFresh) (earlier asked : List String)
    {operations : List Operation}
    (hfirst : ∀ operation ∈ operations, ∀ waits, operation ≠ .execute waits)
    (waits : String → Nat → Bool) :
    let ready := inst.after earlier operations
    let reaction := perform (ready, asked) (.execute waits)
    let event : Event := ⟨.execute waits, reaction.outcome, reaction.written, ready.rendering,
      reaction.left.1.rendering⟩
    let said := told { ready with services := awaited waits ready.services } asked
    event.Begins
      ∧ (event.Succeeds ↔ ∀ name, said.Reaches (ready.rendering.model.getD .null)
          ready.renderer.image.body name → said.Answers name) := by
  intro ready reaction event said
  have hstate := state_after h.state earlier hfirst
  have hready : ready.IsFresh := isFresh_after h earlier operations hstate
  have hwaiting : IsFresh { ready with services := awaited waits ready.services } :=
    ⟨hready.state, hready.known, hready.heard⟩
  refine ⟨Event.begins_iff.mpr ⟨⟨waits, rfl⟩, hstate⟩, ?_⟩
  rw [← hwaiting.execute_eq_ok_iff asked]
  exact ⟨Outcome.executed.inj, congrArg Outcome.executed⟩

end Instance

/-- The first run of a rendering without instructions comes to its end. -/
theorem Rendering.outcome_first {r : Rendering} (hstate : r.state = .created)
    (waits : String → Nat → Bool) :
    (r.perform (.execute waits)).outcome = .executed (.ok ()) := by
  rw [perform, execute, begin_eq, if_pos hstate]
  rfl

end Stencil
