import Mathlib
import Stencil.Engine.Schedule
import Stencil.Proofs.Engine.Interleaving
import Stencil.Proofs.Engine.Stages
import Stencil.Proofs.Module.Turns

/-!
# The course of a call

A call that finds no kept template takes its steps, and its fetches have their turns, in any order
(`Course.Step`). Wherever that leads, it has done nothing behind the first stage that fails: what it
has asked for, built, made and kept is told by what its fetches have brought, and it ends with the
error of that stage (`Course.isFailFast`).
-/

namespace Stencil

/-- The engine after modules have been asked for. -/
def Engine.askAll (engine : Engine) (modules : List String) : Engine :=
  { engine with asked := engine.asked ++ modules }

theorem Engine.askAll_nil (engine : Engine) : engine.askAll [] = engine := by
  rw [askAll, List.append_nil]

theorem Engine.askAll_append (engine : Engine) (modules more : List String) :
    (engine.askAll modules).askAll more = engine.askAll (modules ++ more) := by
  rw [askAll, askAll, askAll, List.append_assoc]

/-- The template that a call has made. -/
def Progress.template? : Progress → Option Template
  | .made template => some template
  | .ended (.ok template) => some template
  | _ => none

theorem Progress.collecting_eq_ofResolution {source source' : Source.Generated}
    {arrived : References} {resolution : Resolution}
    (h : .collecting source arrived = ofResolution source' resolution) :
    source = source' ∧ resolution = .waiting arrived := by
  cases resolution with
  | resolved references => cases h
  | failed e => cases h
  | waiting arrived' =>
    cases h
    exact ⟨rfl, rfl⟩

theorem Progress.ended_eq_ofResolution {outcome : Except Error Template} {source : Source.Generated}
    {resolution : Resolution} (h : .ended outcome = ofResolution source resolution) :
    ∃ e, outcome = .error e ∧ resolution = .failed e := by
  cases resolution with
  | resolved references => cases h
  | failed e =>
    cases h
    exact ⟨e, rfl, rfl⟩
  | waiting arrived => cases h

/-- A module of the request is never answered, and none fails. -/
def Request.IsEndless (fetcher : Fetcher) (request : Request) : Prop :=
  (∃ module ∈ request.references.toList, (fetcher module).outcome = none)
    ∧ ∀ module ∈ request.references.toList, ∀ cause,
      (fetcher module).outcome ≠ some (.error cause)

/-- A call with its engine, and what has happened to its fetches. -/
structure Course where
  /-- The engine. -/
  engine : Engine
  /-- The call with its fetches. -/
  running : RunningCall
  /-- What has happened to the fetches, in order. -/
  events : List FetchEvent

namespace Course

/-- A call that has not started. -/
def start (engine : Engine) (fetcher : Fetcher) (request : Request) : Course where
  engine
  running := .ofRequest fetcher request
  events := []

/-- How far the call has come. -/
def progress (course : Course) : Progress :=
  course.running.call.progress

/-- What may happen next: the call takes a step by itself, or one of the fetches of a call that
collects modules has a turn. -/
inductive Step : Course → Course → Prop
  | advance (engine : Engine) (call : Call) (queue : FetchQueue) (events : List FetchEvent) :
    Step ⟨engine, ⟨call, queue⟩, events⟩
      ⟨(call.advance engine).1, ⟨(call.advance engine).2, queue⟩, events⟩
  | poll {engine : Engine} {call : Call} {queue queue' : FetchQueue} {events turn : List FetchEvent}
    {source : Source.Generated} {arrived : References}
    (hcollecting : call.progress = .collecting source arrived) (hturn : queue.Turn turn queue') :
    Step ⟨engine, ⟨call, queue⟩, events⟩
      ⟨(RunningCall.observe engine call turn).1, ⟨(RunningCall.observe engine call turn).2, queue'⟩,
        events ++ turn⟩

/-! ## How far a call has come -/

/-- The state of a call and its engine, told by the engine before the call and by what has happened
to its fetches. -/
inductive Reached (before : Engine) (request : Request) (asked : List String)
    (completions : List Completion) : Engine → Progress → Prop
  | issued (hasked : asked = []) (hcompletions : completions = []) :
    Reached before request asked completions before .issued
  | rejected {e : Error} (hasked : asked = []) (hsource : request.source = .error e) :
    Reached before request asked completions before (.ended (.error e))
  | resolving {source : Source.Generated} {progress : Progress}
    (hsource : request.source = .ok source)
    (hprogress : progress = .ofResolution source (request.references.resolve completions)) :
    Reached before request asked completions (before.askAll asked) progress
  | failed {source : Source.Generated} {references : References} {e : Error}
    (hsource : request.source = .ok source)
    (hresolved : request.references.resolve completions = .resolved references)
    (hbuild : (before.backend.build source references).bind (Unit.load · request.model)
      = .error e) :
    Reached before request asked completions
      { before.askAll asked with
        built := before.built ++ [(source, references)] }
      (.ended (.error e))
  | made {source : Source.Generated} {references : References} {renderer : Renderer}
    (hsource : request.source = .ok source)
    (hresolved : request.references.resolve completions = .resolved references)
    (hbuild : (before.backend.build source references).bind (Unit.load · request.model)
      = .ok renderer) :
    Reached before request asked completions
      { before.askAll asked with
        built := before.built ++ [(source, references)]
        made := before.made + 1 }
      (.made ⟨before.made, renderer⟩)
  | kept {source : Source.Generated} {references : References} {renderer : Renderer}
    (hsource : request.source = .ok source)
    (hresolved : request.references.resolve completions = .resolved references)
    (hbuild : (before.backend.build source references).bind (Unit.load · request.model)
      = .ok renderer) :
    Reached before request asked completions
      { (before.keep request ⟨before.made, renderer⟩).askAll asked with
        built := before.built ++ [(source, references)]
        made := before.made + 1 }
      (.ended (.ok ⟨before.made, renderer⟩))

variable {before engine : Engine} {fetcher : Fetcher} {request : Request} {progress : Progress}
  {asked : List String} {completions : List Completion}

/-- A step that the call takes by itself. -/
theorem Reached.advance (hmissed : before.cached? request = none)
    (h : Reached before request asked completions engine progress) :
    Reached before request asked completions (Call.advance engine ⟨request, progress⟩).1
        (Call.advance engine ⟨request, progress⟩).2.progress := by
  cases h with
  | issued hasked hcompletions =>
    subst hasked hcompletions
    change Reached before request [] [] before (Call.start before request)
    rw [Call.start, hmissed]
    cases hsource : request.source with
    | error e => exact .rejected rfl hsource
    | ok source =>
      have hresolving : Reached before request [] [] (before.askAll [])
          (.ofResolution source (request.references.resolve [])) := .resolving hsource rfl
      rw [Engine.askAll_nil] at hresolving
      exact hresolving
  | rejected hasked hsource => exact .rejected hasked hsource
  | @resolving source _ hsource hprogress =>
    subst hprogress
    cases hresolution : request.references.resolve completions with
    | resolved references =>
      cases hbuild : (before.backend.build source references).bind (Unit.load · request.model) with
      | error e =>
        have hasked : ((before.askAll asked).backend.build source references).bind
            (Unit.load · request.model) = .error e := hbuild
        rw [Progress.ofResolution, Call.advance_of_error hasked]
        exact .failed hsource hresolution hbuild
      | ok renderer =>
        have hasked : ((before.askAll asked).backend.build source references).bind
            (Unit.load · request.model) = .ok renderer := hbuild
        rw [Progress.ofResolution, Call.advance_of_ok hasked]
        exact .made hsource hresolution hbuild
    | failed e => exact .resolving hsource (by rw [hresolution]; rfl)
    | waiting arrived => exact .resolving hsource (by rw [hresolution]; rfl)
  | failed hsource hresolved hbuild => exact .failed hsource hresolved hbuild
  | made hsource hresolved hbuild => exact .kept hsource hresolved hbuild
  | kept hsource hresolved hbuild => exact .kept hsource hresolved hbuild

/-- A call that collects modules has a source, and no fetch has failed. -/
theorem Reached.of_collecting {source : Source.Generated} {arrived : References}
    (h : Reached before request asked completions engine (.collecting source arrived)) :
    engine = before.askAll asked ∧ request.source = .ok source ∧
      request.references.resolve completions = .waiting arrived := by
  generalize hcollecting : Progress.collecting source arrived = progress at h
  cases h with
  | issued => cases hcollecting
  | rejected => cases hcollecting
  | resolving hsource hprogress =>
    obtain ⟨rfl, hwaiting⟩ := Progress.collecting_eq_ofResolution (hcollecting.trans hprogress)
    exact ⟨rfl, hsource, hwaiting⟩
  | failed => cases hcollecting
  | made => cases hcollecting
  | kept => cases hcollecting

/-- A first turn asks for the module, and the call still collects modules. -/
theorem observe_firstTurn (engine : Engine) (request : Request) (source : Source.Generated)
    (arrived : References) (fetch : Pending) (more : List FetchEvent) :
    RunningCall.observe engine ⟨request, .collecting source arrived⟩
        (FetchQueue.firstTurn fetch ++ more)
      = RunningCall.observe (engine.askAll (askedModules (FetchQueue.firstTurn fetch)))
          ⟨request, .collecting source arrived⟩ more := by
  rw [FetchQueue.firstTurn]
  split
  · rw [List.nil_append, askedModules, List.filterMap_nil, Engine.askAll_nil]
  · rfl

theorem completions_firstTurn (fetch : Pending) :
    Stencil.completions (FetchQueue.firstTurn fetch) = [] := by
  rw [FetchQueue.firstTurn]
  split <;> rfl

/-- A turn of a fetch: what it asks for is asked, and what it brings adds to what has arrived. -/
theorem observe_turn {queue queue' : FetchQueue} {turn : List FetchEvent}
    {source : Source.Generated} {arrived : References} (hturn : queue.Turn turn queue')
    (hwaiting : request.references.resolve completions = .waiting arrived) (engine : Engine) :
    RunningCall.observe engine ⟨request, .collecting source arrived⟩ turn
      = (engine.askAll (askedModules turn), ⟨request, .ofResolution source
          (request.references.resolve (completions ++ Stencil.completions turn))⟩) := by
  have hasks (fetch : Pending) : RunningCall.observe engine ⟨request, .collecting source arrived⟩
      (FetchQueue.firstTurn fetch) = (engine.askAll (askedModules (FetchQueue.firstTurn fetch)),
        ⟨request, .ofResolution source (request.references.resolve
          (completions ++ Stencil.completions (FetchQueue.firstTurn fetch)))⟩) := by
    have hfirst := observe_firstTurn engine request source arrived fetch []
    rw [List.append_nil] at hfirst
    rw [hfirst, completions_firstTurn, List.append_nil, hwaiting]
    rfl
  have hbrings (fetch : Pending) (completion : Completion) :
      RunningCall.observe engine ⟨request, .collecting source arrived⟩
        (FetchQueue.firstTurn fetch ++ [.completed completion])
      = (engine.askAll (askedModules (FetchQueue.firstTurn fetch ++ [.completed completion])),
        ⟨request, .ofResolution source (request.references.resolve (completions
          ++ Stencil.completions (FetchQueue.firstTurn fetch ++ [.completed completion])))⟩) := by
    have hnone : askedModules [.completed completion] = [] := rfl
    rw [observe_firstTurn, completions_append, completions_firstTurn, List.nil_append,
      askedModules_append, hnone, List.append_nil,
      ReferenceSet.resolve_append_of_waiting hwaiting]
    rfl
  cases hturn with
  | suspended hreply => exact hasks _
  | silenced hreply => exact hasks _
  | failed hreply => exact hbrings _ _
  | arrived hreply => exact hbrings _ _

/-! ## What holds on the way -/

/-- What holds of a call wherever it has come. -/
structure Explains (before : Engine) (fetcher : Fetcher) (request : Request) (course : Course) :
    Prop where
  /-- The call serves the request. -/
  request_eq : course.running.call.request = request
  /-- Its state and its engine are told by what has happened to its fetches. -/
  reached : Reached before request (askedModules course.events)
    (Stencil.completions course.events) course.engine course.progress
  /-- Its queue holds the fetches that are out. -/
  accounts : FetchQueue.Accounts request.references fetcher course.events
    course.running.queue.ready
  /-- No module is lost before a fetch fails. -/
  covers : (∀ completion ∈ Stencil.completions course.events, completion.IsSuccess) →
    FetchQueue.Covers request.references fetcher course.events course.running.queue.ready

theorem explains_start (before : Engine) (fetcher : Fetcher) (request : Request) :
    Explains before fetcher request (start before fetcher request) where
  request_eq := rfl
  reached := .issued rfl rfl
  accounts := .ofSet request.references fetcher
  covers _ := FetchQueue.covers_ofSet request.references fetcher

theorem Step.explains {course course' : Course} (hmissed : before.cached? request = none)
    (hstep : Step course course') (h : Explains before fetcher request course) :
    Explains before fetcher request course' := by
  obtain ⟨hrequest, hreached, haccounts, hcovers⟩ := h
  cases hstep with
  | advance engine call queue events =>
    obtain ⟨request', progress⟩ := call
    obtain rfl : request' = request := hrequest
    have hkeeps := (@Call.step_advance fetcher engine ⟨request', progress⟩).2
    exact ⟨hkeeps, hreached.advance hmissed, haccounts, hcovers⟩
  | @poll engine call queue queue' events turn source arrived hcollecting hturn =>
    obtain ⟨request', progress⟩ := call
    obtain rfl : request' = request := hrequest
    obtain rfl : progress = .collecting source arrived := hcollecting
    have hstate : Reached before request' (askedModules events) (Stencil.completions events) engine
        (.collecting source arrived) := hreached
    obtain ⟨hengine, hsource, hwaiting⟩ := hstate.of_collecting
    have hsuccess := ReferenceSet.isSuccess_of_waiting hwaiting
    rw [observe_turn hturn hwaiting, hengine, Engine.askAll_append, ← askedModules_append,
      ← completions_append]
    exact
      { request_eq := rfl
        reached := .resolving hsource rfl
        accounts := hturn.accounts haccounts
        covers := hturn.covers haccounts (hcovers hsuccess) }

/-- What holds at the start holds wherever a call has come. -/
theorem explains_of_reflTransGen {course : Course} (hmissed : before.cached? request = none)
    (hrun : Relation.ReflTransGen Step (start before fetcher request) course) :
    Explains before fetcher request course := by
  induction hrun with
  | refl => exact explains_start before fetcher request
  | tail _ hstep ih => exact hstep.explains hmissed ih

/-! ## Going on -/

/-- How many steps by itself a call may have ahead of it. -/
def rank : Progress → Nat
  | .issued => 4
  | .collecting .. => 3
  | .ready .. => 2
  | .made _ => 1
  | .ended _ => 0

/-- What a call and its fetches have ahead of them. -/
def weight (course : Course) : Nat :=
  rank course.progress + FetchQueue.turns course.running.queue.ready

/-- A call that has ended. -/
def HasEnded (course : Course) : Prop :=
  ∃ outcome, course.progress = .ended outcome

/-- A call that waits for fetches that are never answered. -/
def IsStalled (course : Course) : Prop :=
  (∃ source arrived, course.progress = .collecting source arrived)
    ∧ course.running.queue.ready = []

theorem rank_ofResolution_le (source : Source.Generated) (resolution : Resolution) :
    rank (.ofResolution source resolution) ≤ 3 := by
  cases resolution with
  | resolved references => exact Nat.le_succ 2
  | failed e => exact Nat.zero_le 3
  | waiting arrived => exact Nat.le_refl 3

theorem rank_start_le (engine : Engine) (request : Request) :
    rank (Call.start engine request) ≤ 3 := by
  rw [Call.start]
  split
  · exact Nat.zero_le 3
  · split
    · exact Nat.zero_le 3
    · exact rank_ofResolution_le _ _

/-- A call that has its modules fails with the next step or makes a template with it. -/
theorem advance_ready (engine : Engine) (request : Request) (source : Source.Generated)
    (references : References) :
    (∃ e, (Call.advance engine ⟨request, .ready source references⟩).2
        = ⟨request, .ended (.error e)⟩)
      ∨ ∃ template, (Call.advance engine ⟨request, .ready source references⟩).2
        = ⟨request, .made template⟩ := by
  cases hbuild : (engine.backend.build source references).bind (Unit.load · request.model) with
  | error e => exact Or.inl ⟨e, by rw [Call.advance_of_error hbuild]⟩
  | ok renderer => exact Or.inr ⟨_, by rw [Call.advance_of_ok hbuild]⟩

/-- A step that a call takes by itself brings it nearer to its end, unless it waits. -/
theorem rank_advance_lt (engine : Engine) (request : Request) {progress : Progress}
    (hcollects : ∀ source arrived, progress ≠ .collecting source arrived)
    (hended : ∀ outcome, progress ≠ .ended outcome) :
    rank (Call.advance engine ⟨request, progress⟩).2.progress < rank progress := by
  cases progress with
  | issued => exact Nat.lt_succ_of_le (rank_start_le engine request)
  | collecting source arrived => exact absurd rfl (hcollects source arrived)
  | ready source references =>
    rcases advance_ready engine request source references with ⟨e, hnext⟩ | ⟨template, hnext⟩
    · rw [hnext]
      exact Nat.zero_lt_two
    · rw [hnext]
      exact Nat.one_lt_two
  | made template => exact Nat.zero_lt_one
  | ended outcome => exact absurd rfl (hended outcome)

/-- A call that has neither ended nor stalled has something ahead of it. -/
theorem exists_step {course : Course} (h : Explains before fetcher request course) :
    course.HasEnded ∨ course.IsStalled ∨
      ∃ later, Step course later ∧ later.weight < course.weight := by
  obtain ⟨engine, ⟨⟨request', progress⟩, queue⟩, events⟩ := course
  obtain rfl : request' = request := h.request_eq
  by_cases hended : ∃ outcome, progress = .ended outcome
  · exact Or.inl hended
  · refine Or.inr ?_
    by_cases hcollects : ∃ source arrived, progress = .collecting source arrived
    · obtain ⟨source, arrived, rfl⟩ := hcollects
      by_cases hready : queue.ready = []
      · exact Or.inl ⟨⟨source, arrived, rfl⟩, hready⟩
      · obtain ⟨turn, queue', hturn⟩ := FetchQueue.exists_turn hready
        refine Or.inr ⟨_, .poll rfl hturn, ?_⟩
        obtain ⟨-, -, hwaiting⟩ := h.reached.of_collecting
        rw [observe_turn hturn hwaiting]
        exact Nat.add_lt_add_of_le_of_lt (rank_ofResolution_le _ _) hturn.turns_lt
    · refine Or.inr ⟨_, .advance engine ⟨request', progress⟩ queue events, ?_⟩
      refine Nat.add_lt_add_right (rank_advance_lt engine request' ?_ ?_) _
      · exact fun source arrived heq => hcollects ⟨source, arrived, heq⟩
      · exact fun outcome heq => hended ⟨outcome, heq⟩

/-- From wherever it has come a call can go on until it has ended or stalled. -/
theorem exists_rest (hmissed : before.cached? request = none) {course : Course}
    (h : Explains before fetcher request course) :
    ∃ later, Relation.ReflTransGen Step course later ∧ (later.HasEnded ∨ later.IsStalled) := by
  induction hweight : course.weight using Nat.strong_induction_on generalizing course with
  | _ weight ih =>
    rcases exists_step h with hended | hstalled | ⟨next, hstep, hlt⟩
    · exact ⟨course, .refl, Or.inl hended⟩
    · exact ⟨course, .refl, Or.inr hstalled⟩
    · obtain ⟨later, hrun, hrest⟩ :=
        ih next.weight (hweight ▸ hlt) (hstep.explains hmissed h) rfl
      exact ⟨later, .head hstep hrun, hrest⟩

/-- A call stalls only where its modules leave it without an end. -/
theorem IsStalled.isEndless {course : Course} (hstalled : course.IsStalled)
    (h : Explains before fetcher request course) : request.IsEndless fetcher := by
  obtain ⟨⟨source, arrived, hcollecting⟩, hready⟩ := hstalled
  have hreached := h.reached
  rw [hcollecting] at hreached
  obtain ⟨-, -, hwaiting⟩ := hreached.of_collecting
  have hsuccess := ReferenceSet.isSuccess_of_waiting hwaiting
  have hcovers := h.covers hsuccess
  rw [hready] at hcovers
  constructor
  · obtain ⟨module, hmodule, hmissing⟩ := h.accounts.isOrder.exists_missing_of_waiting hwaiting
    rcases hcovers module hmodule with hout | hnone | hdone
    · exact nomatch hout
    · exact ⟨module, hmodule, hnone⟩
    · exact absurd hdone hmissing
  · intro module hmodule cause hfails
    rcases hcovers module hmodule with hout | hnone | hdone
    · exact nomatch hout
    · rw [hnone] at hfails
      cases hfails
    · obtain ⟨completion, hmem, rfl⟩ := List.mem_map.mp hdone
      obtain ⟨bytes, hbytes⟩ := hsuccess completion hmem
      rw [(h.accounts.completed completion hmem).2, hbytes] at hfails
      cases hfails

/-! ## Nothing behind the stage that fails -/

/-- What a call on the engine `before` has done, wherever it has come. -/
structure IsFailFast (before : Engine) (fetcher : Fetcher) (request : Request) (course : Course) :
    Prop where
  /-- It has asked for modules of its set only, for each at most once, and only with a source. -/
  asks : course.engine.asked = before.asked ++ askedModules course.events
    ∧ (askedModules course.events).Nodup
    ∧ ∀ module ∈ askedModules course.events,
        module ∈ request.references.toList ∧ ∃ source, request.source = .ok source
  /-- Of these some have completed, each once and with the answer to it. -/
  fetches : request.references.IsOrder (Stencil.completions course.events)
    ∧ ∀ completion ∈ Stencil.completions course.events,
        completion.module ∈ askedModules course.events
          ∧ (fetcher completion.module).outcome = some completion.outcome
  /-- It has given nothing to the backend, or once the source with the modules of its set. -/
  builds : course.engine.built = before.built
    ∨ ∃ source references, request.source = .ok source
        ∧ request.references.Gathers (Stencil.completions course.events) references
        ∧ course.engine.built = before.built ++ [(source, references)]
  /-- It has neither made nor kept a renderer, or the one that has been loaded. -/
  makes : (course.progress.template? = none ∧ course.engine.made = before.made
      ∧ course.engine.kept = before.kept)
    ∨ ∃ renderer, request.Loads before.backend (Stencil.completions course.events) renderer
        ∧ course.progress.template? = some ⟨before.made, renderer⟩
        ∧ course.engine.made = before.made + 1
        ∧ (course.engine.kept = before.kept
          ∨ course.engine.kept = (before.keep request ⟨before.made, renderer⟩).kept)
  /-- When it has ended, its error is that of the first stage that fails. -/
  ends : ∀ outcome, course.progress = .ended outcome → ∀ e, outcome = .error e
    ↔ request.Fails before.backend (Stencil.completions course.events) e
  /-- It can go on to its end, unless its modules leave it without one. -/
  returns : (∃ later, Relation.ReflTransGen Step course later ∧ later.HasEnded)
    ∨ request.IsEndless fetcher

theorem template?_ofResolution (source : Source.Generated) (resolution : Resolution) :
    (Progress.ofResolution source resolution).template? = none := by
  cases resolution <;> rfl

namespace Reached

theorem asked_eq (h : Reached before request asked completions engine progress) :
    engine.asked = before.asked ++ asked := by
  cases h with
  | issued hasked => rw [hasked, List.append_nil]
  | rejected hasked => rw [hasked, List.append_nil]
  | resolving => rfl
  | failed => rfl
  | made => rfl
  | kept => rfl

/-- Modules are asked for only where there is a source. -/
theorem exists_source (h : Reached before request asked completions engine progress)
    {module : String} (hmodule : module ∈ asked) : ∃ source, request.source = .ok source := by
  cases h with
  | issued hasked => exact absurd (hasked ▸ hmodule) List.not_mem_nil
  | rejected hasked => exact absurd (hasked ▸ hmodule) List.not_mem_nil
  | resolving hsource => exact ⟨_, hsource⟩
  | failed hsource => exact ⟨_, hsource⟩
  | made hsource => exact ⟨_, hsource⟩
  | kept hsource => exact ⟨_, hsource⟩

/-- The backend is given the source with all modules, if anything. -/
theorem built_eq (h : Reached before request asked completions engine progress) :
    engine.built = before.built ∨ ∃ source references, request.source = .ok source
      ∧ request.references.resolve completions = .resolved references
      ∧ engine.built = before.built ++ [(source, references)] := by
  cases h with
  | issued => exact Or.inl rfl
  | rejected => exact Or.inl rfl
  | resolving => exact Or.inl rfl
  | failed hsource hresolved => exact Or.inr ⟨_, _, hsource, hresolved, rfl⟩
  | made hsource hresolved => exact Or.inr ⟨_, _, hsource, hresolved, rfl⟩
  | kept hsource hresolved => exact Or.inr ⟨_, _, hsource, hresolved, rfl⟩

/-- A renderer is made only where the stages come to it, and it is the one that is kept. -/
theorem made_eq (h : Reached before request asked completions engine progress) :
    (progress.template? = none ∧ engine.made = before.made ∧ engine.kept = before.kept)
      ∨ ∃ renderer, request.resultFrom? before.backend completions = some (.ok renderer)
        ∧ progress.template? = some ⟨before.made, renderer⟩ ∧ engine.made = before.made + 1
        ∧ (engine.kept = before.kept
          ∨ engine.kept = (before.keep request ⟨before.made, renderer⟩).kept) := by
  cases h with
  | issued => exact Or.inl ⟨rfl, rfl, rfl⟩
  | rejected => exact Or.inl ⟨rfl, rfl, rfl⟩
  | resolving hsource hprogress =>
    exact Or.inl ⟨hprogress ▸ template?_ofResolution _ _, rfl, rfl⟩
  | failed => exact Or.inl ⟨rfl, rfl, rfl⟩
  | made hsource hresolved hbuild =>
    refine Or.inr ⟨_, ?_, rfl, rfl, Or.inl rfl⟩
    rw [Request.resultFrom?_of_resolved hsource hresolved, hbuild]
  | kept hsource hresolved hbuild =>
    refine Or.inr ⟨_, ?_, rfl, rfl, Or.inr rfl⟩
    rw [Request.resultFrom?_of_resolved hsource hresolved, hbuild]

/-- When a call has ended, its outcome is what the stages come to. -/
theorem result_eq {outcome : Except Error Template}
    (h : Reached before request asked completions engine (.ended outcome)) :
    request.resultFrom? before.backend completions = some (outcome.map (·.renderer)) := by
  generalize hended : Progress.ended outcome = progress at h
  cases h with
  | issued => cases hended
  | rejected hasked hsource =>
    cases hended
    exact Request.resultFrom?_of_error hsource
  | resolving hsource hprogress =>
    obtain ⟨e, rfl, hfailed⟩ := Progress.ended_eq_ofResolution (hended.trans hprogress)
    rw [Request.resultFrom?_of_ok hsource, hfailed]
    rfl
  | failed hsource hresolved hbuild =>
    cases hended
    rw [Request.resultFrom?_of_resolved hsource hresolved, hbuild]
    rfl
  | made => cases hended
  | kept hsource hresolved hbuild =>
    cases hended
    rw [Request.resultFrom?_of_resolved hsource hresolved, hbuild]
    rfl

end Reached

/-- Wherever a call that finds no kept template has come, it has done nothing behind the first stage
that fails. -/
theorem isFailFast {course : Course} (hmissed : before.cached? request = none)
    (hrun : Relation.ReflTransGen Step (start before fetcher request) course) :
    course.IsFailFast before fetcher request := by
  have h := explains_of_reflTransGen hmissed hrun
  have horder := h.accounts.isOrder
  constructor
  · exact ⟨h.reached.asked_eq, h.accounts.askedOnce,
      fun module hasked => ⟨h.accounts.asked module hasked, h.reached.exists_source hasked⟩⟩
  · exact ⟨horder, h.accounts.completed⟩
  · rcases h.reached.built_eq with hsame | ⟨source, references, hsource, hresolved, hbuilt⟩
    · exact Or.inl hsame
    · exact Or.inr
        ⟨source, references, hsource, (Request.gathers_iff horder).mpr hresolved, hbuilt⟩
  · rcases h.reached.made_eq with hsame | ⟨renderer, hresult, hmade⟩
    · exact Or.inl hsame
    · exact Or.inr ⟨renderer, (Request.loads_iff horder).mpr hresult, hmade⟩
  · intro outcome hended e
    have hreached := h.reached
    rw [hended] at hreached
    rw [Request.fails_iff horder, hreached.result_eq]
    cases outcome <;> simp [Except.map]
  · obtain ⟨later, hlater, hended | hstalled⟩ := exists_rest hmissed h
    · exact Or.inl ⟨later, hlater, hended⟩
    · exact Or.inr
        (hstalled.isEndless (explains_of_reflTransGen hmissed (hrun.trans hlater)))

end Course

end Stencil
