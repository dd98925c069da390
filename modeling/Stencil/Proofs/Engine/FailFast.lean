import Mathlib
import Stencil.Proofs.Engine.Course

/-!
# Compiling stops at the first stage that fails

The turns that `Engine.compile` takes are one course of its call, and it is taken to where the call
has ended or waits for ever (`Engine.exists_course_compile`). So what holds of all courses holds of
compiling (`Engine.compile_failFast`).
-/

namespace Stencil

open Relation

/-- A call that collects modules. -/
def Call.IsCollecting (call : Call) : Prop :=
  ∃ source arrived, call.progress = .collecting source arrived

/-- A call that takes no more steps by itself. -/
def Call.Rests (call : Call) : Prop :=
  (∃ outcome, call.progress = .ended outcome) ∨ call.IsCollecting

namespace RunningCall

theorem observe_append (engine : Engine) (call : Call) (events more : List FetchEvent) :
    observe engine call (events ++ more)
      = observe (observe engine call events).1 (observe engine call events).2 more :=
  List.foldl_append

/-- A call that collects no modules takes no notice of its fetches. -/
theorem observe_of_not_collecting {call : Call} (h : ¬ call.IsCollecting) (engine : Engine)
    (events : List FetchEvent) : observe engine call events = (engine, call) := by
  induction events with
  | nil => rfl
  | cons event events ih =>
    have hignored : call.observe engine event = (engine, call) := by
      obtain ⟨request, progress⟩ := call
      cases progress with
      | collecting source arrived => exact absurd ⟨source, arrived, rfl⟩ h
      | issued => rfl
      | ready source references => rfl
      | made template => rfl
      | ended outcome => rfl
    rw [observe, List.foldl_cons, hignored]
    exact ih

end RunningCall

namespace Course

variable {engine : Engine} {fetcher : Fetcher} {request : Request} {course : Course}

/-! ## Serving a queue -/

/-- What happens while a queue is served are turns of its fetches. The queue that is left counts as
long as the call collects modules. -/
def Serves (queue : FetchQueue) (result : List FetchEvent × FetchQueue) : Prop :=
  ∀ (engine : Engine) (call : Call) (events : List FetchEvent), call.IsCollecting →
    ∃ left events', ReflTransGen Step ⟨engine, ⟨call, queue⟩, events⟩
        ⟨(RunningCall.observe engine call result.1).1,
          ⟨(RunningCall.observe engine call result.1).2, left⟩, events'⟩
      ∧ ((RunningCall.observe engine call result.1).2.IsCollecting → left = result.2)

theorem serves_nil (queue : FetchQueue) : Serves queue ([], queue) :=
  fun _ _ events _ => ⟨queue, events, .refl, fun _ => rfl⟩

theorem Serves.turn {queue queue' : FetchQueue} {turn : List FetchEvent}
    {result : List FetchEvent × FetchQueue} (h : Serves queue' result)
    (hturn : queue.Turn turn queue') : Serves queue (turn ++ result.1, result.2) := by
  rintro engine call events ⟨source, arrived, hcollecting⟩
  have hstep : Step ⟨engine, ⟨call, queue⟩, events⟩ _ := .poll hcollecting hturn
  dsimp only
  rw [RunningCall.observe_append]
  by_cases hgoes : (RunningCall.observe engine call turn).2.IsCollecting
  · obtain ⟨left, events', hrun, hleft⟩ := h _ _ (events ++ turn) hgoes
    exact ⟨left, events', .head hstep hrun, hleft⟩
  · rw [RunningCall.observe_of_not_collecting hgoes]
    exact ⟨queue', events ++ turn, .single hstep, fun hcollects => absurd hcollects hgoes⟩

/-- The queue is served by turns of the fetch at its front. -/
theorem serves_serve (served suspended silent : Nat) (ready : List Pending) :
    Serves ⟨ready, silent⟩ (FetchQueue.serve served suspended silent ready) := by
  fun_induction FetchQueue.serve served suspended silent ready with
  | case1 served suspended silent => exact serves_nil _
  | case2 served suspended silent module started suspensions outcome rest fetch ready hstop =>
    have hturn := @FetchQueue.Turn.suspended [] rest fetch silent suspensions outcome rfl
    have hserves := (serves_nil _).turn hturn
    rwa [List.append_nil] at hserves
  | case3 served suspended silent module started suspensions outcome rest fetch ready hgoes events
      queue hserve ih =>
    have hturn := @FetchQueue.Turn.suspended [] rest fetch silent suspensions outcome rfl
    rw [hserve] at ih
    exact ih.turn hturn
  | case4 served suspended silent module started rest fetch hstop =>
    have hturn := @FetchQueue.Turn.silenced [] rest fetch silent rfl
    have hserves := (serves_nil _).turn hturn
    rwa [List.append_nil] at hserves
  | case5 served suspended silent module started rest fetch hgoes events queue hserve ih =>
    have hturn := @FetchQueue.Turn.silenced [] rest fetch silent rfl
    rw [hserve] at ih
    exact ih.turn hturn
  | case6 served suspended silent module started cause rest fetch =>
    have hturn := @FetchQueue.Turn.failed [] rest fetch silent cause rfl
    have hserves := (serves_nil _).turn hturn
    rwa [List.append_nil] at hserves
  | case7 served suspended silent module started bytes rest fetch events queue hserve ih =>
    have hturn := @FetchQueue.Turn.arrived [] rest fetch silent bytes rfl
    rw [hserve] at ih
    have hserves := ih.turn hturn
    rwa [List.append_assoc] at hserves

/-! ## Turns of a call -/

/-- A course has come as far as a call on an engine. Of a call that has its modules or has ended,
the queue no longer counts. -/
structure Matches (course : Course) (engine : Engine) (running : RunningCall) : Prop where
  /-- The engines are the same. -/
  engine_eq : course.engine = engine
  /-- The calls are the same. -/
  call_eq : course.running.call = running.call
  /-- The fetches that are out are the same. -/
  queue_eq : running.call.progress = .issued ∨ running.call.IsCollecting →
    course.running.queue = running.queue

/-- What follows a course that matches a call goes on to what the call goes on to. -/
def Leads (engine : Engine) (running : RunningCall) (result : Engine × RunningCall) : Prop :=
  ∀ course, Matches course engine running →
    ∃ later, ReflTransGen Step course later ∧ Matches later result.1 result.2

variable {running : RunningCall} {result result' : Engine × RunningCall}

theorem Leads.trans (h : Leads engine running result) (h' : Leads result.1 result.2 result') :
    Leads engine running result' := by
  intro course hmatches
  obtain ⟨between, hrun, hbetween⟩ := h course hmatches
  obtain ⟨later, hrun', hlater⟩ := h' between hbetween
  exact ⟨later, hrun.trans hrun', hlater⟩

theorem leads_refl (engine : Engine) (running : RunningCall) :
    Leads engine running (engine, running) :=
  fun course hmatches => ⟨course, .refl, hmatches⟩

/-- A step of a call does not bring it back to where fetches are out. -/
theorem waits_of_advance {call : Call}
    (h : (call.advance engine).2.progress = .issued ∨ (call.advance engine).2.IsCollecting) :
    call.progress = .issued ∨ call.IsCollecting := by
  obtain ⟨request, progress⟩ := call
  cases progress with
  | issued => exact Or.inl rfl
  | collecting source arrived => exact Or.inr ⟨source, arrived, rfl⟩
  | ready source references =>
    rcases advance_ready engine request source references with ⟨e, hnext⟩ | ⟨template, hnext⟩
    · rw [hnext] at h
      obtain hissued | ⟨_, _, hcollecting⟩ := h
      · cases hissued
      · cases hcollecting
    · rw [hnext] at h
      obtain hissued | ⟨_, _, hcollecting⟩ := h
      · cases hissued
      · cases hcollecting
  | made template =>
    obtain hissued | ⟨_, _, hcollecting⟩ := h
    · cases hissued
    · cases hcollecting
  | ended outcome => exact h

theorem leads_advance (engine : Engine) (running : RunningCall) :
    Leads engine running
      ((running.call.advance engine).1,
        { running with call := (running.call.advance engine).2 }) := by
  intro course hmatches
  obtain ⟨engine', ⟨call, queue⟩, events⟩ := course
  obtain ⟨rfl, hcall, hqueue⟩ := hmatches
  obtain rfl : call = running.call := hcall
  refine ⟨_, .single (.advance engine' running.call queue events), rfl, rfl, fun hwaits => ?_⟩
  exact hqueue (waits_of_advance hwaits)

theorem leads_start (engine : Engine) (running : RunningCall) :
    Leads engine running (running.start engine) := by
  rw [RunningCall.start]
  split
  · exact leads_advance engine running
  · exact leads_refl engine running

theorem ne_issued_of_rank_le {progress : Progress} (h : rank progress ≤ 3) :
    progress ≠ .issued := by
  rintro rfl
  exact absurd h (Nat.lt_irrefl 3)

theorem progress_start_ne (engine : Engine) (running : RunningCall) :
    (running.start engine).2.call.progress ≠ .issued := by
  obtain ⟨⟨request, progress⟩, queue⟩ := running
  cases progress with
  | issued => exact ne_issued_of_rank_le (rank_start_le engine request)
  | collecting source arrived => exact nofun
  | ready source references => exact nofun
  | made template => exact nofun
  | ended outcome => exact nofun

theorem progress_observe_ne {call : Call} (h : call.progress ≠ .issued) (engine : Engine)
    (events : List FetchEvent) : (RunningCall.observe engine call events).2.progress ≠ .issued := by
  induction events generalizing engine call with
  | nil => exact h
  | cons event events ih =>
    rw [RunningCall.observe, List.foldl_cons]
    refine ih ?_ _
    obtain ⟨request, progress⟩ := call
    cases progress with
    | issued => exact absurd rfl h
    | collecting source arrived =>
      cases event with
      | asked module => exact nofun
      | completed completion => exact ne_issued_of_rank_le (rank_ofResolution_le _ _)
    | ready source references => exact nofun
    | made template => exact nofun
    | ended outcome => exact nofun

/-- Serving the queue is a course of the call, as long as its modules have not arrived. -/
theorem leads_serve (engine : Engine) {running : RunningCall}
    (hstarted : running.call.progress ≠ .issued) :
    Leads engine running (running.serve engine) := by
  intro course hmatches
  obtain ⟨engine', ⟨call, queue⟩, events⟩ := course
  obtain ⟨rfl, hcall, hqueue⟩ := hmatches
  obtain rfl : call = running.call := hcall
  rw [RunningCall.serve]
  split
  · next source arrived hcollecting =>
    obtain rfl : queue = running.queue := hqueue (Or.inr ⟨source, arrived, hcollecting⟩)
    obtain ⟨left, events', hrun, hleft⟩ :=
      serves_serve 0 0 _ _ engine' running.call events ⟨source, arrived, hcollecting⟩
    refine ⟨_, hrun, rfl, rfl, fun hwaits => ?_⟩
    rcases hwaits with hissued | hcollects
    · exact absurd hissued (progress_observe_ne hstarted engine' _)
    · exact hleft hcollects
  · next hidle =>
    refine ⟨_, .refl, rfl, rfl, fun hwaits => ?_⟩
    rcases hwaits with hissued | ⟨source, arrived, hcollecting⟩
    · exact absurd hissued hstarted
    · exact absurd hcollecting (hidle source arrived)

theorem leads_settle (engine : Engine) (running : RunningCall) :
    Leads engine running (running.settle engine) :=
  (leads_advance engine running).trans (leads_advance _ _)

/-- A turn of a call is a part of a course. -/
theorem leads_turn (engine : Engine) (running : RunningCall) :
    Leads engine running (running.turn engine) :=
  ((leads_start engine running).trans (leads_serve _ (progress_start_ne engine running))).trans
    (leads_settle _ _)

theorem progress_serve_ne {running : RunningCall} (h : running.call.progress ≠ .issued)
    (engine : Engine) : (running.serve engine).2.call.progress ≠ .issued := by
  rw [RunningCall.serve]
  split
  · exact progress_observe_ne h engine _
  · exact h

/-- A call that has started takes at most two steps by itself. -/
theorem rests_settle {running : RunningCall} (h : running.call.progress ≠ .issued)
    (engine : Engine) : (running.settle engine).2.call.Rests := by
  obtain ⟨⟨request, progress⟩, queue⟩ := running
  rw [RunningCall.settle]
  cases progress with
  | issued => exact absurd rfl h
  | collecting source arrived => exact Or.inr ⟨source, arrived, rfl⟩
  | ready source references =>
    change (Call.advance _ (Call.advance engine ⟨request, .ready source references⟩).2).2.Rests
    rcases advance_ready engine request source references with ⟨e, hnext⟩ | ⟨template, hnext⟩
    · rw [hnext]
      exact Or.inl ⟨_, rfl⟩
    · rw [hnext]
      exact Or.inl ⟨_, rfl⟩
  | made template => exact Or.inl ⟨_, rfl⟩
  | ended outcome => exact Or.inl ⟨outcome, rfl⟩

theorem rests_turn (engine : Engine) (running : RunningCall) :
    (running.turn engine).2.call.Rests :=
  rests_settle (progress_serve_ne (progress_start_ne engine running) _) _

/-! ## Compiling -/

/-- The rounds of one call are a course of it, and at the end no fetch is left that can have a
turn. -/
theorem leads_rounds (engine : Engine) (calls : List RunningCall) :
    ∀ running, calls = [running] → running.call.Rests →
      ∃ last, (RunningCall.rounds engine calls).2 = [last] ∧ last.call.Rests
        ∧ last.queue.ready = []
        ∧ Leads engine running ((RunningCall.rounds engine calls).1, last) := by
  fun_induction RunningCall.rounds engine calls with
  | case1 engine calls hany ih =>
    rintro running rfl -
    obtain ⟨last, hcalls, hrests, hready, hleads⟩ := ih _ rfl (rests_turn engine running)
    exact ⟨last, hcalls, hrests, hready, (leads_turn engine running).trans hleads⟩
  | case2 engine calls hnone =>
    rintro running rfl hrests
    exact ⟨running, rfl, hrests, by simpa using hnone, leads_refl engine running⟩

/-- Compiling a request is a course of its call, and it is taken to where the call has ended or
waits for ever. -/
theorem exists_course_compile (engine : Engine) (fetcher : Fetcher) (request : Request) :
    ∃ course, ReflTransGen Step (start engine fetcher request) course
      ∧ (course.HasEnded ∨ course.IsStalled)
      ∧ engine.compile fetcher request = (course.engine, course.progress.outcome?) := by
  have hturn := leads_turn engine (.ofRequest fetcher request)
  obtain ⟨last, hcalls, hrests, hready, hleads⟩ :=
    leads_rounds _ _ _ rfl (rests_turn engine (.ofRequest fetcher request))
  obtain ⟨course, hrun, hengine, hcall, hqueue⟩ :=
    (hturn.trans hleads) (start engine fetcher request) ⟨rfl, rfl, fun _ => rfl⟩
  refine ⟨course, hrun, ?_, ?_⟩
  · rcases hrests with ⟨outcome, hended⟩ | hcollects
    · exact Or.inl ⟨outcome, (congrArg Call.progress hcall).trans hended⟩
    · obtain ⟨source, arrived, hcollecting⟩ := hcollects
      have hsame := hqueue (Or.inr ⟨source, arrived, hcollecting⟩)
      exact Or.inr ⟨⟨source, arrived, (congrArg Call.progress hcall).trans hcollecting⟩,
        (congrArg FetchQueue.ready hsame).trans hready⟩
  · have hone : [last].mapM (·.call.progress.outcome?)
        = (course.progress.outcome?).map ([·]) := by
      rw [progress, hcall, List.mapM_cons, List.mapM_nil]
      cases last.call.progress.outcome? <;> rfl
    have hround : RunningCall.round engine [.ofRequest fetcher request]
        = ((RunningCall.turn engine (.ofRequest fetcher request)).1,
          [(RunningCall.turn engine (.ofRequest fetcher request)).2]) := rfl
    rw [Engine.compile, Engine.compileAll, List.map_singleton, hround]
    dsimp only
    rw [hcalls, hone, hengine]
    cases course.progress.outcome? <;> rfl

end Course

/-- A call that finds no kept template does nothing behind the first stage that fails, whatever the
order in which it and its fetches take their turns. Compiling a request is one such course, and the
call has ended then, unless its modules leave it without an end. -/
theorem Engine.compile_failFast {engine : Engine} {request : Request}
    (hmissed : engine.cached? request = none) (fetcher : Fetcher) :
    (∀ course, ReflTransGen Course.Step (.start engine fetcher request) course →
        course.IsFailFast engine fetcher request)
      ∧ ∃ course, ReflTransGen Course.Step (.start engine fetcher request) course
          ∧ engine.compile fetcher request = (course.engine, course.progress.outcome?)
          ∧ (course.HasEnded ∨ request.IsEndless fetcher) := by
  refine ⟨fun _ => Course.isFailFast hmissed, ?_⟩
  obtain ⟨course, hrun, hrests, hcompile⟩ := Course.exists_course_compile engine fetcher request
  exact ⟨course, hrun, hcompile,
    hrests.imp_right (·.isEndless (Course.explains_of_reflTransGen hmissed hrun))⟩

/-- A template whose module of model types is missing is not given to the backend, and nothing is
kept. -/
theorem Engine.exists_compile_missing :
    ∃ (engine : Engine) (fetcher : Fetcher) (request : Request) (e : Error),
      engine.cached? request = none ∧ (engine.compile fetcher request).2 = some (.error e)
        ∧ (engine.compile fetcher request).1.built = []
        ∧ (engine.compile fetcher request).1.kept = some [] := by
  let request : Request := ⟨"Total: @Model.Total", ⟨"billing::Invoice", "billing", false⟩⟩
  let engine : Engine := ⟨.interpreter, .empty, false, some [], 0, [], []⟩
  let fetcher : Fetcher := fun module =>
    ⟨0, some (if module = "billing" then .error (.notFound "billing") else .ok .empty)⟩
  have hlisted : "billing" ∈ request.references.toList := by decide +kernel
  have hmissed : engine.cached? request = none := rfl
  obtain ⟨hall, course, hrun, hcompile, hended⟩ := compile_failFast hmissed fetcher
  have hcourse := hall course hrun
  -- The module never arrives, so there are no references.
  have hnever : ∀ references,
      ¬ request.references.Gathers (completions course.events) references := by
    intro references hgathers
    rw [← hgathers.names, Dictionary.mem_names_iff] at hlisted
    obtain ⟨bytes, hbytes⟩ := hlisted
    have hfetched := (hcourse.fetches.2 _ ((hgathers.bytes _ _).mp hbytes)).2
    cases hfetched
  have hbuilt : course.engine.built = [] := by
    rcases hcourse.builds with hsame | ⟨_, references, -, hgathers, -⟩
    · exact hsame
    · exact absurd hgathers (hnever references)
  obtain ⟨hnone, -, hkept⟩ := hcourse.makes.resolve_right
    fun ⟨_, ⟨_, references, _, _, hgathers, _⟩, _⟩ => hnever references hgathers
  rcases hended with ⟨outcome, hended⟩ | ⟨⟨module, -, hsilent⟩, -⟩
  · cases outcome with
    | error e =>
      refine ⟨engine, fetcher, request, e, hmissed, ?_⟩
      rw [hcompile, hended]
      exact ⟨rfl, hbuilt, hkept⟩
    | ok template =>
      rw [hended] at hnone
      cases hnone
  · cases hsilent

end Stencil
