import Stencil.Engine.Call

/-!
# Schedules of calls

Calls that are made together take turns in the order of their requests. In its turn a call serves
its queue of fetches and goes on as far as it can. Turns are taken until every call has ended or
only fetches are left that never answer.
-/

namespace Stencil

/-- A call with its fetches. -/
structure RunningCall where
  /-- The call. -/
  call : Call
  /-- The fetches that are out. -/
  queue : FetchQueue

namespace RunningCall

/-! ## Turns -/

/-- A call that has not started, with the fetches that it will need. -/
def ofRequest (fetcher : Fetcher) (request : Request) : RunningCall where
  call := .ofRequest request
  queue := .ofSet request.references fetcher

/-- Lets a call see what its fetches do. -/
def observe (engine : Engine) (call : Call) (events : List FetchEvent) : Engine × Call :=
  events.foldl (fun state event => state.2.observe state.1 event) (engine, call)

/-- Starts a call that has not started. -/
def start (engine : Engine) (running : RunningCall) : Engine × RunningCall :=
  match running.call.progress with
  | .issued =>
    let (engine, call) := running.call.advance engine
    (engine, { running with call })
  | _ => (engine, running)

/-- Serves the fetches of a call that collects modules, and drops those of any other. -/
def serve (engine : Engine) (running : RunningCall) : Engine × RunningCall :=
  match running.call.progress with
  | .collecting .. =>
    let (events, queue) := running.queue.wake
    let (engine, call) := observe engine running.call events
    (engine, { call, queue })
  | _ => (engine, { running with queue := .idle })

/-- Goes on with a call whose modules have all arrived: it builds and keeps its template. -/
def settle (engine : Engine) (running : RunningCall) : Engine × RunningCall :=
  let (engine, call) := running.call.advance engine
  let (engine, call) := call.advance engine
  (engine, { running with call })

/-- Takes a turn. -/
def turn (engine : Engine) (running : RunningCall) : Engine × RunningCall :=
  let (engine, running) := running.start engine
  let (engine, running) := running.serve engine
  running.settle engine

/-- A round: a turn of every call in order. -/
def round (engine : Engine) : List RunningCall → Engine × List RunningCall
  | [] => (engine, [])
  | running :: rest =>
    let (engine, running) := running.turn engine
    let (engine, rest) := round engine rest
    (engine, running :: rest)

/-! ## Progress -/

/-- How many turns the fetches of the calls can still take. -/
def work : List RunningCall → Nat
  | [] => 0
  | running :: rest => FetchQueue.turns running.queue.ready + work rest

theorem queue_start (engine : Engine) (running : RunningCall) :
    (running.start engine).2.queue = running.queue := by
  unfold start
  split <;> rfl

/-- A turn takes work off the queue of a call, unless no fetch waits for a turn. -/
theorem turns_turn_le (engine : Engine) (running : RunningCall) :
    FetchQueue.turns (running.turn engine).2.queue.ready
        ≤ FetchQueue.turns running.queue.ready ∧
      (running.queue.ready ≠ [] →
        FetchQueue.turns (running.turn engine).2.queue.ready
          < FetchQueue.turns running.queue.ready) := by
  have hserve := FetchQueue.turns_serve_le 0 0 running.queue.silent running.queue.ready
  have hqueue : (running.turn engine).2.queue
      = ((running.start engine).2.serve (running.start engine).1).2.queue := rfl
  rw [hqueue]
  unfold serve
  split
  · simpa only [queue_start, FetchQueue.wake] using hserve
  · refine ⟨Nat.zero_le _, fun h => ?_⟩
    obtain ⟨fetch, rest, h⟩ := List.exists_cons_of_ne_nil h
    simp only [h, FetchQueue.idle, FetchQueue.turns]
    omega

theorem work_round_le (engine : Engine) (calls : List RunningCall) :
    work (round engine calls).2 ≤ work calls := by
  induction calls generalizing engine with
  | nil => exact Nat.le_refl _
  | cons running rest ih =>
    have := (turns_turn_le engine running).1
    have := ih (running.turn engine).1
    simp only [round, work] at *
    omega

/-- A round makes progress as long as a fetch waits for a turn. -/
theorem work_round_lt (engine : Engine) {calls : List RunningCall}
    (h : calls.any (!·.queue.ready.isEmpty) = true) :
    work (round engine calls).2 < work calls := by
  induction calls generalizing engine with
  | nil => simp at h
  | cons running rest ih =>
    obtain ⟨hle, hlt⟩ := turns_turn_le engine running
    have hrest := work_round_le (running.turn engine).1 rest
    rw [List.any_cons, Bool.or_eq_true] at h
    rcases h with h | h
    · have := hlt (by simpa using h)
      simp only [round, work] at *
      omega
    · have := ih (running.turn engine).1 h
      simp only [round, work] at *
      omega

/-- Takes rounds until every fetch has ended or will never answer. -/
def rounds (engine : Engine) (calls : List RunningCall) : Engine × List RunningCall :=
  if _h : calls.any (!·.queue.ready.isEmpty) = true then
    rounds (round engine calls).1 (round engine calls).2
  else (engine, calls)
termination_by work calls
decreasing_by exact work_round_lt engine ‹_›

end RunningCall

/-! ## Compiling -/

namespace Engine

/-- Compiles requests together. There is no answer if one of the calls never ends. -/
def compileAll (engine : Engine) (fetcher : Fetcher) (requests : List Request) :
    Engine × Option (List (Except Error Template)) :=
  let (engine, calls) := RunningCall.round engine (requests.map (RunningCall.ofRequest fetcher))
  let (engine, calls) := RunningCall.rounds engine calls
  (engine, calls.mapM (·.call.progress.outcome?))

/-- Compiles one request. -/
def compile (engine : Engine) (fetcher : Fetcher) (request : Request) :
    Engine × Option (Except Error Template) :=
  let (engine, outcomes) := engine.compileAll fetcher [request]
  (engine, outcomes.bind List.head?)

end Engine

end Stencil
