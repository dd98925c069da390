import Stencil.Module.Resolution

/-!
# The queue of fetches

A fetch answers after a number of suspensions, or never. Fetches take turns: one that suspends goes
to the end of the queue. The queue is served until it has to be woken again. That is so when a
second fetch in a row has suspended, and when every fetch that is still out has had a turn since
the last one that completed.
-/

namespace Stencil

/-- How a module is served: the number of suspensions, and the answer if there ever is one. -/
structure Reply where
  /-- How often the fetch suspends before it goes on. -/
  suspensions : Nat
  /-- Its end; without one it never ends. -/
  outcome : Option (Except FetchError ByteArray)

/-- A source of modules. -/
abbrev Fetcher := String → Reply

/-- The catalog as a source of modules, which answers at once. -/
def Catalog.fetcher (catalog : Catalog) : Fetcher :=
  fun module => ⟨0, some (catalog.fetch module)⟩

/-- A fetch in the queue. -/
structure Pending where
  /-- The module. -/
  module : String
  /-- Whether the fetch has had a turn. -/
  started : Bool
  /-- What is left of its reply. -/
  reply : Reply

/-- Something that happens while a queue is served. -/
inductive FetchEvent where
  /-- A module is asked for. -/
  | asked (module : String)
  /-- A fetch ends. -/
  | completed (completion : Completion)

/-- The fetches that are out. -/
structure FetchQueue where
  /-- The fetches that will have a turn, in order. -/
  ready : List Pending
  /-- How many fetches will never answer. -/
  silent : Nat

namespace FetchQueue

/-- The queue without fetches. -/
def idle : FetchQueue where
  ready := []
  silent := 0

/-- The queue of the modules of a set. -/
def ofSet (set : ReferenceSet) (fetcher : Fetcher) : FetchQueue where
  ready := set.toList.map fun module => ⟨module, false, fetcher module⟩
  silent := 0

/-- How many turns the fetches in the queue can still take. -/
def turns : List Pending → Nat
  | [] => 0
  | fetch :: rest => fetch.reply.suspensions + 1 + turns rest

theorem turns_append (ready more : List Pending) :
    turns (ready ++ more) = turns ready + turns more := by
  induction ready with
  | nil => simp [turns]
  | cons fetch rest ih => simp only [List.cons_append, turns, ih, Nat.add_assoc]

/-- The first turn of a fetch asks for its module. -/
def firstTurn (fetch : Pending) : List FetchEvent :=
  if fetch.started then [] else [.asked fetch.module]

/-- Serves the queue until it has to be woken again or a fetch has failed. `served` fetches have had
a turn since the last one completed, and `suspended` of them have suspended. -/
def serve (served suspended silent : Nat) (ready : List Pending) : List FetchEvent × FetchQueue :=
  match ready with
  | [] => ([], ⟨[], silent⟩)
  | ⟨module, started, ⟨suspensions + 1, outcome⟩⟩ :: rest =>
    let fetch : Pending := ⟨module, started, ⟨suspensions + 1, outcome⟩⟩
    let ready := rest ++ [⟨module, true, ⟨suspensions, outcome⟩⟩]
    if 1 ≤ suspended ∨ served + 1 = ready.length + silent then (firstTurn fetch, ⟨ready, silent⟩)
    else
      let (events, queue) := serve (served + 1) (suspended + 1) silent ready
      (firstTurn fetch ++ events, queue)
  | ⟨module, started, ⟨0, none⟩⟩ :: rest =>
    let fetch : Pending := ⟨module, started, ⟨0, none⟩⟩
    if served + 1 = rest.length + (silent + 1) then (firstTurn fetch, ⟨rest, silent + 1⟩)
    else
      let (events, queue) := serve (served + 1) suspended (silent + 1) rest
      (firstTurn fetch ++ events, queue)
  | ⟨module, started, ⟨0, some (.error cause)⟩⟩ :: _ =>
    let fetch : Pending := ⟨module, started, ⟨0, some (.error cause)⟩⟩
    (firstTurn fetch ++ [.completed ⟨module, .error cause⟩], ⟨[], 0⟩)
  | ⟨module, started, ⟨0, some (.ok bytes)⟩⟩ :: rest =>
    let fetch : Pending := ⟨module, started, ⟨0, some (.ok bytes)⟩⟩
    let (events, queue) := serve 0 0 silent rest
    (firstTurn fetch ++ .completed ⟨module, .ok bytes⟩ :: events, queue)
termination_by turns ready
decreasing_by
  all_goals simp only [turns, turns_append]
  all_goals omega

/-- Serves a queue that has been woken. -/
def wake (queue : FetchQueue) : List FetchEvent × FetchQueue :=
  serve 0 0 queue.silent queue.ready

/-- Serving takes turns off the queue, unless no fetch waits for one. -/
theorem turns_serve_le (served suspended silent : Nat) (ready : List Pending) :
    turns (serve served suspended silent ready).2.ready ≤ turns ready ∧
      (ready ≠ [] → turns (serve served suspended silent ready).2.ready < turns ready) := by
  fun_induction serve served suspended silent ready with
  | case1 => simp [turns]
  | case2 _ _ _ _ _ _ _ _ fetch ready =>
    simp only [ready, turns, turns_append]
    omega
  | case3 _ _ _ _ _ _ _ _ fetch ready _ events queue heq ih =>
    rw [heq] at ih
    have h := ih.1
    simp only [ready, turns, turns_append] at h ⊢
    omega
  | case4 =>
    simp only [turns]
    omega
  | case5 _ _ _ _ _ _ _ _ events queue heq ih =>
    rw [heq] at ih
    have h := ih.1
    simp only [turns] at h ⊢
    omega
  | case6 =>
    simp only [turns]
    omega
  | case7 _ _ _ _ _ _ _ _ events queue heq ih =>
    rw [heq] at ih
    have h := ih.1
    simp only [turns] at h ⊢
    omega

/-- All that happens when the queue is woken again and again. -/
def events (queue : FetchQueue) : List FetchEvent :=
  match _h : queue.ready with
  | [] => []
  | _ :: _ => queue.wake.1 ++ queue.wake.2.events
termination_by turns queue.ready
decreasing_by
  exact (turns_serve_le 0 0 queue.silent queue.ready).2 (by simp [‹queue.ready = _›])

end FetchQueue

/-- The ends of fetches among events. -/
def completions (events : List FetchEvent) : List Completion :=
  events.filterMap fun
    | .completed completion => some completion
    | .asked _ => none

/-- Resolves a set through a source of modules. -/
def ReferenceSet.resolveBy (set : ReferenceSet) (fetcher : Fetcher) : Resolution :=
  set.resolve (completions (FetchQueue.ofSet set fetcher).events)

end Stencil
