import Mathlib
import Stencil.Engine.Schedule
import Stencil.Proofs.Engine.Cache

/-!
# Calls that take turns

Calls that take turns do nothing that calls cannot do in any order: what compiling requests together
comes to is what some moves come to (`Engine.exists_run_compileAll`). So an engine that keeps
templates answers them as it would without (`Engine.givesAlone_of_compileAll`).
-/

namespace Stencil

variable {fetcher : Fetcher}

/-! ## Queues -/

/-- What a fetch does to a call. -/
def Deed.ofEvent : FetchEvent → Deed
  | .asked module => .ask module
  | .completed completion => .deliver completion.module

/-- The fetches that are out for a call. They are for modules of its request that have not arrived,
and they will answer what the source answers. -/
structure Call.IsServedBy (fetcher : Fetcher) (call : Call) (fetches : List Pending) : Prop where
  /-- A module is fetched once. -/
  once : (fetches.map (·.module)).Nodup
  /-- The answers are those of the source. -/
  replies : ∀ fetch ∈ fetches, fetch.reply.outcome = (fetcher fetch.module).outcome
  /-- The modules are those of the request. -/
  listed : ∀ fetch ∈ fetches, fetch.module ∈ call.request.references.toList
  /-- None of the modules has arrived. -/
  missing : ∀ source arrived, call.progress = .collecting source arrived →
    ∀ fetch ∈ fetches, arrived.get? fetch.module = none

namespace Call

variable {engine : Engine} {call : Call} {fetches rest : List Pending} {fetch : Pending}

theorem isServedBy_nil (fetcher : Fetcher) (call : Call) : call.IsServedBy fetcher [] where
  once := List.nodup_nil
  replies := by simp
  listed := by simp
  missing := by simp

theorem IsServedBy.of_cons (h : call.IsServedBy fetcher (fetch :: rest)) :
    call.IsServedBy fetcher rest where
  once := (List.nodup_cons.mp h.once).2
  replies fetch hfetch := h.replies fetch (List.mem_cons_of_mem _ hfetch)
  listed fetch hfetch := h.listed fetch (List.mem_cons_of_mem _ hfetch)
  missing source arrived hprogress fetch hfetch :=
    h.missing source arrived hprogress fetch (List.mem_cons_of_mem _ hfetch)

/-- A fetch that suspends goes to the end of the queue. -/
theorem IsServedBy.suspend {module : String} {started : Bool} {suspensions : Nat}
    {outcome : Option (Except FetchError ByteArray)}
    (h : call.IsServedBy fetcher (⟨module, started, ⟨suspensions + 1, outcome⟩⟩ :: rest)) :
    call.IsServedBy fetcher (rest ++ [⟨module, true, ⟨suspensions, outcome⟩⟩]) := by
  obtain ⟨hnot, honce⟩ := List.nodup_cons.mp h.once
  have hreply := h.replies _ List.mem_cons_self
  have hlisted := h.listed _ List.mem_cons_self
  have hrest := h.of_cons
  refine ⟨?_, ?_, ?_, fun source arrived hprogress => ?_⟩
  · rw [List.map_append, List.map_singleton]
    exact List.nodup_append_comm.mp (List.nodup_cons.mpr ⟨hnot, honce⟩)
  · exact List.forall_mem_append.mpr ⟨hrest.replies, List.forall_mem_singleton.mpr hreply⟩
  · exact List.forall_mem_append.mpr ⟨hrest.listed, List.forall_mem_singleton.mpr hlisted⟩
  · have hmissing := h.missing source arrived hprogress _ List.mem_cons_self
    exact List.forall_mem_append.mpr
      ⟨hrest.missing source arrived hprogress, List.forall_mem_singleton.mpr hmissing⟩

/-- What is seen of the fetches is what happens to the call, and the queue is what is out then. -/
def Follows (fetcher : Fetcher) (call : Call) (events : List FetchEvent) (queue : FetchQueue) :
    Prop :=
  ∀ engine, RunningCall.observe engine call events
      = call.takeAll fetcher engine (events.map Deed.ofEvent)
    ∧ (RunningCall.observe engine call events).2.IsServedBy fetcher queue.ready

theorem IsServedBy.follows_nil (h : call.IsServedBy fetcher fetches) (silent : Nat) :
    call.Follows fetcher [] ⟨fetches, silent⟩ :=
  fun _ => ⟨rfl, h⟩

/-- The first turn of a fetch asks for its module and leaves the call as it is. -/
theorem Follows.firstTurn {events : List FetchEvent} {queue : FetchQueue}
    (h : call.Follows fetcher events queue) (fetch : Pending) :
    call.Follows fetcher (FetchQueue.firstTurn fetch ++ events) queue := by
  intro engine
  rw [FetchQueue.firstTurn]
  split
  · exact h engine
  · obtain ⟨request, progress⟩ := call
    cases progress with
    | collecting source arrived => exact h (engine.ask fetch.module)
    | issued => exact h engine
    | ready source references => exact h engine
    | made template => exact h engine
    | ended outcome => exact h engine

/-- A fetch that answers is one that the call waits for, or the call takes no notice. -/
theorem IsServedBy.observe_completed {module : String} {started : Bool}
    {outcome : Except FetchError ByteArray}
    (h : call.IsServedBy fetcher (⟨module, started, ⟨0, some outcome⟩⟩ :: rest)) (engine : Engine) :
    call.observe engine (.completed ⟨module, outcome⟩)
      = call.take fetcher engine (.deliver module) := by
  have hreply := h.replies _ List.mem_cons_self
  have hlisted := h.listed _ List.mem_cons_self
  obtain ⟨request, progress⟩ := call
  cases progress with
  | collecting source arrived =>
    have hmissing := h.missing source arrived rfl _ List.mem_cons_self
    have hawaits : awaits ⟨request, .collecting source arrived⟩ module = true :=
      List.contains_iff_mem.mpr (ReferenceSet.mem_unresolved_iff.mpr ⟨hlisted, hmissing⟩)
    rw [take, hawaits, ← hreply]
  | issued => rfl
  | ready source references => rfl
  | made template => rfl
  | ended result => rfl

/-- When a module has arrived, the other fetches are out as before. -/
theorem IsServedBy.of_arrived {module : String} {started : Bool} {bytes : ByteArray}
    (h : call.IsServedBy fetcher (⟨module, started, ⟨0, some (.ok bytes)⟩⟩ :: rest))
    (engine : Engine) :
    (call.observe engine (.completed ⟨module, .ok bytes⟩)).2.IsServedBy fetcher rest := by
  have hrest := h.of_cons
  obtain ⟨hnot, -⟩ := List.nodup_cons.mp h.once
  obtain ⟨request, progress⟩ := call
  cases progress with
  | collecting source arrived =>
    refine ⟨hrest.once, hrest.replies, hrest.listed, fun source' arrived' hprogress => ?_⟩
    -- What has arrived now is what had arrived and the module.
    have harrived : arrived' = arrived.insert module bytes := by
      change Progress.ofResolution source
        (request.references.resolveFrom (arrived.insert module bytes) []) = _ at hprogress
      rw [ReferenceSet.resolveFrom] at hprogress
      split at hprogress
      · cases hprogress
      · exact (Progress.collecting.inj hprogress).2.symm
    intro fetch hfetch
    have hne : fetch.module ≠ module := fun heq =>
      hnot (List.mem_map.mpr ⟨fetch, hfetch, heq⟩)
    rw [harrived, Dictionary.get?_insert, if_neg hne]
    exact hrest.missing source arrived rfl fetch hfetch
  | issued => exact hrest
  | ready source references => exact hrest
  | made template => exact hrest
  | ended result => exact hrest

theorem IsServedBy.follows_completed {module : String} {started : Bool}
    {outcome : Except FetchError ByteArray} {events : List FetchEvent} {queue : FetchQueue}
    (h : call.IsServedBy fetcher (⟨module, started, ⟨0, some outcome⟩⟩ :: rest))
    (hlater : ∀ engine, (call.observe engine (.completed ⟨module, outcome⟩)).2.Follows fetcher
      events queue) :
    call.Follows fetcher (.completed ⟨module, outcome⟩ :: events) queue := by
  intro engine
  rw [List.map_cons, Deed.ofEvent, takeAll_cons, ← h.observe_completed engine]
  exact hlater engine _

/-- Serving a queue is a sequence of things that happen to the call. -/
theorem follows_serve (fetcher : Fetcher) (served suspended silent : Nat)
    (fetches : List Pending) : ∀ call : Call, call.IsServedBy fetcher fetches →
      call.Follows fetcher (FetchQueue.serve served suspended silent fetches).1
        (FetchQueue.serve served suspended silent fetches).2 := by
  fun_induction FetchQueue.serve served suspended silent fetches with
  | case1 served suspended silent => exact fun call h => h.follows_nil silent
  | case2 served suspended silent module started suspensions outcome rest fetch ready hstop =>
    intro call h
    have hqueue := (h.suspend.follows_nil silent).firstTurn fetch
    rwa [List.append_nil] at hqueue
  | case3 served suspended silent module started suspensions outcome rest fetch ready hgoes events
      queue hserve ih =>
    intro call h
    rw [hserve] at ih
    exact (ih call h.suspend).firstTurn fetch
  | case4 served suspended silent module started rest fetch hstop =>
    intro call h
    have hqueue := (h.of_cons.follows_nil (silent + 1)).firstTurn fetch
    rwa [List.append_nil] at hqueue
  | case5 served suspended silent module started rest fetch hgoes events queue hserve ih =>
    intro call h
    rw [hserve] at ih
    exact (ih call h.of_cons).firstTurn fetch
  | case6 served suspended silent module started cause rest fetch =>
    intro call h
    have hlast := h.follows_completed fun engine => (isServedBy_nil fetcher _).follows_nil 0
    exact hlast.firstTurn fetch
  | case7 served suspended silent module started bytes rest fetch events queue hserve ih =>
    intro call h
    rw [hserve] at ih
    exact (h.follows_completed fun engine => ih _ (h.of_arrived engine)).firstTurn fetch

theorem eq_empty_of_start {request : Request} {source : Source.Generated} {arrived : References}
    (h : start engine request = .collecting source arrived) : arrived = ∅ := by
  unfold start at h
  split at h
  · cases h
  · split at h
    · cases h
    · rw [ReferenceSet.resolve, ReferenceSet.resolveFrom] at h
      split at h
      · cases h
      · exact (Progress.collecting.inj h).2.symm

/-- A step that a call takes by itself leaves its fetches out. -/
theorem IsServedBy.advance (h : call.IsServedBy fetcher fetches) (engine : Engine) :
    (call.advance engine).2.IsServedBy fetcher fetches := by
  obtain ⟨request, progress⟩ := call
  cases progress with
  | issued =>
    refine ⟨h.once, h.replies, h.listed, fun source arrived hprogress fetch _ => ?_⟩
    rw [eq_empty_of_start hprogress]
    rfl
  | collecting source arrived => exact h
  | ready source references =>
    cases hbuild : (engine.backend.build source references).bind (Unit.load · request.model) with
    | error e =>
      rw [advance_of_error hbuild]
      exact ⟨h.once, h.replies, h.listed, nofun⟩
    | ok renderer =>
      rw [advance_of_ok hbuild]
      exact ⟨h.once, h.replies, h.listed, nofun⟩
  | made template => exact ⟨h.once, h.replies, h.listed, nofun⟩
  | ended outcome => exact h

end Call

/-! ## Turns -/

namespace RunningCall

variable {engine : Engine} {running : RunningCall} {result : Engine × RunningCall}

/-- The queue of a call holds the fetches that are out for it. -/
def IsServed (fetcher : Fetcher) (running : RunningCall) : Prop :=
  running.call.IsServedBy fetcher running.queue.ready

/-- A part of a turn: several things happen to the call, and its queue is served. -/
structure Goes (fetcher : Fetcher) (engine : Engine) (running : RunningCall)
    (result : Engine × RunningCall) : Prop where
  /-- What happens to the call may happen to it. -/
  deeds : ∃ deeds, running.call.takeAll fetcher engine deeds = (result.1, result.2.call)
  /-- The queue holds the fetches that are out. -/
  served : result.2.IsServed fetcher

theorem Goes.trans {result' : Engine × RunningCall} (h : Goes fetcher engine running result)
    (h' : Goes fetcher result.1 result.2 result') : Goes fetcher engine running result' := by
  obtain ⟨⟨front, hfront⟩, -⟩ := h
  obtain ⟨⟨rest, hrest⟩, hserved⟩ := h'
  refine ⟨⟨front ++ rest, ?_⟩, hserved⟩
  rw [Call.takeAll_append, hfront]
  exact hrest

theorem goes_advance (h : running.IsServed fetcher) (engine : Engine) :
    Goes fetcher engine running
      ((running.call.advance engine).1, { running with call := (running.call.advance engine).2 }) :=
  ⟨⟨[.advance], rfl⟩, h.advance engine⟩

theorem goes_start (h : running.IsServed fetcher) (engine : Engine) :
    Goes fetcher engine running (running.start engine) := by
  rw [start]
  split
  · exact goes_advance h engine
  · exact ⟨⟨[], rfl⟩, h⟩

theorem goes_serve (h : running.IsServed fetcher) (engine : Engine) :
    Goes fetcher engine running (running.serve engine) := by
  rw [serve]
  split
  · obtain ⟨hdeeds, hserved⟩ := Call.follows_serve fetcher 0 0 _ _ running.call h engine
    exact ⟨⟨_, hdeeds.symm⟩, hserved⟩
  · exact ⟨⟨[], rfl⟩, Call.isServedBy_nil fetcher _⟩

theorem goes_settle (h : running.IsServed fetcher) (engine : Engine) :
    Goes fetcher engine running (running.settle engine) :=
  have hfirst := goes_advance h engine
  hfirst.trans (goes_advance hfirst.served _)

/-- A turn is a sequence of things that happen to the call. -/
theorem goes_turn (h : running.IsServed fetcher) (engine : Engine) :
    Goes fetcher engine running (running.turn engine) := by
  have hstart := goes_start h engine
  have hserve := hstart.trans (goes_serve hstart.served _)
  exact hserve.trans (goes_settle hserve.served _)

theorem Goes.request_eq (h : Goes fetcher engine running result) :
    result.2.call.request = running.call.request := by
  obtain ⟨deeds, hdeeds⟩ := h.deeds
  rw [← Call.request_takeAll fetcher engine running.call deeds, hdeeds]

/-! ## Rounds -/

/-- Several turns of several calls: what happens to them may happen to them in any order. -/
structure GoAll (fetcher : Fetcher) (engine : Engine) (front : List Call)
    (calls : List RunningCall) (result : Engine × List RunningCall) : Prop where
  /-- What happens is a sequence of moves, and the calls in front are left alone. -/
  moves : ∃ moves, (System.mk engine (front ++ calls.map (·.call))).run fetcher moves
    = ⟨result.1, front ++ result.2.map (·.call)⟩
  /-- The queues hold the fetches that are out. -/
  served : ∀ running ∈ result.2, running.IsServed fetcher
  /-- The requests are those of the calls. -/
  requests : result.2.map (·.call.request) = calls.map (·.call.request)

theorem GoAll.trans {front : List Call} {calls : List RunningCall}
    {result result' : Engine × List RunningCall} (h : GoAll fetcher engine front calls result)
    (h' : GoAll fetcher result.1 front result.2 result') :
    GoAll fetcher engine front calls result' := by
  obtain ⟨⟨moves, hmoves⟩, -, hrequests⟩ := h
  obtain ⟨⟨later, hlater⟩, hserved, hrequests'⟩ := h'
  refine ⟨⟨moves ++ later, ?_⟩, hserved, hrequests'.trans hrequests⟩
  rw [System.run_append, hmoves, hlater]

theorem goAll_round {calls : List RunningCall} (h : ∀ running ∈ calls, running.IsServed fetcher)
    (engine : Engine) (front : List Call) :
    GoAll fetcher engine front calls (round engine calls) := by
  induction calls generalizing engine front with
  | nil => exact ⟨⟨[], rfl⟩, nofun, rfl⟩
  | cons running calls ih =>
    obtain ⟨hfirst, hlater⟩ := List.forall_mem_cons.mp h
    have hturn := goes_turn hfirst engine
    obtain ⟨deeds, hdeeds⟩ := hturn.deeds
    have hstep := Call.run_step fetcher engine front running.call (calls.map (·.call)) deeds
    rw [hdeeds] at hstep
    -- The calls behind take their turns with this one among the calls in front of them.
    obtain ⟨⟨moves, hmoves⟩, hserved, hrequests⟩ :=
      ih hlater (running.turn engine).1 (front ++ [(running.turn engine).2.call])
    rw [List.append_assoc, List.append_assoc] at hmoves
    refine ⟨⟨deeds.map (.step front.length) ++ moves, ?_⟩, ?_, ?_⟩
    · rw [System.run_append, List.map_cons, hstep]
      exact hmoves
    · exact List.forall_mem_cons.mpr ⟨hturn.served, hserved⟩
    · rw [round, List.map_cons, List.map_cons, hturn.request_eq, hrequests]

theorem goAll_rounds (engine : Engine) (calls : List RunningCall)
    (h : ∀ running ∈ calls, running.IsServed fetcher) :
    GoAll fetcher engine [] calls (rounds engine calls) := by
  fun_induction rounds engine calls with
  | case1 engine calls hany ih =>
    have hround := goAll_round h engine []
    exact hround.trans (ih hround.served)
  | case2 engine calls hnone => exact ⟨⟨[], rfl⟩, h, rfl⟩

/-- The fetches of a call that has not started are those of all its modules. -/
theorem isServed_ofRequest (fetcher : Fetcher) (request : Request) :
    (ofRequest fetcher request).IsServed fetcher := by
  have hmodules : (ofRequest fetcher request).queue.ready.map (·.module)
      = request.references.toList := by
    rw [ofRequest, FetchQueue.ofSet, List.map_map]
    exact List.map_id _
  refine ⟨?_, ?_, ?_, nofun⟩
  · rw [hmodules]
    exact request.references.pairwise_toList.imp String.ne_of_lt
  · simp [ofRequest, FetchQueue.ofSet]
  · simp [ofRequest, FetchQueue.ofSet, Call.ofRequest]

end RunningCall

/-! ## Compiling requests together -/

theorem System.run_issue (fetcher : Fetcher) (engine : Engine) (calls : List Call)
    (requests : List Request) :
    (System.mk engine calls).run fetcher (requests.map .issue)
      = ⟨engine, calls ++ requests.map .ofRequest⟩ := by
  induction requests generalizing calls with
  | nil => rw [List.map_nil, List.map_nil, List.append_nil]; rfl
  | cons request requests ih =>
    rw [List.map_cons, List.map_cons, List.append_cons]
    exact ih _

namespace Engine

/-- Requests that are compiled together are calls that are made one after the other and then take
their steps in some order. -/
theorem exists_run_compileAll (engine : Engine) (fetcher : Fetcher) (requests : List Request) :
    ∃ moves calls,
      (System.mk engine []).run fetcher moves = ⟨(engine.compileAll fetcher requests).1, calls⟩
        ∧ calls.map (·.request) = requests
        ∧ (engine.compileAll fetcher requests).2 = calls.mapM (·.progress.outcome?) := by
  let started := requests.map (RunningCall.ofRequest fetcher)
  have hserved : ∀ running ∈ started, running.IsServed fetcher := by
    intro running hrunning
    obtain ⟨request, -, rfl⟩ := List.mem_map.mp hrunning
    exact RunningCall.isServed_ofRequest fetcher request
  let round := RunningCall.round engine started
  let result := RunningCall.rounds round.1 round.2
  have hround : RunningCall.GoAll fetcher engine [] started round :=
    RunningCall.goAll_round hserved engine []
  have hresult : RunningCall.GoAll fetcher engine [] started result :=
    hround.trans (RunningCall.goAll_rounds round.1 round.2 hround.served)
  obtain ⟨moves, hmoves⟩ := hresult.moves
  have hcalls : started.map (·.call) = requests.map .ofRequest := by
    rw [List.map_map]
    rfl
  have hrequests : started.map (·.call.request) = requests := by
    rw [List.map_map]
    exact List.map_id _
  refine ⟨requests.map .issue ++ moves, result.2.map (·.call), ?_, ?_, ?_⟩
  · rw [System.run_append, System.run_issue, ← hcalls, hmoves]
    rfl
  · rw [List.map_map]
    exact hresult.requests.trans hrequests
  · rw [List.mapM_map]
    rfl

/-- An engine that keeps templates answers requests that are compiled together as it would answer
each of them by itself without kept templates. -/
theorem givesAlone_of_compileAll {engine : Engine} (hcache : engine.cache = []) {fetcher : Fetcher}
    {requests : List Request} {outcomes : List (Except Error Template)}
    (h : (engine.compileAll fetcher requests).2 = some outcomes) :
    List.Forall₂ (fun request outcome =>
      request.GivesAlone fetcher engine (outcome.toOption.map (·.renderer))) requests outcomes := by
  obtain ⟨moves, calls, hrun, rfl, hcalls⟩ := engine.exists_run_compileAll fetcher requests
  have hgives : ∀ call ∈ calls, ∀ outcome, call.progress.outcome? = some outcome →
      call.request.GivesAlone fetcher engine (outcome.toOption.map (·.renderer)) := by
    intro call hcall outcome houtcome
    have hsound := System.isSound_run (System.isSound_start fetcher hcache) moves
    rw [hrun] at hsound
    exact (hsound.calls call hcall).givesAlone (Progress.eq_ended_of_outcome? houtcome)
  rw [hcalls] at h
  clear hcalls hrun
  rw [List.forall₂_map_left_iff]
  induction calls generalizing outcomes with
  | nil =>
    obtain rfl := Option.some.inj h
    exact .nil
  | cons call calls ih =>
    obtain ⟨hcall, hlater⟩ := List.forall_mem_cons.mp hgives
    rw [List.mapM_cons] at h
    obtain ⟨outcome, houtcome, h⟩ := Option.bind_eq_some_iff.mp h
    obtain ⟨others, hothers, h⟩ := Option.bind_eq_some_iff.mp h
    obtain rfl := Option.some.inj h
    exact .cons (hcall outcome houtcome) (ih hothers hlater)

end Engine

end Stencil
