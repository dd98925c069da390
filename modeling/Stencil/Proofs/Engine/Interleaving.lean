import Mathlib
import Stencil.Proofs.Engine.Pipeline

/-!
# Calls in any order

Calls on one engine take their steps in any order, and their modules arrive in any order. Whatever
has happened, calls have ended as their requests demand and what is kept is what they lead to
(`System.isSound_run`), an outcome stays (`System.exists_continues_run`), and the engine keeps one
template for every request that a call has succeeded with (`System.isTallied_run`).
-/

namespace Stencil

/-! ## Moves -/

/-- What may happen to a call. -/
inductive Deed where
  /-- It takes a step by itself. -/
  | advance
  /-- One of its fetches asks for a module. -/
  | ask (module : String)
  /-- One of its fetches completes. -/
  | deliver (module : String)

/-- What may happen to the calls on an engine. -/
inductive Move where
  /-- A call is made. -/
  | issue (request : Request)
  /-- Something happens to one of the calls, given its number. -/
  | step (index : Nat) (deed : Deed)

/-- An engine with the calls that have been made on it. -/
structure System where
  /-- The engine. -/
  engine : Engine
  /-- The calls, in the order in which they have been made. -/
  calls : List Call

namespace Call

/-- Whether a call collects modules and one of them has not arrived. -/
def awaits (call : Call) (module : String) : Bool :=
  match call.progress with
  | .collecting _ arrived => (call.request.references.unresolved arrived).contains module
  | _ => false

/-- What happens to a call and its engine. A fetch completes once, with what the source of modules
answers, and a fetch that is never answered does not complete. -/
def take (fetcher : Fetcher) (engine : Engine) (call : Call) : Deed → Engine × Call
  | .advance => call.advance engine
  | .ask module => call.observe engine (.asked module)
  | .deliver module =>
    match call.awaits module, (fetcher module).outcome with
    | true, some outcome => call.observe engine (.completed ⟨module, outcome⟩)
    | _, _ => (engine, call)

end Call

namespace System

/-- The system after a move. -/
def play (fetcher : Fetcher) (system : System) : Move → System
  | .issue request => { system with calls := system.calls ++ [.ofRequest request] }
  | .step index deed =>
    match system.calls[index]? with
    | none => system
    | some call =>
      let (engine, call) := call.take fetcher system.engine deed
      { engine, calls := system.calls.set index call }

/-- The system after several moves. -/
def run (fetcher : Fetcher) (system : System) (moves : List Move) : System :=
  moves.foldl (play fetcher) system

end System

/-! ## Single steps -/

variable {fetcher : Fetcher} {backend : Backend}

namespace Call

theorem step_advance (engine : Engine) (call : Call) :
    Step fetcher engine call.request call.progress (call.advance engine).1
        (call.advance engine).2.progress
      ∧ (call.advance engine).2.request = call.request := by
  obtain ⟨request, progress⟩ := call
  cases progress with
  | issued =>
    refine ⟨?_, rfl⟩
    change Step fetcher engine request .issued engine (start engine request)
    unfold start
    split
    · next template hcached => exact .hit hcached
    · split
      · next e hsource => exact .rejected hsource
      · next source hsource => exact .started hsource
  | collecting source arrived => exact ⟨.idle _, rfl⟩
  | ready source references =>
    cases hbuild : (engine.backend.build source references).bind (Unit.load · request.model) with
    | error e =>
      rw [advance_of_error hbuild]
      exact ⟨.failed hbuild, rfl⟩
    | ok renderer =>
      rw [advance_of_ok hbuild]
      exact ⟨.made hbuild, rfl⟩
  | made template => exact ⟨.kept template, rfl⟩
  | ended outcome => exact ⟨.idle _, rfl⟩

/-- Whatever happens to a call is one of its steps. -/
theorem step_take (fetcher : Fetcher) (engine : Engine) (call : Call) (deed : Deed) :
    Step fetcher engine call.request call.progress (call.take fetcher engine deed).1
        (call.take fetcher engine deed).2.progress
      ∧ (call.take fetcher engine deed).2.request = call.request := by
  cases deed with
  | advance => exact step_advance engine call
  | ask module =>
    obtain ⟨request, progress⟩ := call
    cases progress with
    | collecting source arrived => exact ⟨.asked module, rfl⟩
    | issued => exact ⟨.idle _, rfl⟩
    | ready source references => exact ⟨.idle _, rfl⟩
    | made template => exact ⟨.idle _, rfl⟩
    | ended outcome => exact ⟨.idle _, rfl⟩
  | deliver module =>
    rw [take]
    split
    · next outcome hawaits houtcome =>
      obtain ⟨request, progress⟩ := call
      cases progress with
      | collecting source arrived =>
        have hmodule := List.contains_iff_mem.mp hawaits
        exact ⟨.delivered hmodule houtcome, rfl⟩
      | issued => cases hawaits
      | ready source references => cases hawaits
      | made template => cases hawaits
      | ended outcome => cases hawaits
    · exact ⟨.idle _, rfl⟩

variable {engine engine' : Engine} {request : Request} {progress progress' : Progress}

/-- A call that has ended takes no steps. -/
theorem Step.eq_of_ended {outcome : Except Error Template}
    (h : Step fetcher engine request (.ended outcome) engine' progress') :
    progress' = .ended outcome := by
  cases h with
  | idle => rfl

end Call

namespace Progress

/-- A call has ended with a template. -/
def succeeded : Progress → Bool
  | .ended (.ok _) => true
  | _ => false

theorem succeeded_ofResolution (source : Source.Generated) (resolution : Resolution) :
    (ofResolution source resolution).succeeded = false := by
  cases resolution with
  | resolved references => rfl
  | failed e => rfl
  | waiting arrived => rfl

end Progress

/-- A step of a call that does not succeed by it leaves what the engine keeps. -/
theorem Call.Step.kept_eq {engine engine' : Engine} {request : Request}
    {progress progress' : Progress} (h : Step fetcher engine request progress engine' progress')
    (hsucceeded : progress'.succeeded = false) : engine'.kept = engine.kept := by
  cases h with
  | idle => rfl
  | hit hcached => rfl
  | rejected hsource => rfl
  | started hsource => rfl
  | asked module => rfl
  | delivered hmodule houtcome => rfl
  | failed hbuild => rfl
  | made hbuild => rfl
  | kept template => cases hsucceeded

/-- A call is what an earlier one may have become: it has the same request, and the outcome if there
was one. -/
def Call.Continues (call earlier : Call) : Prop :=
  call.request = earlier.request
    ∧ ∀ outcome, earlier.progress = .ended outcome → call.progress = .ended outcome

namespace System

/-- What a move does: a call is added, or one call takes a step and the others stay. -/
inductive Step (fetcher : Fetcher) : System → Move → System → Prop
  | issue (engine : Engine) (calls : List Call) (request : Request) :
    Step fetcher ⟨engine, calls⟩ (.issue request) ⟨engine, calls ++ [.ofRequest request]⟩
  | nobody (system : System) (index : Nat) (deed : Deed) :
    Step fetcher system (.step index deed) system
  | step {engine engine' : Engine} {request : Request} {progress progress' : Progress}
    (front rest : List Call) (deed : Deed)
    (hstep : Call.Step fetcher engine request progress engine' progress') :
    Step fetcher ⟨engine, front ++ ⟨request, progress⟩ :: rest⟩ (.step front.length deed)
      ⟨engine', front ++ ⟨request, progress'⟩ :: rest⟩

theorem step_play (fetcher : Fetcher) (system : System) (move : Move) :
    Step fetcher system move (system.play fetcher move) := by
  cases move with
  | issue request => exact .issue system.engine system.calls request
  | step index deed =>
    obtain ⟨engine, calls⟩ := system
    rw [play]
    split
    · exact .nobody _ index deed
    · next call hcall =>
      obtain ⟨hindex, rfl⟩ := List.getElem?_eq_some_iff.mp hcall
      obtain ⟨hstep, hrequest⟩ := Call.step_take fetcher engine calls[index] deed
      dsimp only
      cases htake : calls[index].take fetcher engine deed with
      | mk engine' call' =>
        obtain ⟨front, rest, hsplit, rfl, hset⟩ :
            ∃ front rest, calls = front ++ calls[index] :: rest ∧ front.length = index
              ∧ calls.set index call' = front ++ call' :: rest :=
          List.exists_of_set hindex
        rw [htake] at hstep hrequest
        generalize calls[front.length] = call at hsplit hstep hrequest
        obtain ⟨request, progress⟩ := call
        obtain ⟨_, progress'⟩ := call'
        obtain rfl := hrequest
        rw [hset, hsplit]
        exact .step front rest deed hstep

/-! ## Runs -/

end System

namespace Call

/-- What becomes of one call when several things happen to it. -/
def takeAll (fetcher : Fetcher) (engine : Engine) (call : Call) (deeds : List Deed) :
    Engine × Call :=
  deeds.foldl (fun state deed => state.2.take fetcher state.1 deed) (engine, call)

theorem takeAll_cons (fetcher : Fetcher) (engine : Engine) (call : Call) (deed : Deed)
    (deeds : List Deed) :
    call.takeAll fetcher engine (deed :: deeds)
      = (call.take fetcher engine deed).2.takeAll fetcher (call.take fetcher engine deed).1 deeds :=
  rfl

theorem request_takeAll (fetcher : Fetcher) (engine : Engine) (call : Call) (deeds : List Deed) :
    (call.takeAll fetcher engine deeds).2.request = call.request := by
  induction deeds generalizing engine call with
  | nil => rfl
  | cons deed deeds ih =>
    rw [takeAll_cons, ih]
    exact (step_take fetcher engine call deed).2

theorem takeAll_append (fetcher : Fetcher) (engine : Engine) (call : Call)
    (front rest : List Deed) :
    call.takeAll fetcher engine (front ++ rest)
      = (call.takeAll fetcher engine front).2.takeAll fetcher (call.takeAll fetcher engine front).1
          rest :=
  List.foldl_append

theorem run_step (fetcher : Fetcher) (engine : Engine) (front : List Call) (call : Call)
    (rest : List Call) (deeds : List Deed) :
    (System.mk engine (front ++ call :: rest)).run fetcher (deeds.map (.step front.length))
      = ⟨(call.takeAll fetcher engine deeds).1,
        front ++ (call.takeAll fetcher engine deeds).2 :: rest⟩ := by
  induction deeds generalizing engine call with
  | nil => rfl
  | cons deed deeds ih =>
    have hplay : (System.mk engine (front ++ call :: rest)).play fetcher (.step front.length deed)
        = ⟨(call.take fetcher engine deed).1,
          front ++ (call.take fetcher engine deed).2 :: rest⟩ := by
      simp [System.play]
    rw [List.map_cons, System.run, List.foldl_cons, hplay]
    exact ih _ _

end Call

namespace System

variable {system system' : System} {move : Move}

theorem run_append (fetcher : Fetcher) (system : System) (front rest : List Move) :
    system.run fetcher (front ++ rest) = (system.run fetcher front).run fetcher rest :=
  List.foldl_append

/-- What holds at the start and is kept by every move holds after all moves. -/
theorem run_induction {p : System → Prop}
    (hstep : ∀ {system system' : System} {move : Move}, Step fetcher system move system' →
      p system → p system')
    (hstart : p system) (moves : List Move) : p (system.run fetcher moves) := by
  induction moves generalizing system with
  | nil => exact hstart
  | cons move moves ih => exact ih (hstep (step_play fetcher system move) hstart)

/-- The system has nothing but what requests lead to. -/
structure IsSound (fetcher : Fetcher) (backend : Backend) (system : System) : Prop where
  /-- The engine is sound. -/
  engine : system.engine.IsSound fetcher backend
  /-- Every call is sound. -/
  calls : ∀ call ∈ system.calls, call.progress.IsSound fetcher backend call.request

/-- An engine that keeps nothing yet is sound, and so is one that never does. -/
theorem isSound_start (fetcher : Fetcher) {engine : Engine} (hcache : engine.cache = []) :
    (System.mk engine []).IsSound fetcher engine.backend where
  engine := ⟨rfl, fun _ h => absurd (hcache ▸ h) List.not_mem_nil⟩
  calls _ h := absurd h List.not_mem_nil

theorem Step.isSound (hstep : Step fetcher system move system')
    (h : system.IsSound fetcher backend) : system'.IsSound fetcher backend := by
  cases hstep with
  | issue engine calls request =>
    refine ⟨h.engine, fun call hcall => ?_⟩
    rcases List.mem_append.mp hcall with hcall | hcall
    · exact h.calls call hcall
    · obtain rfl := List.mem_singleton.mp hcall
      exact .issued
  | nobody => exact h
  | step front rest deed hstep =>
    obtain ⟨hfront, hcall, hrest⟩ : (∀ call ∈ front, _) ∧ _ ∧ ∀ call ∈ rest, _ := by
      simpa only [List.forall_mem_append, List.forall_mem_cons] using h.calls
    obtain ⟨hengine, hprogress⟩ := hstep.isSound h.engine hcall
    refine ⟨hengine, ?_⟩
    simpa only [List.forall_mem_append, List.forall_mem_cons] using ⟨hfront, hprogress, hrest⟩

theorem isSound_run (h : system.IsSound fetcher backend) (moves : List Move) :
    (system.run fetcher moves).IsSound fetcher backend :=
  run_induction Step.isSound h moves

theorem Step.exists_continues (hstep : Step fetcher system move system') {index : Nat} {call : Call}
    (hcall : system.calls[index]? = some call) :
    ∃ call', system'.calls[index]? = some call' ∧ call'.Continues call := by
  cases hstep with
  | issue engine calls request =>
    obtain ⟨hindex, -⟩ := List.getElem?_eq_some_iff.mp hcall
    exact ⟨call, by rw [List.getElem?_append_left hindex, hcall], rfl, fun _ h => h⟩
  | nobody => exact ⟨call, hcall, rfl, fun _ h => h⟩
  | @step engine engine' request progress progress' front rest deed hstep =>
    by_cases hindex : index = front.length
    · subst hindex
      obtain rfl : ⟨request, progress⟩ = call := by simpa using hcall
      refine ⟨⟨request, progress'⟩, by simp, rfl, ?_⟩
      rintro outcome rfl
      exact hstep.eq_of_ended
    · have hset : (front ++ ⟨request, progress⟩ :: rest).set front.length ⟨request, progress'⟩
          = front ++ ⟨request, progress'⟩ :: rest := by
        simp
      refine ⟨call, ?_, rfl, fun _ h => h⟩
      dsimp only
      rw [← hset, List.getElem?_set_ne (Ne.symm hindex), hcall]

/-- A call goes on from where it is, and its outcome is final. -/
theorem exists_continues_run {index : Nat} {call : Call} (hcall : system.calls[index]? = some call)
    (moves : List Move) :
    ∃ call', (system.run fetcher moves).calls[index]? = some call' ∧ call'.Continues call := by
  refine run_induction (p := fun system => ∃ call', system.calls[index]? = some call'
    ∧ call'.Continues call) (fun hstep h => ?_) ⟨call, hcall, rfl, fun _ h => h⟩ moves
  obtain ⟨between, hbetween, hrequest, hended⟩ := h
  obtain ⟨call', hcall', hrequest', hended'⟩ := hstep.exists_continues hbetween
  exact ⟨call', hcall', hrequest'.trans hrequest, fun outcome h => hended' _ (hended _ h)⟩

/-- The steps of a call that ends with an error leave what the engine keeps. -/
theorem kept_play_eq {index : Nat} {deed : Deed} {later : List Move} {call : Call} {e : Error}
    (hcall : ((system.play fetcher (.step index deed)).run fetcher later).calls[index]? = some call)
    (hfailed : call.progress = .ended (.error e)) :
    (system.play fetcher (.step index deed)).engine.kept = system.engine.kept := by
  have hstep := step_play fetcher system (.step index deed)
  generalize system.play fetcher (.step index deed) = system' at hcall hstep
  cases hstep with
  | nobody => rfl
  | @step engine engine' request progress progress' front rest deed hstep =>
    have hnow : (System.mk engine' (front ++ ⟨request, progress'⟩ :: rest)).calls[front.length]?
        = some ⟨request, progress'⟩ := by
      simp
    obtain ⟨call', hcall', -, hended⟩ := exists_continues_run hnow later
    obtain rfl := Option.some.inj (hcall.symm.trans hcall')
    -- If the call had a template now, it would have it in the end.
    cases hprogress : progress' with
    | ended outcome =>
      have hlast := (hended outcome hprogress).symm.trans hfailed
      obtain rfl := Progress.ended.inj hlast
      exact hstep.kept_eq (by rw [hprogress]; rfl)
    | issued => exact hstep.kept_eq (by rw [hprogress]; rfl)
    | collecting source arrived => exact hstep.kept_eq (by rw [hprogress]; rfl)
    | ready source references => exact hstep.kept_eq (by rw [hprogress]; rfl)
    | made template => exact hstep.kept_eq (by rw [hprogress]; rfl)

/-! ## Tallies -/

/-- The requests of the calls that have ended with a template. -/
def served (calls : List Call) : List Request :=
  (calls.filter (·.progress.succeeded)).map (·.request)

theorem mem_served_append_cons {front rest : List Call} {request other : Request}
    {progress : Progress} :
    other ∈ served (front ++ ⟨request, progress⟩ :: rest)
      ↔ other ∈ served (front ++ rest) ∨ (progress.succeeded = true ∧ other = request) := by
  cases hsucceeded : progress.succeeded with
  | true => simp [served, List.filter_append, hsucceeded, or_comm, or_left_comm]
  | false => simp [served, List.filter_append, hsucceeded]

/-- The engine keeps one template a request, for the requests of the calls that have succeeded. -/
structure IsTallied (system : System) : Prop where
  /-- The engine keeps templates. -/
  keeps : system.engine.kept.isSome = true
  /-- No request has two. -/
  once : (system.engine.cache.map (·.1)).Nodup
  /-- Those that are kept are for the requests of successful calls. -/
  mem_iff : ∀ request, request ∈ system.engine.cache.map (·.1) ↔ request ∈ served system.calls

section

variable {engine engine' : Engine} {front rest : List Call} {request : Request}
  {progress progress' : Progress} {template : Template}

/-- A step that keeps nothing and by which no call succeeds. -/
theorem IsTallied.of_quiet (h : IsTallied ⟨engine, front ++ ⟨request, progress⟩ :: rest⟩)
    (hkept : engine'.kept = engine.kept) (hprogress : progress.succeeded = progress'.succeeded) :
    IsTallied ⟨engine', front ++ ⟨request, progress'⟩ :: rest⟩ where
  keeps := hkept ▸ h.keeps
  once := by
    rw [Engine.cache, hkept]
    exact h.once
  mem_iff other := by
    rw [Engine.cache, hkept]
    refine (h.mem_iff other).trans ?_
    rw [mem_served_append_cons, mem_served_append_cons, hprogress]

/-- A call that finds a template succeeds with a request that is kept. -/
theorem IsTallied.hit (h : IsTallied ⟨engine, front ++ ⟨request, .issued⟩ :: rest⟩)
    (hcached : engine.cached? request = some template) :
    IsTallied ⟨engine, front ++ ⟨request, .ended (.ok template)⟩ :: rest⟩ where
  keeps := h.keeps
  once := h.once
  mem_iff other := by
    have hmem : request ∈ engine.cache.map (·.1) :=
      List.mem_map_of_mem (Engine.mem_of_cached? hcached)
    have hrequest := (h.mem_iff request).mp hmem
    rw [mem_served_append_cons] at hrequest
    rw [h.mem_iff, mem_served_append_cons, mem_served_append_cons]
    constructor
    · exact fun h => Or.inl (h.resolve_right fun h => nomatch h.1)
    · rintro (h | ⟨-, rfl⟩)
      · exact Or.inl h
      · exact hrequest

/-- A template that is kept takes the place of the one that is there for its request. -/
theorem IsTallied.keep (h : IsTallied ⟨engine, front ++ ⟨request, .made template⟩ :: rest⟩) :
    IsTallied ⟨engine.keep request template,
      front ++ ⟨request, .ended (.ok template)⟩ :: rest⟩ := by
  have hrequests : (engine.keep request template).cache.map (·.1)
      = request :: (engine.cache.map (·.1)).filter (· != request) := by
    rw [Engine.cache_keep, if_pos h.keeps, List.map_cons, List.filter_map]
    rfl
  refine ⟨?_, ?_, fun other => ?_⟩
  · dsimp only [Engine.keep]
    rw [Option.isSome_map]
    exact h.keeps
  · rw [hrequests, List.nodup_cons]
    exact ⟨by simp, h.once.filter _⟩
  · rw [hrequests, mem_served_append_cons, List.mem_cons, List.mem_filter, h.mem_iff,
      mem_served_append_cons]
    by_cases hother : other = request
    · simp [hother, Progress.succeeded]
    · simp [hother]

end

theorem Step.isTallied (hstep : Step fetcher system move system') (h : system.IsTallied) :
    system'.IsTallied := by
  cases hstep with
  | issue engine calls request =>
    refine ⟨h.keeps, h.once, fun other => ?_⟩
    rw [h.mem_iff]
    simp [served, Call.ofRequest, Progress.succeeded]
  | nobody => exact h
  | step front rest deed hstep =>
    cases hstep with
    | idle => exact h
    | hit hcached => exact h.hit hcached
    | rejected hsource => exact h.of_quiet rfl rfl
    | started hsource => exact h.of_quiet rfl (Progress.succeeded_ofResolution _ _).symm
    | asked module => exact h.of_quiet rfl rfl
    | delivered hmodule houtcome =>
      exact h.of_quiet rfl (Progress.succeeded_ofResolution _ _).symm
    | failed hbuild => exact h.of_quiet rfl rfl
    | made hbuild => exact h.of_quiet rfl rfl
    | kept template => exact h.keep

theorem isTallied_run (h : system.IsTallied) (moves : List Move) :
    (system.run fetcher moves).IsTallied :=
  run_induction Step.isTallied h moves

/-- There are as many templates as there are requests that a call has succeeded with. -/
theorem IsTallied.cachedCount_eq (h : system.IsTallied) :
    system.engine.cachedCount = (served system.calls).dedup.length := by
  have hperm : (system.engine.cache.map (·.1)).Perm (served system.calls).dedup := by
    rw [List.perm_ext_iff_of_nodup h.once (List.nodup_dedup _)]
    intro request
    rw [h.mem_iff, List.mem_dedup]
  rw [Engine.cachedCount, ← hperm.length_eq, List.length_map]

end System

end Stencil
