import Mathlib
import Stencil.Proofs.Engine.Interleaving
import Stencil.Proofs.Unit.Loader

/-!
# Engines that keep what they have compiled

An engine that keeps templates answers its calls as one that keeps nothing, however its calls are
interleaved (`System.run_transparent`). What a call leads to without kept templates is told by the
runs of an engine that has been given this one call and keeps nothing.
-/

namespace Stencil

variable {fetcher : Fetcher} {request : Request}

/-! ## Calls by themselves -/

namespace Request

/-- A call that is made on an engine of the same kind that keeps nothing can end so. -/
def EndsAlone (fetcher : Fetcher) (engine : Engine) (request : Request)
    (outcome : Except Error Template) : Prop :=
  ∃ moves call,
    ((System.mk { engine with kept := none } [.ofRequest request]).run fetcher moves).calls[0]?
      = some call ∧ call.progress = .ended outcome

/-- A call that is made on an engine of the same kind that keeps nothing can end, and whenever it
does it has the renderer, or none. -/
def GivesAlone (fetcher : Fetcher) (engine : Engine) (request : Request)
    (renderer? : Option Renderer) : Prop :=
  (∃ outcome, request.EndsAlone fetcher engine outcome)
    ∧ ∀ outcome, request.EndsAlone fetcher engine outcome →
        outcome.toOption.map (·.renderer) = renderer?

end Request

namespace Call

theorem takeAll_of_ended {engine : Engine} {outcome : Except Error Template} (deeds : List Deed) :
    Call.takeAll fetcher engine ⟨request, .ended outcome⟩ deeds
      = (engine, ⟨request, .ended outcome⟩) := by
  induction deeds with
  | nil => rfl
  | cons deed deeds ih =>
    cases deed with
    | advance => exact ih
    | ask module => exact ih
    | deliver module => exact ih

/-- A call whose modules are delivered one after the other has what the completions resolve to. -/
theorem takeAll_deliver {engine : Engine} {source : Source.Generated} {modules : List String}
    (honce : modules.Nodup) {arrived : References}
    (hmissing : ∀ module ∈ modules, module ∈ request.references.unresolved arrived) :
    Call.takeAll fetcher engine
        ⟨request, .ofResolution source (request.references.resolveFrom arrived [])⟩
        (modules.map .deliver)
      = (engine, ⟨request, .ofResolution source
          (request.references.resolveFrom arrived (fetcher.answers modules))⟩) := by
  induction modules generalizing arrived with
  | nil => rfl
  | cons module modules ih =>
    obtain ⟨hnot, honce⟩ := List.nodup_cons.mp honce
    obtain ⟨hmodule, hlater⟩ := List.forall_mem_cons.mp hmissing
    -- The call still collects modules, as this one has not arrived.
    have hwaiting : request.references.resolveFrom arrived [] = .waiting arrived := by
      rw [ReferenceSet.resolveFrom, if_neg]
      rw [List.isEmpty_iff]
      exact List.ne_nil_of_mem hmodule
    have hawaits : Call.awaits ⟨request, .collecting source arrived⟩ module = true :=
      List.contains_iff_mem.mpr hmodule
    rw [hwaiting, Progress.ofResolution, List.map_cons, takeAll_cons, take, hawaits,
      Fetcher.answers, List.filterMap_cons]
    cases houtcome : (fetcher module).outcome with
    | none =>
      have hrest := ih honce hlater
      rw [hwaiting] at hrest
      exact hrest
    | some outcome =>
      cases outcome with
      | error cause => exact takeAll_of_ended _
      | ok bytes =>
        refine ih honce fun other hother => ?_
        have hne : other ≠ module := fun heq => hnot (heq ▸ hother)
        rw [ReferenceSet.mem_unresolved_iff, Dictionary.get?_insert, if_neg hne]
        exact ReferenceSet.mem_unresolved_iff.mp (hlater other hother)

/-- A call whose modules have arrived ends in two steps. -/
theorem exists_ended_of_ready (engine : Engine) (source : Source.Generated)
    (references : References) :
    ∃ outcome, (Call.takeAll fetcher engine ⟨request, .ready source references⟩
      [.advance, .advance]).2.progress = .ended outcome := by
  rw [takeAll_cons, take]
  cases hbuild : (engine.backend.build source references).bind (Unit.load · request.model) with
  | error e =>
    rw [advance_of_error hbuild]
    exact ⟨_, rfl⟩
  | ok renderer =>
    rw [advance_of_ok hbuild]
    exact ⟨_, rfl⟩

/-- A call that finds no template ends when the request leads to a result: its modules are delivered
in the order of their names. -/
theorem exists_ended_of_result? {engine : Engine} (hmissed : engine.cached? request = none)
    {result : Except Error Renderer}
    (h : request.result? fetcher engine.backend = some result) :
    ∃ deeds outcome,
      ((Call.ofRequest request).takeAll fetcher engine deeds).2.progress = .ended outcome := by
  let deliveries : List Deed := request.references.toList.map .deliver
  refine ⟨.advance :: (deliveries ++ [.advance, .advance]), ?_⟩
  have hstart : (ofRequest request).take fetcher engine .advance
      = (engine, ⟨request, start engine request⟩) := rfl
  rw [takeAll_cons, hstart, start, hmissed]
  rw [Request.result?] at h
  cases hsource : request.source with
  | error e => exact ⟨_, by rw [takeAll_of_ended]⟩
  | ok source =>
    rw [hsource] at h
    have honce : request.references.toList.Nodup :=
      request.references.pairwise_toList.imp String.ne_of_lt
    have hmissing : ∀ module ∈ request.references.toList,
        module ∈ request.references.unresolved ∅ := fun module hmodule =>
      ReferenceSet.mem_unresolved_iff.mpr ⟨hmodule, rfl⟩
    dsimp only at h ⊢
    rw [takeAll_append, ReferenceSet.resolve, takeAll_deliver honce hmissing]
    -- What the call has collected is what the result of the request is made of.
    rw [ReferenceSet.resolve] at h
    cases hresolved : request.references.resolveFrom ∅
        (fetcher.answers request.references.toList) with
    | resolved references => exact exists_ended_of_ready engine source references
    | failed e => exact ⟨_, by rw [Progress.ofResolution, takeAll_of_ended]⟩
    | waiting arrived =>
      rw [hresolved] at h
      cases h

end Call

namespace Request

theorem exists_endsAlone {engine : Engine} {result : Except Error Renderer}
    (h : request.result? fetcher engine.backend = some result) :
    ∃ outcome, request.EndsAlone fetcher engine outcome := by
  let lone : Engine := { engine with kept := none }
  have hmissed : lone.cached? request = none := rfl
  obtain ⟨deeds, outcome, houtcome⟩ := Call.exists_ended_of_result? hmissed h
  refine ⟨outcome, deeds.map (.step 0), _, ?_, houtcome⟩
  exact congrArg (·.calls[0]?) (Call.run_step fetcher lone [] (.ofRequest request) [] deeds)

/-- What a call leads to by itself is what comes of the request. -/
theorem EndsAlone.exists_result {engine : Engine} {outcome : Except Error Template}
    (h : request.EndsAlone fetcher engine outcome) :
    ∃ result, request.result? fetcher engine.backend = some result
      ∧ result.toOption = outcome.toOption.map (·.renderer) := by
  obtain ⟨moves, call, hcall, hended⟩ := h
  let lone : Engine := { engine with kept := none }
  let start : System := ⟨lone, [.ofRequest request]⟩
  have hstart : start.IsSound fetcher lone.backend :=
    (System.Step.issue lone [] request).isSound (System.isSound_start fetcher rfl)
  have hfirst : start.calls[0]? = some (.ofRequest request) := rfl
  obtain ⟨call', hcall', hrequest, -⟩ := System.exists_continues_run hfirst moves
  obtain rfl := Option.some.inj (hcall'.symm.trans hcall)
  have hsound := (System.isSound_run hstart moves).calls call' (List.mem_of_getElem? hcall)
  rw [hrequest, hended] at hsound
  exact hsound.exists_result

/-- A call gives what comes of the request. -/
theorem givesAlone_of_result? {engine : Engine} {result : Except Error Renderer}
    (h : request.result? fetcher engine.backend = some result) :
    request.GivesAlone fetcher engine result.toOption := by
  refine ⟨exists_endsAlone h, fun outcome houtcome => ?_⟩
  obtain ⟨other, hother, heq⟩ := houtcome.exists_result
  obtain rfl := Option.some.inj (h.symm.trans hother)
  exact heq.symm

theorem GivesAlone.eq {engine : Engine} {renderer? other? : Option Renderer}
    (h : request.GivesAlone fetcher engine renderer?)
    (hother : request.GivesAlone fetcher engine other?) : renderer? = other? := by
  obtain ⟨outcome, houtcome⟩ := h.1
  rw [← h.2 outcome houtcome, hother.2 outcome houtcome]

end Request

/-- A sound call that has ended has what it would have by itself. -/
theorem Progress.IsSound.givesAlone {engine : Engine} {progress : Progress}
    {outcome : Except Error Template} (h : progress.IsSound fetcher engine.backend request)
    (hended : progress = .ended outcome) :
    request.GivesAlone fetcher engine (outcome.toOption.map (·.renderer)) := by
  rw [hended] at h
  obtain ⟨result, hresult, heq⟩ := h.exists_result
  rw [← heq]
  exact Request.givesAlone_of_result? hresult

/-! ## Calls on one engine -/

/-- Calls on an engine that keeps templates, in whatever order things happen to them. A call that
has ended has the renderer that it would have without kept templates, or none as it would have none.
What is kept for a request is what the request leads to without kept templates. A call that ends
with an error has changed nothing of what is kept, and there are as many templates as requests that
a call has succeeded with. -/
theorem System.run_transparent {engine : Engine} (hkept : engine.kept = some [])
    (fetcher : Fetcher) (moves : List Move) :
    (∀ call ∈ ((System.mk engine []).run fetcher moves).calls, ∀ outcome,
        call.progress = .ended outcome →
          call.request.GivesAlone fetcher engine (outcome.toOption.map (·.renderer)))
      ∧ (∀ request template,
          (request, template) ∈ ((System.mk engine []).run fetcher moves).engine.cache →
            request.GivesAlone fetcher engine (some template.renderer))
      ∧ (∀ index call e, ((System.mk engine []).run fetcher moves).calls[index]? = some call →
          call.progress = .ended (.error e) →
            ∀ front deed later, moves = front ++ .step index deed :: later →
              ((System.mk engine []).run fetcher (front ++ [.step index deed])).engine.kept
                = ((System.mk engine []).run fetcher front).engine.kept)
      ∧ ((System.mk engine []).run fetcher moves).engine.cachedCount
          = (served ((System.mk engine []).run fetcher moves).calls).dedup.length := by
  have hcache : engine.cache = [] := by rw [Engine.cache, hkept, Option.getD_some]
  have htallied : (System.mk engine []).IsTallied :=
    { keeps := by rw [hkept, Option.isSome_some]
      once := by rw [hcache]; exact List.nodup_nil
      mem_iff := fun request => by rw [hcache]; exact Iff.rfl }
  have hafter := isSound_run (isSound_start fetcher hcache) moves
  refine ⟨fun call hcall outcome hended => (hafter.calls call hcall).givesAlone hended,
    fun request template hmem => ?_, ?_, (isTallied_run htallied moves).cachedCount_eq⟩
  · exact Request.givesAlone_of_result? (hafter.engine.cache _ hmem)
  · rintro index call e hcall hfailed front deed later rfl
    rw [run_append] at hcall
    rw [run_append]
    exact kept_play_eq hcall hfailed

/-- A call for a greeting on an engine that keeps templates: the engine has one template then, which
is what the call would have led to without kept templates. -/
theorem System.exists_run_greeting :
    ∃ (engine : Engine) (fetcher : Fetcher) (request : Request) (moves : List Move)
      (renderer : Renderer), engine.kept = some []
        ∧ request.GivesAlone fetcher engine (some renderer)
        ∧ served ((System.mk engine []).run fetcher moves).calls = [request]
        ∧ ((System.mk engine []).run fetcher moves).engine.cachedCount = 1 := by
  let model : ModelType := .ofTypeName "demo::Person"
  let segments : List Markup.Segment := [.inherits baseContract "demo.Person", .literal "Hello"]
  let request : Request := ⟨"Hello", model⟩
  obtain ⟨references, hreferences⟩ : ∃ references : References, references = .ofList
      [("demo", (Module.mk "demo" [.sealed "demo.Person"]).bytes), ("quill", Module.host.bytes),
        ("quill.runtime", (Module.new "quill.runtime").bytes)] :=
    ⟨_, rfl⟩
  have hparse : Markup.Document.parse "Hello" model = .ok ⟨model, segments⟩ := by
    decide +kernel
  have hname : model.sourceName = .ok "demo.Person" := by decide +kernel
  have hloadable : Unit.IsLoadable ⟨model, segments⟩ :=
    Unit.isLoadable_of_sourceName hname (by decide) fun code hcode => by simp [segments] at hcode
  have hnone : Unit.segmentFindings references "demo.Person" segments = [] := by
    rw [hreferences]
    decide +kernel
  have hnames : request.references.toList = references.names := by
    rw [hreferences]
    decide +kernel
  obtain ⟨text, bytes, hgenerate, hbuild, hload⟩ := Unit.exists_load_of_segmentFindings hparse hname
    (fun code hcode => by simp [segments] at hcode) hloadable hnone
  let fetcher : Fetcher := fun module => ⟨0, (references.get? module).map Except.ok⟩
  let engine : Engine := ⟨.interpreter, .empty, false, some [], 0, [], []⟩
  have harrived : request.references.HasArrived fetcher references := by
    intro module bytes hget
    rw [hnames, Dictionary.mem_names_iff]
    exact ⟨⟨bytes, hget⟩, by simp [fetcher, hget]⟩
  have hresolved := harrived.resolve_answers (by
    rw [ReferenceSet.unresolved_eq_nil_iff, hnames]
    exact fun module => Dictionary.mem_names_iff.mp)
  have hsource : request.source = .ok ⟨text, model⟩ := by
    rw [Request.source, hparse]
    show (Source.generate _).map _ = _
    rw [hgenerate]
    rfl
  have hresult : request.result? fetcher engine.backend
      = some (.ok ⟨Source.unitName, Unit.segmentRenderer "demo.Person" segments⟩) := by
    rw [Request.result?_of_resolved hsource hresolved]
    show some ((Unit.build text references).bind _) = _
    rw [hbuild]
    exact congrArg some hload
  -- The call ends, and as it would have a renderer by itself it has a template.
  obtain ⟨deeds, outcome, hended⟩ := Call.exists_ended_of_result? rfl hresult
  let moves : List Move := .issue request :: deeds.map (.step 0)
  obtain ⟨call, hcalls, hcall, hprogress⟩ : ∃ call,
      ((System.mk engine []).run fetcher moves).calls = [call] ∧ call.request = request
        ∧ call.progress = .ended outcome :=
    ⟨_, congrArg System.calls (Call.run_step fetcher engine [] (.ofRequest request) [] deeds),
      Call.request_takeAll fetcher engine (.ofRequest request) deeds, hended⟩
  obtain ⟨houtcomes, -, -, hcount⟩ := @System.run_transparent engine rfl fetcher moves
  have hgives := houtcomes call (by simp [hcalls]) outcome hprogress
  rw [hcall] at hgives
  have hrenderer := hgives.eq (Request.givesAlone_of_result? hresult)
  have hserved : served ((System.mk engine []).run fetcher moves).calls = [request] := by
    cases outcome with
    | error e => cases hrenderer
    | ok template => simp [served, hcalls, hcall, hprogress, Progress.succeeded]
  refine ⟨engine, fetcher, request, moves, _, rfl, Request.givesAlone_of_result? hresult, hserved,
    ?_⟩
  rw [hcount, hserved]
  rfl

end Stencil
