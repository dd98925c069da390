import Mathlib
import Stencil.Engine.Call
import Stencil.Module.Queue
import Stencil.Proofs.Module.Resolution

/-!
# What comes of a request

A request by itself leads to one result, whenever its modules arrive (`Request.result?`). The steps
of a call are told once, by `Call.Step`, and whatever order they are taken in, a call has nothing
but what the request leads to (`Call.Step.isSound`).
-/

namespace Stencil

/-! ## Results -/

/-- The fetches of modules that complete, in the order of the modules. -/
def Fetcher.answers (fetcher : Fetcher) (modules : List String) : List Completion :=
  modules.filterMap fun module => (fetcher module).outcome.map (Completion.mk module)

/-- What comes of a request by itself: a source is generated, the modules are fetched in the order
of their names, and the unit is built and loaded. There is no result when the modules have neither
all arrived nor failed. -/
def Request.result? (fetcher : Fetcher) (backend : Backend) (request : Request) :
    Option (Except Error Renderer) :=
  match request.source with
  | .error e => some (.error e)
  | .ok source =>
    match request.references.resolve (fetcher.answers request.references.toList) with
    | .resolved references =>
      some ((backend.build source references).bind (Unit.load · request.model))
    | .failed e => some (.error e)
    | .waiting _ => none

variable {fetcher : Fetcher} {backend : Backend} {request : Request}

theorem Fetcher.mem_answers_iff {modules : List String} {completion : Completion} :
    completion ∈ fetcher.answers modules
      ↔ completion.module ∈ modules
        ∧ (fetcher completion.module).outcome = some completion.outcome := by
  rw [answers, List.mem_filterMap]
  constructor
  · rintro ⟨module, hmodule, hcompletion⟩
    obtain ⟨outcome, houtcome, rfl⟩ := Option.map_eq_some_iff.mp hcompletion
    exact ⟨hmodule, houtcome⟩
  · rintro ⟨hmodule, houtcome⟩
    exact ⟨completion.module, hmodule, by rw [houtcome, Option.map_some]⟩

theorem Fetcher.sublist_answers (fetcher : Fetcher) (modules : List String) :
    ((fetcher.answers modules).map (·.module)).Sublist modules := by
  induction modules with
  | nil => exact List.Sublist.slnil
  | cons module modules ih =>
    rw [answers, List.filterMap_cons]
    cases (fetcher module).outcome with
    | none => exact ih.cons module
    | some outcome => exact ih.cons_cons module

theorem ReferenceSet.isOrder_answers (set : ReferenceSet) (fetcher : Fetcher) :
    set.IsOrder (fetcher.answers set.toList) where
  of_set _ hmem := (Fetcher.mem_answers_iff.mp hmem).1
  once := (fetcher.sublist_answers set.toList).nodup (set.pairwise_toList.imp String.ne_of_lt)

/-! ## Modules on their way -/

/-- What has arrived of the modules of a set are answers of the source. -/
def ReferenceSet.HasArrived (set : ReferenceSet) (fetcher : Fetcher) (arrived : References) :
    Prop :=
  ∀ module bytes, arrived.get? module = some bytes →
    module ∈ set.toList ∧ (fetcher module).outcome = some (.ok bytes)

namespace ReferenceSet

variable {set : ReferenceSet} {arrived : References} {module : String}

theorem HasArrived.insert (h : set.HasArrived fetcher arrived) {bytes : ByteArray}
    (hmodule : module ∈ set.toList) (houtcome : (fetcher module).outcome = some (.ok bytes)) :
    set.HasArrived fetcher (arrived.insert module bytes) := by
  intro other content hother
  rw [Dictionary.get?_insert] at hother
  split at hother
  · next heq =>
    obtain rfl := Option.some.inj hother
    exact heq ▸ ⟨hmodule, houtcome⟩
  · exact h other content hother

/-- When all modules have arrived, they are what is there in whatever order they are fetched. -/
theorem HasArrived.resolve_answers (h : set.HasArrived fetcher arrived)
    (hnone : set.unresolved arrived = []) :
    set.resolve (fetcher.answers set.toList) = .resolved arrived := by
  have hall := unresolved_eq_nil_iff.mp hnone
  have hget : ∀ module bytes, arrived.get? module = some bytes
      ↔ ⟨module, .ok bytes⟩ ∈ fetcher.answers set.toList := by
    intro module bytes
    rw [Fetcher.mem_answers_iff]
    constructor
    · exact h module bytes
    · rintro ⟨hmodule, houtcome⟩
      obtain ⟨content, hcontent⟩ := hall module hmodule
      obtain ⟨-, hanswer⟩ := h module content hcontent
      rw [hcontent, Except.ok.inj (Option.some.inj (hanswer.symm.trans houtcome))]
  rw [(set.isOrder_answers fetcher).resolve_eq_resolved_iff]
  exact ⟨fun module hmodule => (hall module hmodule).imp fun bytes => (hget module bytes).mp, hget⟩

/-- A module that fails is a failure in whatever order the modules are fetched. -/
theorem exists_resolve_answers_eq_failed (hmodule : module ∈ set.toList) {cause : FetchError}
    (houtcome : (fetcher module).outcome = some (.error cause)) :
    ∃ e, set.resolve (fetcher.answers set.toList) = .failed e := by
  rcases exists_first_failure (fetcher.answers set.toList) with
    hall | ⟨front, failing, why, rest, hsplit, hfront⟩
  · obtain ⟨bytes, hbytes⟩ := hall ⟨module, .error cause⟩
      (Fetcher.mem_answers_iff.mpr ⟨hmodule, houtcome⟩)
    cases hbytes
  · rw [hsplit]
    exact ⟨_, resolve_of_failure hfront failing why rest⟩

end ReferenceSet

/-! ## Calls -/

/-- How far a call may have come, told by what the request leads to. -/
inductive Progress.IsSound (fetcher : Fetcher) (backend : Backend) (request : Request) :
    Progress → Prop
  | issued : IsSound fetcher backend request .issued
  | collecting {source : Source.Generated} {arrived : References}
    (hsource : request.source = .ok source)
    (harrived : request.references.HasArrived fetcher arrived) :
    IsSound fetcher backend request (.collecting source arrived)
  | ready {source : Source.Generated} {references : References}
    (hsource : request.source = .ok source)
    (hreferences : request.references.resolve (fetcher.answers request.references.toList)
      = .resolved references) :
    IsSound fetcher backend request (.ready source references)
  | made {template : Template}
    (hresult : request.result? fetcher backend = some (.ok template.renderer)) :
    IsSound fetcher backend request (.made template)
  | succeeded {template : Template}
    (hresult : request.result? fetcher backend = some (.ok template.renderer)) :
    IsSound fetcher backend request (.ended (.ok template))
  | failed {e cause : Error} (hresult : request.result? fetcher backend = some (.error cause)) :
    IsSound fetcher backend request (.ended (.error e))

/-- An engine that builds with the backend and keeps nothing but what its requests lead to. -/
structure Engine.IsSound (fetcher : Fetcher) (backend : Backend) (engine : Engine) : Prop where
  /-- The engine has the backend. -/
  builds : engine.backend = backend
  /-- What is kept for a request is what comes of the request. -/
  cache : ∀ entry ∈ engine.cache,
    entry.1.result? fetcher backend = some (.ok entry.2.renderer)

/-- What one step does to a call and to its engine. -/
inductive Call.Step (fetcher : Fetcher) (engine : Engine) (request : Request) :
    Progress → Engine → Progress → Prop
  | idle (progress : Progress) : Step fetcher engine request progress engine progress
  | hit {template : Template} (hcached : engine.cached? request = some template) :
    Step fetcher engine request .issued engine (.ended (.ok template))
  | rejected {e : Error} (hsource : request.source = .error e) :
    Step fetcher engine request .issued engine (.ended (.error e))
  | started {source : Source.Generated} (hsource : request.source = .ok source) :
    Step fetcher engine request .issued engine
      (.ofResolution source (request.references.resolve []))
  | asked {source : Source.Generated} {arrived : References} (module : String) :
    Step fetcher engine request (.collecting source arrived) (engine.ask module)
      (.collecting source arrived)
  | delivered {source : Source.Generated} {module : String} {arrived : References}
    {outcome : Except FetchError ByteArray}
    (hmodule : module ∈ request.references.unresolved arrived)
    (houtcome : (fetcher module).outcome = some outcome) :
    Step fetcher engine request (.collecting source arrived) engine
      (.ofResolution source (request.references.resolveFrom arrived [⟨module, outcome⟩]))
  | failed {source : Source.Generated} {references : References} {e : Error}
    (hbuild : (engine.backend.build source references).bind (Unit.load · request.model)
      = .error e) :
    Step fetcher engine request (.ready source references)
      { engine with built := engine.built ++ [(source, references)] } (.ended (.error e))
  | made {source : Source.Generated} {references : References} {renderer : Renderer}
    (hbuild : (engine.backend.build source references).bind (Unit.load · request.model)
      = .ok renderer) :
    Step fetcher engine request (.ready source references)
      { engine with built := engine.built ++ [(source, references)], made := engine.made + 1 }
      (.made ⟨engine.made, renderer⟩)
  | kept (template : Template) :
    Step fetcher engine request (.made template) (engine.keep request template)
      (.ended (.ok template))

variable {engine engine' : Engine} {progress progress' : Progress}

theorem Request.result?_of_error {e : Error} (hsource : request.source = .error e) :
    request.result? fetcher backend = some (.error e) := by
  rw [result?, hsource]

theorem Request.result?_of_resolved {source : Source.Generated} {references : References}
    (hsource : request.source = .ok source)
    (hreferences : request.references.resolve (fetcher.answers request.references.toList)
      = .resolved references) :
    request.result? fetcher backend
      = some ((backend.build source references).bind (Unit.load · request.model)) := by
  rw [result?, hsource]
  dsimp only
  rw [hreferences]

namespace Progress

/-- A call goes on when its last module has arrived, and waits before that. -/
theorem isSound_ofResolution {source : Source.Generated} {arrived : References}
    (hsource : request.source = .ok source)
    (harrived : request.references.HasArrived fetcher arrived) :
    IsSound fetcher backend request
      (.ofResolution source (request.references.resolveFrom arrived [])) := by
  rw [ReferenceSet.resolveFrom]
  split
  · next hnone =>
    exact .ready hsource (harrived.resolve_answers (List.isEmpty_iff.mp hnone))
  · exact .collecting hsource harrived

/-- A module that arrives adds to what is there, and one that fails ends the call. -/
theorem isSound_delivered {source : Source.Generated} {module : String} {arrived : References}
    {outcome : Except FetchError ByteArray} (hsource : request.source = .ok source)
    (harrived : request.references.HasArrived fetcher arrived)
    (hmodule : module ∈ request.references.toList)
    (houtcome : (fetcher module).outcome = some outcome) :
    IsSound fetcher backend request
      (.ofResolution source (request.references.resolveFrom arrived [⟨module, outcome⟩])) := by
  cases outcome with
  | ok bytes => exact isSound_ofResolution hsource (harrived.insert hmodule houtcome)
  | error cause =>
    obtain ⟨e, he⟩ := ReferenceSet.exists_resolve_answers_eq_failed hmodule houtcome
    have hresult : request.result? fetcher backend = some (.error e) := by
      rw [Request.result?, hsource]
      dsimp only
      rw [he]
    exact .failed hresult

theorem eq_ended_of_outcome? {outcome : Except Error Template}
    (h : progress.outcome? = some outcome) : progress = .ended outcome := by
  cases progress with
  | ended result => rw [Option.some.inj h]
  | issued => cases h
  | collecting source arrived => cases h
  | ready source references => cases h
  | made template => cases h

/-- The outcome of a call is what the request leads to, whatever its error may be. -/
theorem IsSound.exists_result {outcome : Except Error Template}
    (h : IsSound fetcher backend request (.ended outcome)) :
    ∃ result, request.result? fetcher backend = some result
      ∧ result.toOption = outcome.toOption.map (·.renderer) := by
  cases h with
  | succeeded hresult => exact ⟨_, hresult, rfl⟩
  | failed hresult => exact ⟨_, hresult, rfl⟩

end Progress

namespace Engine

theorem cache_keep (engine : Engine) (request : Request) (template : Template) :
    (engine.keep request template).cache
      = if engine.kept.isSome then
          (request, template) :: engine.cache.filter fun entry => entry.1 != request
        else [] := by
  rw [cache, cache, keep]
  cases engine.kept with
  | none => rfl
  | some kept => rfl

theorem mem_of_cached? {template : Template} (h : engine.cached? request = some template) :
    (request, template) ∈ engine.cache := by
  obtain ⟨front, rest, hsplit, -⟩ := List.lookup_eq_some_iff.mp h
  rw [hsplit]
  exact List.mem_append_right front List.mem_cons_self

theorem IsSound.keep (h : engine.IsSound fetcher backend) {template : Template}
    (hresult : request.result? fetcher backend = some (.ok template.renderer)) :
    (engine.keep request template).IsSound fetcher backend where
  builds := h.builds
  cache entry hentry := by
    rw [cache_keep] at hentry
    split at hentry
    · rcases List.mem_cons.mp hentry with rfl | hmem
      · exact hresult
      · exact h.cache entry (List.mem_of_mem_filter hmem)
    · cases hentry

end Engine

namespace Call

theorem advance_of_error {source : Source.Generated} {references : References} {e : Error}
    (hbuild : (engine.backend.build source references).bind (Unit.load · request.model)
      = .error e) :
    Call.advance engine ⟨request, .ready source references⟩
      = ({ engine with built := engine.built ++ [(source, references)] },
        ⟨request, .ended (.error e)⟩) := by
  simp only [advance, Engine.make, hbuild]

theorem advance_of_ok {source : Source.Generated} {references : References} {renderer : Renderer}
    (hbuild : (engine.backend.build source references).bind (Unit.load · request.model)
      = .ok renderer) :
    Call.advance engine ⟨request, .ready source references⟩
      = ({ engine with built := engine.built ++ [(source, references)], made := engine.made + 1 },
        ⟨request, .made ⟨engine.made, renderer⟩⟩) := by
  simp only [advance, Engine.make, hbuild]

/-- A step leaves a call and its engine with nothing but what requests lead to. -/
theorem Step.isSound (hstep : Step fetcher engine request progress engine' progress')
    (hengine : engine.IsSound fetcher backend)
    (hprogress : progress.IsSound fetcher backend request) :
    engine'.IsSound fetcher backend ∧ progress'.IsSound fetcher backend request := by
  cases hstep with
  | idle => exact ⟨hengine, hprogress⟩
  | @hit template hcached =>
    have hresult := hengine.cache (request, template) (Engine.mem_of_cached? hcached)
    exact ⟨hengine, .succeeded hresult⟩
  | rejected hsource => exact ⟨hengine, .failed (Request.result?_of_error hsource)⟩
  | started hsource =>
    have harrived : request.references.HasArrived fetcher ∅ := fun _ _ h => nomatch h
    exact ⟨hengine, Progress.isSound_ofResolution hsource harrived⟩
  | asked module => exact ⟨⟨hengine.builds, hengine.cache⟩, hprogress⟩
  | delivered hmodule houtcome =>
    cases hprogress with
    | collecting hsource harrived =>
      exact ⟨hengine, Progress.isSound_delivered hsource harrived
        (ReferenceSet.mem_unresolved_iff.mp hmodule).1 houtcome⟩
  | @failed source references e hbuild =>
    cases hprogress with
    | ready hsource hreferences =>
      rw [hengine.builds] at hbuild
      have hresult : request.result? fetcher backend = some (.error e) := by
        rw [Request.result?_of_resolved hsource hreferences, hbuild]
      exact ⟨⟨hengine.builds, hengine.cache⟩, .failed hresult⟩
  | made hbuild =>
    cases hprogress with
    | ready hsource hreferences =>
      rw [hengine.builds] at hbuild
      refine ⟨⟨hengine.builds, hengine.cache⟩, .made ?_⟩
      rw [Request.result?_of_resolved hsource hreferences, hbuild]
  | kept template =>
    cases hprogress with
    | made hresult => exact ⟨hengine.keep hresult, .succeeded hresult⟩

end Call

end Stencil
