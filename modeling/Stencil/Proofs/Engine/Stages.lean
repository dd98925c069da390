import Mathlib
import Stencil.Engine.Call
import Stencil.Proofs.Module.Resolution

/-!
# The stages of a request

A request goes through seven stages: its text must not be blank, its model must have a name, its
markup must be well formed, the source is generated, the modules are fetched, the backend builds the
unit, and the renderer is loaded from it. What it fails with is the error of the first stage that
fails (`Request.Fails`), and it has a renderer when none does (`Request.Loads`). The steps of a call
compute both (`Request.fails_iff`, `Request.loads_iff`).
-/

namespace Stencil

variable {backend : Backend} {request : Request} {completions : List Completion}

/-- The references hold each module of the set, and nothing but the bytes that its fetch has
brought. -/
structure ReferenceSet.Gathers (set : ReferenceSet) (completions : List Completion)
    (references : References) : Prop where
  /-- The modules are those of the set. -/
  names : references.names = set.toList
  /-- The bytes are those of the completions. -/
  bytes : ∀ module bytes, references.get? module = some bytes
    ↔ ⟨module, .ok bytes⟩ ∈ completions

namespace Request

/-- The error of the first stage that fails, given the fetches that have completed, in order. Every
stage before it has passed. -/
inductive Fails (backend : Backend) (request : Request) (completions : List Completion) :
    Error → Prop
  | text (htext : Text.trim request.text.toList = []) :
    Fails backend request completions .emptyTemplate
  | model {e : Error} (htext : Text.trim request.text.toList ≠ [])
    (hmodel : request.model.sourceName = .error e) : Fails backend request completions e
  | markup {name : String} {failure : Markup.Failure}
    (htext : Text.trim request.text.toList ≠ []) (hmodel : request.model.sourceName = .ok name)
    (hmarkup : Markup.pieces request.text.toList = .error failure) :
    Fails backend request completions
      (.parse failure.problem.message (failure.place request.text.toList))
  | source {document : Markup.Document} {e : Error}
    (hdocument : Markup.Document.parse request.text request.model = .ok document)
    (hsource : Source.generated document = .error e) : Fails backend request completions e
  | references {source : Source.Generated} {module : String} {front rest : List Completion}
    {cause : FetchError} (hsource : request.source = .ok source)
    (hcompletions : completions = front ++ ⟨module, .error cause⟩ :: rest)
    (hfront : ∀ completion ∈ front, completion.IsSuccess) :
    Fails backend request completions
      (.referenceResolution module
        (request.references.toList.filter (· ∉ front.map (·.module))) cause.message)
  | backend {source : Source.Generated} {references : References} {e : Error}
    (hsource : request.source = .ok source)
    (hreferences : request.references.Gathers completions references)
    (hbuild : backend.build source references = .error e) : Fails backend request completions e
  | load {source : Source.Generated} {references : References} {unit : ByteArray} {e : Error}
    (hsource : request.source = .ok source)
    (hreferences : request.references.Gathers completions references)
    (hbuild : backend.build source references = .ok unit)
    (hload : Unit.load unit request.model = .error e) : Fails backend request completions e

/-- No stage fails, and the renderer is what has been loaded. -/
def Loads (backend : Backend) (request : Request) (completions : List Completion)
    (renderer : Renderer) : Prop :=
  ∃ source references unit, request.source = .ok source ∧
    request.references.Gathers completions references ∧
    backend.build source references = .ok unit ∧ Unit.load unit request.model = .ok renderer

/-- What the steps of a call make of a request, unless they wait for fetches. -/
def resultFrom? (backend : Backend) (request : Request) (completions : List Completion) :
    Option (Except Error Renderer) :=
  match request.source with
  | .error e => some (.error e)
  | .ok source =>
    match request.references.resolve completions with
    | .resolved references =>
      some ((backend.build source references).bind (Unit.load · request.model))
    | .failed e => some (.error e)
    | .waiting _ => none

/-! ## Source -/

theorem source_of_parse_error {e : Error}
    (h : Markup.Document.parse request.text request.model = .error e) :
    request.source = .error e := by
  rw [source, h]
  rfl

/-- A request has no source when one of the first four stages fails. -/
theorem fails_of_source_eq_error {e : Error} (h : request.source = .error e) :
    Fails backend request completions e := by
  cases hdocument : Markup.Document.parse request.text request.model with
  | ok document =>
    rw [source, hdocument] at h
    exact .source hdocument h
  | error cause =>
    obtain rfl := Except.error.inj ((source_of_parse_error hdocument).symm.trans h)
    rw [Markup.Document.parse] at hdocument
    split at hdocument
    · next htext =>
      cases hdocument
      exact .text (List.isEmpty_iff.mp htext)
    · next htext =>
      have htext : Text.trim request.text.toList ≠ [] := fun hnil =>
        htext (List.isEmpty_iff.mpr hnil)
      split at hdocument
      · next hmodel =>
        cases hdocument
        exact .model htext hmodel
      · next hmodel =>
        split at hdocument
        · next hmarkup =>
          cases hdocument
          exact .markup htext hmodel hmarkup
        · cases hdocument

/-! ## Modules -/

/-- The references that completions have brought are those that the resolution has. -/
theorem gathers_iff {set : ReferenceSet} (h : set.IsOrder completions) {references : References} :
    set.Gathers completions references ↔ set.resolve completions = .resolved references := by
  rw [h.resolve_eq_resolved_iff]
  constructor
  · rintro ⟨hnames, hbytes⟩
    refine ⟨fun module hmodule => ?_, hbytes⟩
    rw [← hnames, Dictionary.mem_names_iff] at hmodule
    exact hmodule.imp fun bytes => (hbytes module bytes).mp
  · rintro ⟨hall, hbytes⟩
    exact ⟨h.names_eq hall hbytes, hbytes⟩

/-- What a failure leaves unresolved are the modules that have not been fetched before it. -/
theorem unresolved_receive {set : ReferenceSet} {front : List Completion}
    (h : set.IsOrder front) (hfront : ∀ completion ∈ front, completion.IsSuccess) :
    set.unresolved (References.receive ∅ front)
      = set.toList.filter (· ∉ front.map (·.module)) := by
  refine List.filter_congr fun module _ => ?_
  rw [Dictionary.contains, Bool.eq_iff_iff, Bool.not_eq_true', Option.isSome_eq_false_iff,
    Option.isNone_iff_eq_none, decide_eq_true_eq, List.mem_map, Option.eq_none_iff_forall_ne_some]
  simp only [ne_eq, h.get?_receive]
  constructor
  · rintro hnone ⟨⟨name, outcome⟩, hmem, rfl⟩
    obtain ⟨bytes, rfl⟩ := hfront _ hmem
    exact hnone bytes hmem
  · exact fun hnone bytes hmem => hnone ⟨_, hmem, rfl⟩

/-! ## What a request comes to -/

theorem resultFrom?_of_error {e : Error} (hsource : request.source = .error e) :
    request.resultFrom? backend completions = some (.error e) := by
  rw [resultFrom?, hsource]

theorem resultFrom?_of_ok {source : Source.Generated} (hsource : request.source = .ok source) :
    request.resultFrom? backend completions
      = match request.references.resolve completions with
        | .resolved references =>
          some ((backend.build source references).bind (Unit.load · request.model))
        | .failed e => some (.error e)
        | .waiting _ => none := by
  rw [resultFrom?, hsource]

theorem resultFrom?_of_resolved {source : Source.Generated} {references : References}
    (hsource : request.source = .ok source)
    (hresolved : request.references.resolve completions = .resolved references) :
    request.resultFrom? backend completions
      = some ((backend.build source references).bind (Unit.load · request.model)) := by
  rw [resultFrom?_of_ok hsource, hresolved]

/-- Where the steps of a request come to something, it has no source, a module of it has failed, or
the backend has been given the source with all modules. -/
theorem resultFrom?_cases {result : Except Error Renderer}
    (h : request.resultFrom? backend completions = some result) :
    (∃ e, request.source = .error e ∧ result = .error e) ∨
      ∃ source, request.source = .ok source ∧
        ((∃ e, request.references.resolve completions = .failed e ∧ result = .error e) ∨
          ∃ references, request.references.resolve completions = .resolved references ∧
            result = (backend.build source references).bind (Unit.load · request.model)) := by
  cases hsource : request.source with
  | error e =>
    rw [resultFrom?_of_error hsource] at h
    exact Or.inl ⟨e, rfl, (Option.some.inj h).symm⟩
  | ok source =>
    rw [resultFrom?_of_ok hsource] at h
    refine Or.inr ⟨source, rfl, ?_⟩
    cases hresolution : request.references.resolve completions with
    | resolved references =>
      rw [hresolution] at h
      exact Or.inr ⟨references, rfl, (Option.some.inj h).symm⟩
    | failed e =>
      rw [hresolution] at h
      exact Or.inl ⟨e, rfl, (Option.some.inj h).symm⟩
    | waiting arrived =>
      rw [hresolution] at h
      cases h

/-- A resolution fails with the first fetch that has failed. -/
theorem exists_failure_of_failed {set : ReferenceSet} (h : set.IsOrder completions) {e : Error}
    (hfailed : set.resolve completions = .failed e) :
    ∃ front module cause rest, completions = front ++ ⟨module, .error cause⟩ :: rest ∧
      (∀ completion ∈ front, completion.IsSuccess) ∧
      e = .referenceResolution module (set.toList.filter (· ∉ front.map (·.module)))
        cause.message := by
  rcases ReferenceSet.exists_first_failure completions with
    hall | ⟨front, module, cause, rest, rfl, hfront⟩
  · rw [ReferenceSet.resolve_of_success hall] at hfailed
    split at hfailed <;> cases hfailed
  · rw [ReferenceSet.resolve_of_failure hfront, unresolved_receive h.of_append hfront] at hfailed
    exact ⟨front, module, cause, rest, rfl, hfront, (Resolution.failed.inj hfailed).symm⟩

/-- The first stage that fails is where the steps stop. -/
theorem Fails.resultFrom?_eq {e : Error} (hfails : Fails backend request completions e)
    (h : request.references.IsOrder completions) :
    request.resultFrom? backend completions = some (.error e) := by
  cases hfails with
  | text htext =>
    refine resultFrom?_of_error (source_of_parse_error ?_)
    rw [Markup.Document.parse, htext]
    rfl
  | model htext hmodel =>
    refine resultFrom?_of_error (source_of_parse_error ?_)
    rw [Markup.Document.parse, if_neg (mt List.isEmpty_iff.mp htext), hmodel]
  | markup htext hmodel hmarkup =>
    refine resultFrom?_of_error (source_of_parse_error ?_)
    rw [Markup.Document.parse, if_neg (mt List.isEmpty_iff.mp htext), hmodel]
    dsimp only
    rw [hmarkup]
  | source hdocument hsource =>
    refine resultFrom?_of_error ?_
    rw [Request.source, hdocument]
    exact hsource
  | @references source module front rest cause hsource hcompletions hfront =>
    subst hcompletions
    rw [resultFrom?_of_ok hsource, ReferenceSet.resolve_of_failure hfront,
      unresolved_receive h.of_append hfront]
  | backend hsource hreferences hbuild =>
    rw [resultFrom?_of_resolved hsource ((gathers_iff h).mp hreferences), hbuild]
    rfl
  | load hsource hreferences hbuild hload =>
    rw [resultFrom?_of_resolved hsource ((gathers_iff h).mp hreferences), hbuild]
    exact congrArg some hload

/-- What a request fails with is what its steps come to. -/
theorem fails_iff (h : request.references.IsOrder completions) {e : Error} :
    Fails backend request completions e
      ↔ request.resultFrom? backend completions = some (.error e) := by
  refine ⟨fun hfails => hfails.resultFrom?_eq h, fun hresult => ?_⟩
  rcases resultFrom?_cases hresult with
    ⟨_, hsource, heq⟩ | ⟨source, hsource, ⟨_, hfailed, heq⟩ | ⟨references, hresolved, heq⟩⟩
  · cases heq
    exact fails_of_source_eq_error hsource
  · cases heq
    obtain ⟨front, module, cause, rest, hcompletions, hfront, rfl⟩ :=
      exists_failure_of_failed h hfailed
    exact .references hsource hcompletions hfront
  · have hreferences := (gathers_iff h).mpr hresolved
    cases hbuild : backend.build source references with
    | error cause =>
      rw [hbuild] at heq
      cases heq
      exact .backend hsource hreferences hbuild
    | ok unit =>
      rw [hbuild] at heq
      exact .load hsource hreferences hbuild heq.symm

/-- The renderer of a request is what its steps come to. -/
theorem loads_iff (h : request.references.IsOrder completions) {renderer : Renderer} :
    Loads backend request completions renderer
      ↔ request.resultFrom? backend completions = some (.ok renderer) := by
  constructor
  · rintro ⟨source, references, unit, hsource, hreferences, hbuild, hload⟩
    rw [resultFrom?_of_resolved hsource ((gathers_iff h).mp hreferences), hbuild]
    exact congrArg some hload
  · intro hresult
    rcases resultFrom?_cases hresult with
      ⟨_, -, heq⟩ | ⟨source, hsource, ⟨_, -, heq⟩ | ⟨references, hresolved, heq⟩⟩
    · cases heq
    · cases heq
    · cases hbuild : backend.build source references with
      | error cause =>
        rw [hbuild] at heq
        cases heq
      | ok unit =>
        rw [hbuild] at heq
        exact ⟨source, references, unit, hsource, (gathers_iff h).mpr hresolved, hbuild, heq.symm⟩

end Request

end Stencil
