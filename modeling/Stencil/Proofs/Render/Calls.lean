import Mathlib
import Stencil.Proofs.Render.Failure
import Stencil.Proofs.Render.Lifecycle

/-!
# What an execution asks the services

A session keeps the value of every dependency that has been answered, so that a service is asked for
the first path from a name and for none behind it. What an execution asks for is told from the
demands of its body: the first occurrences of the demanded names, up to the first name that has no
answer (`Instance.asked_execute`). Values are kept by the name of the dependency. A service that is
registered under one name is asked once at most by each of many renderings, and a service that is
registered under several is asked for each of them (`Renderer.exists_render_shared`).
-/

namespace Stencil

variable {registry : ServiceRegistry} {around : Surroundings} {services : Dictionary Provider}
  {session : Session} {said : Replies} {name : String} {value : Value} {inst : Instance}

/-! ## What the paths read -/

namespace Expression

mutual

/-- What the paths of an evaluation read from the services, with the names of the dependencies, in
the order in which the paths are evaluated. -/
def reads (around : Surroundings) (session : Session) : Expression → List (String × Value)
  | .literal _ => []
  | .path root _ =>
    if root = modelRoot then []
    else
      match session.serviceValue around root with
      | (.ok value, _) => [(root, value)]
      | (.error _, _) => []
  | .coalesce operands => firstReads around session operands

/-- What is read to find the first operand that is not null. -/
def firstReads (around : Surroundings) (session : Session) :
    List Expression → List (String × Value)
  | [] => []
  | operand :: operands =>
    reads around session operand
      ++ match evaluate around session operand with
        | (.ok value, session) =>
          if value.isNull then firstReads around session operands else []
        | (.error _, _) => []

end

theorem result_of_mem_reads_path (hopen : session.IsOpen) {root : String} {steps : List Step}
    (hfits : said.Fits around.services (evaluatePath around session root steps).2)
    (hread : (name, value) ∈ (path root steps).reads around session) :
    said.result name = .ok value := by
  rw [reads] at hread
  split at hread
  · exact absurd hread List.not_mem_nil
  · next hroot =>
    rw [session_evaluatePath hroot] at hfits
    obtain ⟨hresult, -⟩ := hopen.obtains_serviceValue hfits
    split at hread
    · next taken known htaken =>
      obtain ⟨rfl, rfl⟩ := Prod.mk.inj (List.mem_singleton.mp hread)
      rw [← hresult, htaken]
    · exact absurd hread List.not_mem_nil

mutual

/-- Whatever is read from a service is what it has said for the name. -/
theorem result_of_mem_reads {session : Session} (hopen : session.IsOpen) (around : Surroundings)
    (e : Expression) (hfits : said.Fits around.services (e.evaluate around session).2)
    (hread : (name, value) ∈ e.reads around session) : said.result name = .ok value := by
  cases e with
  | literal constant =>
    rw [reads] at hread
    exact absurd hread List.not_mem_nil
  | path root steps =>
    rw [evaluate] at hfits
    exact result_of_mem_reads_path hopen hfits hread
  | coalesce operands =>
    rw [evaluate] at hfits
    rw [reads] at hread
    exact result_of_mem_firstReads hopen around operands hfits hread

theorem result_of_mem_firstReads {session : Session} (hopen : session.IsOpen)
    (around : Surroundings) (operands : List Expression)
    (hfits : said.Fits around.services (evaluateFirst around session operands).2)
    (hread : (name, value) ∈ firstReads around session operands) :
    said.result name = .ok value := by
  cases operands with
  | nil =>
    rw [firstReads] at hread
    exact absurd hread List.not_mem_nil
  | cons operand operands =>
    have hleads := leads_evaluate hopen around operand
    rw [firstReads, List.mem_append] at hread
    rw [evaluateFirst] at hfits
    rcases hfirst : evaluate around session operand with ⟨halt | first, known⟩
    · rw [hfirst] at hfits hread
      rcases hread with hread | hread
      · exact result_of_mem_reads hopen around operand (hfirst ▸ hfits) hread
      · exact absurd hread List.not_mem_nil
    · rw [hfirst] at hfits hread hleads
      dsimp only at hfits hread
      have hknown : known.IsOpen := hleads.isOpen first rfl
      by_cases hnull : first.isNull = true
      · rw [if_pos hnull] at hfits hread
        have hbefore := hfits.of_reaches (leads_evaluateFirst hknown around operands).reaches
        rcases hread with hread | hread
        · exact result_of_mem_reads hopen around operand (hfirst ▸ hbefore) hread
        · exact result_of_mem_firstReads hknown around operands hfits hread
      · rw [if_neg hnull] at hfits hread
        rcases hread with hread | hread
        · exact result_of_mem_reads hopen around operand (hfirst ▸ hfits) hread
        · exact absurd hread List.not_mem_nil

end

end Expression

namespace Instance

/-- What the paths of a run read from the services, in order. -/
def readsOf (around : Surroundings) : List Instruction → Session → List (String × Value)
  | [], _ => []
  | .writeLiteral _ :: rest, session => readsOf around rest session
  | .write e :: rest, session =>
    e.reads around session
      ++ match e.evaluate around session with
        | (.ok _, session) => readsOf around rest session
        | (.error _, _) => []

/-- What the paths of an execution read from the services, in order. -/
def reads (inst : Instance) (asked : List String) : List (String × Value) :=
  match inst.rendering.begin with
  | .ok begun =>
    readsOf ⟨begun.model, inst.services⟩ inst.renderer.image.body
      ⟨inst.known, inst.heard, asked⟩
  | .error _ => []

theorem result_of_mem_readsOf (hopen : session.IsOpen) {body : List Instruction}
    (rendering : Rendering) (hfits : said.Fits services (run services body rendering session).2.2)
    (hread : (name, value) ∈ readsOf ⟨rendering.model, services⟩ body session) :
    said.result name = .ok value := by
  induction body generalizing rendering session with
  | nil => exact absurd hread List.not_mem_nil
  | cons instruction body ih =>
    cases instruction with
    | writeLiteral text => exact ih hopen (rendering.writeLiteral text) hfits hread
    | write e =>
      have hleads := e.leads_evaluate hopen ⟨rendering.model, services⟩
      rw [readsOf, List.mem_append] at hread
      rw [run] at hfits
      rcases hvalue : e.evaluate ⟨rendering.model, services⟩ session with ⟨halt | first, known⟩
      · rw [hvalue] at hfits hread
        rcases hread with hread | hread
        · exact e.result_of_mem_reads hopen ⟨rendering.model, services⟩ (hvalue ▸ hfits) hread
        · exact absurd hread List.not_mem_nil
      · rw [hvalue] at hfits hread hleads
        dsimp only at hfits hread
        have hknown : known.IsOpen := hleads.isOpen first rfl
        have hbefore : said.Fits services
            (e.evaluate ⟨rendering.model, services⟩ session).2 := by
          rw [hvalue]
          exact hfits.of_reaches (leads_run hknown services body _).reaches
        rcases hread with hread | hread
        · exact e.result_of_mem_reads hopen ⟨rendering.model, services⟩ hbefore hread
        · exact ih hknown (rendering.write first) hfits hread

/-- What an execution reads is what it has been told. -/
theorem IsFresh.result_of_mem_reads (h : inst.IsFresh) {asked : List String}
    (hread : (name, value) ∈ inst.reads asked) :
    (inst.told asked).result name = .ok value := by
  have hfits := h.fits_told asked
  rw [(h.execute_eq asked).2.1] at hfits
  rw [reads, Rendering.begin, h.state, h.known, h.heard] at hread
  exact result_of_mem_readsOf (Session.isOpen_start asked)
    { inst.rendering with state := .executing } hfits hread

/-! ## What an execution asks for -/

/-- The names that an execution asks for, in order. -/
def calls (inst : Instance) (asked : List String) : List String :=
  (inst.left asked).names.drop inst.heard.length

/-- The first occurrences of the names that an execution demands, up to the first name that has no
answer. Nothing is demanded by an execution that is not the first. -/
def demanded (inst : Instance) (asked : List String) : List String :=
  match inst.rendering.state with
  | .created =>
    let said := inst.told asked
    (said.asksFor (inst.renderer.image.body.flatMap
      (Instruction.demands (inst.rendering.model.getD .null) said.value))).eraseDups
  | .executing | .completed => []

theorem execute_of_ne_created (hstate : inst.rendering.state ≠ .created) (asked : List String) :
    (inst.execute asked).2 = (inst, asked) := by
  rw [execute, Rendering.begin_eq, if_neg hstate]

theorem calls_of_ne_created (hstate : inst.rendering.state ≠ .created) (asked : List String) :
    inst.calls asked = [] := by
  rw [calls, left, execute_of_ne_created hstate, Session.names]
  exact List.drop_of_length_le (by simp)

theorem IsFresh.calls_eq (h : inst.IsFresh) (asked : List String) :
    inst.calls asked = (inst.left asked).names := by
  rw [calls, h.heard]
  rfl

/-- An execution asks for what it demands. -/
theorem calls_eq_demanded (hfresh : inst.rendering.state = .created → inst.IsFresh)
    (asked : List String) : inst.calls asked = inst.demanded asked := by
  rw [demanded]
  split
  · next hstate =>
    have h := hfresh hstate
    exact (h.calls_eq asked).trans (h.obtains_execute asked).1.names
  · next hstate => exact calls_of_ne_created (by simp [hstate]) asked
  · next hstate => exact calls_of_ne_created (by simp [hstate]) asked

theorem nodup_calls (hfresh : inst.rendering.state = .created → inst.IsFresh)
    (asked : List String) : (inst.calls asked).Nodup := by
  by_cases hstate : inst.rendering.state = .created
  · rw [(hfresh hstate).calls_eq]
    exact (hfresh hstate).nodup_left asked
  · rw [calls_of_ne_created hstate]
    exact List.nodup_nil

/-- The services that have been asked afterwards are those of the names that are asked for. -/
theorem asked_execute_eq (hfresh : inst.rendering.state = .created → inst.IsFresh)
    (asked : List String) :
    (inst.execute asked).2.2
      = ((inst.calls asked).filterMap
          (ServiceRegistry.label? ⟨inst.services, asked⟩)).reverse ++ asked := by
  by_cases hstate : inst.rendering.state = .created
  · have h := hfresh hstate
    rw [h.calls_eq]
    exact (h.follows_left asked).asked.trans (ServiceRegistry.asked_askAll ..)
  · rw [calls_of_ne_created hstate, execute_of_ne_created hstate]
    rfl

end Instance

/-! ## How often a service is asked -/

/-- The dependencies of a renderer that the service of a label is registered for. -/
def Renderer.aliases (renderer : Renderer) (services : Dictionary Provider) (label : String) :
    List String :=
  renderer.image.dependencies.eraseDups.filter fun name =>
    (services.get? name).map (·.label) == some label

theorem Renderer.mem_aliases_iff {renderer : Renderer} {label : String} :
    name ∈ renderer.aliases services label
      ↔ name ∈ renderer.image.dependencies
        ∧ (services.get? name).map (·.label) = some label := by
  simp [aliases]

/-- Names that come once each have a label as often as there are names of that label at most. -/
theorem count_filterMap_le {names others : List String} (honce : names.Nodup)
    {label? : String → Option String} {label : String}
    (hnames : ∀ name ∈ names, label? name = some label → name ∈ others) :
    (names.filterMap label?).count label ≤ others.length := by
  rw [List.count_filterMap, List.countP_eq_length_filter]
  refine (List.subperm_of_subset (honce.filter _) fun name hname => ?_).length_le
  obtain ⟨hmem, hlabel⟩ := List.mem_filter.mp hname
  exact hnames name hmem (eq_of_beq hlabel)

/-- A rendering asks a service once at most for each dependency that the service is registered
for. -/
theorem Renderer.count_asked_render_le (renderer : Renderer) (registry : ServiceRegistry)
    (model : Value) (label : String) :
    (renderer.render registry model).2.asked.count label
      ≤ registry.asked.count label + (renderer.aliases registry.services label).length := by
  cases hactivate : registry.activate renderer with
  | error e =>
    rw [render, hactivate]
    exact Nat.le_add_right _ _
  | ok inst =>
    have hfresh := (ServiceRegistry.isFresh_of_activate hactivate).withModel model
    have honce := Instance.nodup_calls (fun _ => hfresh) registry.asked
    rw [render_of_activate hactivate]
    dsimp only
    rw [Instance.asked_execute_eq fun _ => hfresh, List.count_append, List.count_reverse,
      Nat.add_comm]
    refine Nat.add_le_add_left (count_filterMap_le honce fun name _ hlabel => ?_) _
    obtain rfl := ServiceRegistry.eq_of_activate hactivate
    -- An instance has the services of the dependencies only.
    rw [ServiceRegistry.label?, Instance.withModel] at hlabel
    dsimp only at hlabel
    rw [ServiceRegistry.get?_servicesOf] at hlabel
    split at hlabel
    · next hname => exact mem_aliases_iff.mpr ⟨hname, hlabel⟩
    · cases hlabel

/-- The labels of the services that have been asked when renderings have been made one after the
other, each of a renderer with services and a model of its own. -/
def askedAfter (asked : List String) :
    List (Renderer × Dictionary Provider × Value) → List String
  | [] => asked
  | (renderer, services, model) :: rest =>
    askedAfter (renderer.render ⟨services, asked⟩ model).2.asked rest

theorem count_askedAfter_le (asked : List String)
    (renders : List (Renderer × Dictionary Provider × Value)) (label : String) :
    (askedAfter asked renders).count label
      ≤ asked.count label
        + (renders.map fun render => (render.1.aliases render.2.1 label).length).sum := by
  induction renders generalizing asked with
  | nil => exact le_rfl
  | cons first rest ih =>
    obtain ⟨renderer, services, model⟩ := first
    have hfirst := renderer.count_asked_render_le ⟨services, asked⟩ model label
    have hrest := ih (renderer.render ⟨services, asked⟩ model).2.asked
    rw [askedAfter, List.map_cons, List.sum_cons]
    dsimp only at hfirst ⊢
    omega

/-- Of renderings one after the other, each asks a service once at most that is registered for one
dependency at most. -/
theorem count_askedAfter_le_length (asked : List String)
    {renders : List (Renderer × Dictionary Provider × Value)} {label : String}
    (hsingle : ∀ render ∈ renders, (render.1.aliases render.2.1 label).length ≤ 1) :
    (askedAfter asked renders).count label ≤ asked.count label + renders.length := by
  have hsum := List.sum_le_card_nsmul
    (renders.map fun render => (render.1.aliases render.2.1 label).length) 1
    (List.forall_mem_map.mpr hsingle)
  rw [List.length_map, smul_eq_mul, Nat.mul_one] at hsum
  exact (count_askedAfter_le asked renders label).trans (Nat.add_le_add_left hsum _)

/-! ## Activated instances -/

/-- An execution asks for the first occurrences of what its body demands, up to the first name that
has no answer, so that it asks for none twice. This holds of every activated instance, whatever has
been done with it before and whatever the services say. Paths from one name read one value. Of
renderings one after the other, each asks a service once at most for each of the dependencies that
the service is registered for, so that a service that is registered for one is asked once at most by
each. -/
theorem Instance.asked_execute {renderer : Renderer}
    (hactivate : registry.activate renderer = .ok inst) (operations : List Operation)
    (earlier asked : List String) :
    let ready := inst.after earlier operations
    ready.calls asked = ready.demanded asked
      ∧ (ready.calls asked).Nodup
      ∧ (ready.execute asked).2.2
        = ((ready.calls asked).filterMap
            (ServiceRegistry.label? ⟨ready.services, asked⟩)).reverse ++ asked
      ∧ (∀ name value other, (name, value) ∈ ready.reads asked →
          (name, other) ∈ ready.reads asked → value = other)
      ∧ ∀ renders label,
          (askedAfter asked renders).count label
              ≤ asked.count label
                + (renders.map fun render => (render.1.aliases render.2.1 label).length).sum
            ∧ ((∀ render ∈ renders, (render.1.aliases render.2.1 label).length ≤ 1) →
              (askedAfter asked renders).count label ≤ asked.count label + renders.length) := by
  intro ready
  have hfresh : ready.rendering.state = .created → ready.IsFresh :=
    isFresh_after (ServiceRegistry.isFresh_of_activate hactivate) earlier operations
  refine ⟨calls_eq_demanded hfresh asked, nodup_calls hfresh asked, asked_execute_eq hfresh asked,
    ?_, fun renders label =>
      ⟨count_askedAfter_le asked renders label, count_askedAfter_le_length asked⟩⟩
  intro name value other hvalue hother
  by_cases hstate : ready.rendering.state = .created
  · have hsaid := (hfresh hstate).result_of_mem_reads hvalue
    rw [(hfresh hstate).result_of_mem_reads hother] at hsaid
    exact (Except.ok.inj hsaid).symm
  · rw [reads, Rendering.begin_eq, if_neg hstate] at hvalue
    exact absurd hvalue List.not_mem_nil

/-- An execution of a body with nine paths asks for four names: the first says nothing, so that the
second is asked for, the third is another name of its service, and the fourth fails. Two renderings
ask the service of two names four times at most. -/
theorem Instance.exists_asked_execute :
    ∃ (registry : ServiceRegistry) (renderer : Renderer) (inst : Instance),
      registry.activate renderer = .ok inst
        ∧ (inst.after [] [.writeLiteral "It is "]).calls ["clock"]
          = ["Tenant", "Clock", "Watch", "Pricing"]
        ∧ ((inst.after [] [.writeLiteral "It is "]).execute ["clock"]).2.2
          = ["pricing", "clock", "clock", "tenant"] ++ ["clock"]
        ∧ (askedAfter ["clock"] [(renderer, registry.services, .null),
            (renderer, registry.services, .null)]).count "clock" ≤ 5 := by
  let services : Dictionary Provider := .ofList [("Clock", ⟨"clock", .counter⟩),
    ("Pricing", ⟨"pricing", .constant (.failure ["offline"])⟩),
    ("Tenant", ⟨"tenant", .constant (.value .null)⟩), ("Watch", ⟨"clock", .counter⟩)]
  let renderer : Renderer :=
    { unit := "u"
      image :=
        { name := "Template"
          base := ⟨"c", "m"⟩
          dependencies := ["Clock", "Pricing", "Tenant", "Watch"]
          body := [
            .write (.coalesce [.path "Tenant" [], .coalesce [.path "Clock" [.member "none"],
              .path "Clock" [.member "calls"], .path "Pricing" []]]),
            .write (.path "Tenant" []),
            .write (.path "Watch" []),
            .write (.coalesce [.path "Pricing" [], .path "Clock" []]),
            .write (.path "Clock" [])] } }
  obtain ⟨inst, hactivate⟩ : ∃ inst, ServiceRegistry.activate ⟨services, []⟩ renderer = .ok inst :=
    ⟨_, rfl⟩
  obtain ⟨hdemanded, -, hasked, -, hcount⟩ :=
    asked_execute hactivate [.writeLiteral "It is "] [] ["clock"]
  obtain rfl := ServiceRegistry.eq_of_activate hactivate
  have hnames :
      (after ⟨renderer, ServiceRegistry.servicesOf ⟨services, []⟩ renderer, .new, ∅, []⟩ []
        [.writeLiteral "It is "]).demanded ["clock"] = ["Tenant", "Clock", "Watch", "Pricing"] := by
    decide +kernel
  rw [hdemanded, hnames] at hasked
  exact ⟨⟨services, []⟩, renderer, _, hactivate, hdemanded.trans hnames,
    hasked.trans (by decide +kernel), ((hcount _ "clock").1).trans (by decide +kernel)⟩

/-- One service that is registered under two names is asked twice by a rendering that reads both,
and the paths from the one name read another value than those from the other: what is shown is
`12`. -/
theorem Renderer.exists_render_shared :
    ∃ (registry : ServiceRegistry) (renderer : Renderer) (inst : Instance) (provider : Provider)
      (first second : Value),
      (∀ e, .write e ∈ renderer.image.body → e.IsBound renderer.image.dependencies)
        ∧ registry.activate renderer = .ok inst
        ∧ inst.services.get? "Clock" = some provider ∧ inst.services.get? "Watch" = some provider
        ∧ ("Clock", first) ∈ inst.reads registry.asked
        ∧ ("Watch", second) ∈ inst.reads registry.asked ∧ first ≠ second
        ∧ (renderer.render registry .null).1 = .ok "12"
        ∧ ¬ (renderer.render registry .null).2.asked.count provider.label
            ≤ registry.asked.count provider.label + 1 := by
  let clock : Provider := ⟨"clock", .counter⟩
  let registry : ServiceRegistry := (ServiceRegistry.empty.share "Clock" clock).share "Watch" clock
  let renderer : Renderer :=
    { unit := "u"
      image :=
        { name := "Template"
          base := ⟨"c", "m"⟩
          dependencies := ["Clock", "Watch"]
          body := [.write (.path "Clock" [.member "calls"]),
            .write (.path "Watch" [.member "calls"])] } }
  have hactivate := (registry.activate_eq renderer).trans (if_pos (by decide +kernel))
  have hbound : ∀ e, .write e ∈ renderer.image.body →
      e.IsBound renderer.image.dependencies := by
    intro e he
    obtain rfl | rfl :
        e = .path "Clock" [.member "calls"] ∨ e = .path "Watch" [.member "calls"] := by
      simpa [renderer] using he
    · exact List.forall_mem_singleton.mpr (Or.inr (by simp [renderer]))
    · exact List.forall_mem_singleton.mpr (Or.inr (by simp [renderer]))
  have hreads : Instance.reads ⟨renderer, registry.servicesOf renderer, .new, ∅, []⟩ []
      = [("Clock", .object [("calls", .number (.whole 1))]),
        ("Watch", .object [("calls", .number (.whole 2))])] := by
    cbv
  have hshown : (renderer.render registry .null).1 = .ok "12" := by cbv
  refine ⟨registry, renderer, _, clock, _, _, hbound, hactivate, by cbv, by cbv,
    hreads ▸ List.mem_cons_self, hreads ▸ List.mem_cons_of_mem _ List.mem_cons_self, by simp,
    hshown, by decide +kernel⟩

end Stencil
