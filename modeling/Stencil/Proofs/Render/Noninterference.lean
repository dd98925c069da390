import Mathlib
import Stencil.Proofs.Render.Calls

/-!
# What a rendering depends on

A rendering reads a model on the paths that its renderer writes down, and it meets the services of
the dependencies that its renderer declares. Two renderings for which those are the same know the
same at every point, so they come to the same text or to the same error and ask for the same
dependencies, whatever else the models and the registries hold (`Renderer.render_congr`).
-/

namespace Stencil

/-! ## Models that show the same -/

namespace Expression

variable {model model' : Value}

/-- Whether two models show the same on all paths of an expression. -/
def SeesSame (model model' : Value) (e : Expression) : Prop :=
  ∀ steps, (modelRoot, steps) ∈ e.paths → shownPart model steps = shownPart model' steps

theorem SeesSame.of_cons {operand : Expression} {operands : List Expression}
    (h : (coalesce (operand :: operands)).SeesSame model model') : operand.SeesSame model model' :=
  fun steps hsteps => h steps (List.mem_append_left _ hsteps)

theorem SeesSame.of_cons_rest {operand : Expression} {operands : List Expression}
    (h : (coalesce (operand :: operands)).SeesSame model model') :
    (coalesce operands).SeesSame model model' :=
  fun steps hsteps => h steps (List.mem_append_right _ hsteps)

end Expression

/-! ## Services that say the same -/

/-- Whether two registries say the same for names, whatever other names of these have been asked for
before, each once. -/
def ServiceRegistry.SaysSame (names : List String) (registry registry' : ServiceRegistry) : Prop :=
  ∀ earlier name, earlier.Nodup → earlier ⊆ names → name ∈ names → name ∉ earlier →
    registry.replyAfter earlier name = registry'.replyAfter earlier name

variable {registry registry' : ServiceRegistry} {around around' : Surroundings}
  {session session' : Session} {names : List String} {model model' : Value} {renderer : Renderer}

/-- Two sessions with registries of their own that know the same. -/
structure Session.Alike (registry registry' : ServiceRegistry) (session session' : Session) :
    Prop where
  /-- They know the same. -/
  known : session.known = session'.known
  /-- They have heard the same. -/
  heard : session.heard = session'.heard
  /-- The first has asked its registry. -/
  follows : session.Follows registry
  /-- The second has asked its registry. -/
  follows' : session'.Follows registry'

namespace Session

theorem Alike.names_eq (h : Alike registry registry' session session') :
    session.names = session'.names := by
  rw [names, names, h.heard]

/-- A session that is like one that can go on can go on as well. -/
theorem Alike.isOpen (h : Alike registry registry' session session') (hopen : session.IsOpen) :
    session'.IsOpen where
  known_iff := by
    rw [← h.known, ← h.heard]
    exact hopen.known_iff
  answered := by
    rw [← h.heard]
    exact hopen.answered
  once := by
    rw [← h.names_eq]
    exact hopen.once

theorem alike_start (registry registry' : ServiceRegistry) :
    Alike registry registry' ⟨∅, [], registry.asked⟩ ⟨∅, [], registry'.asked⟩ :=
  ⟨rfl, rfl, follows_start registry, follows_start registry'⟩

/-- What two evaluations come to: the same result, and sessions that know the same. -/
structure Agree {α : Type} (registry registry' : ServiceRegistry)
    (result result' : Except Halt α × Session) : Prop where
  /-- The results are the same. -/
  same : result.1 = result'.1
  /-- The sessions know the same. -/
  alike : Alike registry registry' result.2 result'.2

/-- Two evaluations that come to the same both fail, or both have the value. -/
theorem Agree.cases {α : Type} {result result' : Except Halt α × Session}
    (h : Agree registry registry' result result') :
    (∃ halt known known', result = (.error halt, known) ∧ result' = (.error halt, known')
        ∧ Alike registry registry' known known')
      ∨ ∃ value known known', result = (.ok value, known) ∧ result' = (.ok value, known')
        ∧ Alike registry registry' known known' := by
  obtain ⟨result, known⟩ := result
  obtain ⟨result', known'⟩ := result'
  obtain ⟨hsame, halike⟩ := h
  obtain rfl : result = result' := hsame
  cases result with
  | error halt => exact Or.inl ⟨halt, known, known', rfl, rfl, halike⟩
  | ok value => exact Or.inr ⟨value, known, known', rfl, rfl, halike⟩

/-- Whether the services of two registries are those of the given names and say the same for
them. -/
structure Meets (names : List String) (registry registry' : ServiceRegistry) : Prop where
  /-- The first has no other services. -/
  subset : ∀ name, registry.services.get? name ≠ none → name ∈ names
  /-- They say the same. -/
  same : registry.SaysSame names registry'
  /-- The second has no other services. -/
  subset' : ∀ name, registry'.services.get? name ≠ none → name ∈ names

theorem Follows.names_subset (h : session.Follows registry)
    (hsubset : ∀ name, registry.services.get? name ≠ none → name ∈ names) :
    session.names ⊆ names := by
  intro name hname
  obtain ⟨provider, hservice⟩ := h.exists_of_mem_names hname
  exact hsubset name (hservice ▸ Option.some_ne_none _)

/-- Two sessions that know the same are told the same when they ask for a name. -/
theorem Alike.replyAfter_eq (h : Alike registry registry' session session')
    (hopen : session.IsOpen) (hmeets : Meets names registry registry') {name : String}
    (hunknown : session.known.get? name = none) :
    registry.replyAfter session.names name = registry'.replyAfter session'.names name := by
  have hnew : name ∉ session.names := fun hmem => hopen.mem_names_iff.mp hmem hunknown
  rw [← h.names_eq]
  by_cases hname : name ∈ names
  · exact hmeets.same _ name hopen.once (h.follows.names_subset hmeets.subset) hname hnew
  · have hnone : registry.services.get? name = none := by
      by_contra hsome
      exact hname (hmeets.subset name hsome)
    have hnone' : registry'.services.get? name = none := by
      by_contra hsome
      exact hname (hmeets.subset' name hsome)
    rw [ServiceRegistry.replyAfter_eq, ServiceRegistry.replyAfter_eq, hnone, hnone']
    rfl

theorem agree_serviceValue (hmeets : Meets names registry registry')
    (halike : Alike registry registry' session session') (hopen : session.IsOpen)
    (haround : around.services = registry.services)
    (haround' : around'.services = registry'.services) (name : String) :
    Agree registry registry' (session.serviceValue around name)
      (session'.serviceValue around' name) := by
  cases hknown : session.known.get? name with
  | some value =>
    rw [serviceValue_of_known hknown, serviceValue_of_known (halike.known ▸ hknown)]
    exact ⟨rfl, halike⟩
  | none =>
    have hknown' : session'.known.get? name = none := halike.known ▸ hknown
    have hreply := halike.replyAfter_eq hopen hmeets hknown
    rw [ServiceRegistry.replyAfter_eq, ServiceRegistry.replyAfter_eq, ← halike.follows.asked,
      ← halike.follows'.asked] at hreply
    cases hservice : registry.services.get? name with
    | none =>
      rw [hservice, Option.map_none, eq_comm, Option.map_eq_none_iff] at hreply
      rw [serviceValue_of_absent hknown (haround ▸ hservice),
        serviceValue_of_absent hknown' (haround' ▸ hreply)]
      exact ⟨rfl, halike⟩
    | some provider =>
      rw [hservice, Option.map_some, eq_comm, Option.map_eq_some_iff] at hreply
      obtain ⟨provider', hservice', hanswer⟩ := hreply
      rw [serviceValue_of_unknown hknown (haround ▸ hservice),
        serviceValue_of_unknown hknown' (haround' ▸ hservice'), hanswer]
      exact ⟨rfl,
        { known := by simp only [hear, hanswer, halike.known]
          heard := by simp only [hear, hanswer, halike.heard]
          follows := Step.follows (.hear hopen hknown hservice) halike.follows
          follows' := Step.follows (.hear (halike.isOpen hopen) hknown' hservice')
            halike.follows' }⟩

end Session

/-! ## Evaluations and runs -/

namespace Expression

open Session (Meets Alike Agree)

theorem agree_evaluatePath (hmeets : Meets names registry registry')
    (haround : around.services = registry.services)
    (haround' : around'.services = registry'.services)
    (halike : Alike registry registry' session session') (hopen : session.IsOpen) {root : String}
    {steps : List Step}
    (hsees : (path root steps).SeesSame (around.model.getD .null) (around'.model.getD .null)) :
    Agree registry registry' (evaluatePath around session root steps)
      (evaluatePath around' session' root steps) := by
  by_cases hroot : root = modelRoot
  · subst hroot
    rw [evaluatePath_model, evaluatePath_model, hsees steps (List.mem_singleton_self _)]
    exact ⟨rfl, halike⟩
  · have hagree := Session.agree_serviceValue hmeets halike hopen haround haround' root
    rw [evaluatePath, evaluatePath, if_neg hroot, if_neg hroot]
    rcases hagree.cases with ⟨halt, known, known', hvalue, hvalue', hknown⟩
      | ⟨value, known, known', hvalue, hvalue', hknown⟩
    · rw [hvalue, hvalue']
      exact ⟨rfl, hknown⟩
    · rw [hvalue, hvalue']
      exact ⟨rfl, hknown⟩

mutual

/-- Two evaluations from sessions that know the same come to the same, if the models show the same
on the paths of the expression. -/
theorem agree_evaluate {session session' : Session} (hmeets : Meets names registry registry')
    (haround : around.services = registry.services)
    (haround' : around'.services = registry'.services)
    (halike : Alike registry registry' session session') (hopen : session.IsOpen) (e : Expression)
    (hsees : e.SeesSame (around.model.getD .null) (around'.model.getD .null)) :
    Agree registry registry' (e.evaluate around session) (e.evaluate around' session') := by
  cases e with
  | literal constant =>
    rw [evaluate, evaluate]
    exact ⟨rfl, halike⟩
  | path root steps =>
    rw [evaluate, evaluate]
    exact agree_evaluatePath hmeets haround haround' halike hopen hsees
  | coalesce operands =>
    rw [evaluate, evaluate]
    exact agree_evaluateFirst hmeets haround haround' halike hopen operands hsees

theorem agree_evaluateFirst {session session' : Session}
    (hmeets : Meets names registry registry') (haround : around.services = registry.services)
    (haround' : around'.services = registry'.services)
    (halike : Alike registry registry' session session') (hopen : session.IsOpen)
    (operands : List Expression)
    (hsees : (coalesce operands).SeesSame (around.model.getD .null) (around'.model.getD .null)) :
    Agree registry registry' (evaluateFirst around session operands)
      (evaluateFirst around' session' operands) := by
  cases operands with
  | nil =>
    rw [evaluateFirst, evaluateFirst]
    exact ⟨rfl, halike⟩
  | cons operand operands =>
    have hagree := agree_evaluate hmeets haround haround' halike hopen operand hsees.of_cons
    have hleads := leads_evaluate hopen around operand
    rw [evaluateFirst, evaluateFirst]
    rcases hagree.cases with ⟨halt, known, known', hfirst, hfirst', hknown⟩
      | ⟨first, known, known', hfirst, hfirst', hknown⟩
    · rw [hfirst, hfirst']
      exact ⟨rfl, hknown⟩
    · rw [hfirst] at hleads
      rw [hfirst, hfirst']
      dsimp only
      split
      · exact agree_evaluateFirst hmeets haround haround' hknown (hleads.isOpen first rfl) operands
          hsees.of_cons_rest
      · exact ⟨rfl, hknown⟩

end

end Expression

namespace Instance

open Session (Meets Alike Agree)

/-- Two runs from sessions that know the same come to the same and write the same. -/
theorem agree_run (hmeets : Meets names registry registry')
    (halike : Alike registry registry' session session') (hopen : session.IsOpen)
    {body : List Instruction} {rendering rendering' : Rendering}
    (hmodel : ∀ e, .write e ∈ body →
      e.SeesSame (rendering.model.getD .null) (rendering'.model.getD .null))
    (houtput : rendering.output = rendering'.output) :
    let ran := run registry.services body rendering session
    let ran' := run registry'.services body rendering' session'
    Agree registry registry' (ran.1, ran.2.2) (ran'.1, ran'.2.2)
      ∧ ran.2.1.output = ran'.2.1.output := by
  induction body generalizing rendering rendering' session session' with
  | nil => exact ⟨⟨rfl, halike⟩, houtput⟩
  | cons instruction body ih =>
    have hrest : ∀ e, .write e ∈ body →
        e.SeesSame (rendering.model.getD .null) (rendering'.model.getD .null) := fun e he =>
      hmodel e (List.mem_cons_of_mem _ he)
    cases instruction with
    | writeLiteral text =>
      rw [run, run]
      exact ih halike hopen hrest (congrArg (· ++ text) houtput)
    | write e =>
      have haround : (Surroundings.mk rendering.model registry.services).services
          = registry.services := rfl
      have haround' : (Surroundings.mk rendering'.model registry'.services).services
          = registry'.services := rfl
      have hagree := e.agree_evaluate hmeets haround haround' halike hopen
        (hmodel e List.mem_cons_self)
      have hleads := e.leads_evaluate hopen ⟨rendering.model, registry.services⟩
      rw [run, run]
      rcases hagree.cases with ⟨halt, known, known', hvalue, hvalue', hknown⟩
        | ⟨value, known, known', hvalue, hvalue', hknown⟩
      · rw [hvalue, hvalue']
        exact ⟨⟨rfl, hknown⟩, houtput⟩
      · rw [hvalue] at hleads
        rw [hvalue, hvalue']
        exact ih hknown (hleads.isOpen value rfl) hrest (congrArg (· ++ value.display) houtput)

variable {inst inst' : Instance} {asked asked' : List String}

/-- Two first executions of one body come to the same and leave the same text. -/
theorem IsFresh.agree_execute (h : inst.IsFresh) (h' : inst'.IsFresh)
    (hmeets : Meets names ⟨inst.services, asked⟩ ⟨inst'.services, asked'⟩)
    (hrenderer : inst.renderer = inst'.renderer)
    (hmodel : ∀ e, .write e ∈ inst.renderer.image.body →
      e.SeesSame (inst.rendering.model.getD .null) (inst'.rendering.model.getD .null))
    (houtput : inst.rendering.output = inst'.rendering.output) :
    Agree ⟨inst.services, asked⟩ ⟨inst'.services, asked'⟩
        ((inst.execute asked).1, inst.left asked) ((inst'.execute asked').1, inst'.left asked')
      ∧ ((inst.execute asked).1 = .ok () →
          (inst.execute asked).2.1.rendering.text = (inst'.execute asked').2.1.rendering.text) := by
  obtain ⟨hresult, hleft, hended⟩ := h.execute_eq asked
  obtain ⟨hresult', hleft', hended'⟩ := h'.execute_eq asked'
  have hset : ∀ e, .write e ∈ inst.renderer.image.body →
      e.SeesSame (Rendering.model { inst.rendering with state := .executing } |>.getD .null)
        (Rendering.model { inst'.rendering with state := .executing } |>.getD .null) := hmodel
  have hstart := Session.alike_start ⟨inst.services, asked⟩ ⟨inst'.services, asked'⟩
  obtain ⟨hagree, hwritten⟩ :=
    agree_run hmeets hstart (Session.isOpen_start asked) hset houtput
  rw [hrenderer] at hresult hleft hended hagree hwritten
  rw [hresult, hleft, hresult', hleft']
  refine ⟨hagree, fun hok => ?_⟩
  have hok' := hagree.same.symm.trans hok
  rw [hended (hresult.trans hok), hended' (hresult'.trans hok')]
  exact congrArg Except.ok hwritten

end Instance

/-! ## Renderings -/

namespace ServiceRegistry

theorem SaysSame.isSome_eq (h : registry.SaysSame names registry') {name : String}
    (hname : name ∈ names) :
    (registry.services.get? name).isSome = (registry'.services.get? name).isSome := by
  have hreply := congrArg Option.isSome
    (h [] name List.nodup_nil (List.nil_subset _) hname List.not_mem_nil)
  rwa [replyAfter_eq, replyAfter_eq, Option.isSome_map, Option.isSome_map] at hreply

theorem SaysSame.missing_eq (h : registry.SaysSame renderer.image.dependencies registry') :
    registry.missing renderer = registry'.missing renderer := by
  rw [missing, missing]
  refine List.filter_congr fun name hname => ?_
  rw [Dictionary.contains, Dictionary.contains, h.isSome_eq hname]

/-- Instances of a renderer meet the services of its dependencies. -/
theorem SaysSame.meets (h : registry.SaysSame renderer.image.dependencies registry') :
    Session.Meets renderer.image.dependencies ⟨registry.servicesOf renderer, registry.asked⟩
      ⟨registry'.servicesOf renderer, registry'.asked⟩ where
  subset name hname := by
    rw [get?_servicesOf] at hname
    by_contra hnot
    exact hname (if_neg hnot)
  same earlier name honce hearlier hname hnew := by
    rw [replyAfter_servicesOf registry hearlier hname,
      replyAfter_servicesOf registry' hearlier hname]
    exact h earlier name honce hearlier hname hnew
  subset' name hname := by
    rw [get?_servicesOf] at hname
    by_contra hnot
    exact hname (if_neg hnot)

/-- Whoever has asked for dependencies with the services of an instance has asked the registry. -/
theorem askAll_eq_of_subset {asked calls : List String}
    (hcalls : calls ⊆ renderer.image.dependencies)
    (hasked : asked = (askAll ⟨registry.servicesOf renderer, registry.asked⟩ calls).asked) :
    { registry with asked } = registry.askAll calls := by
  have hlabels : calls.filterMap (label? ⟨registry.servicesOf renderer, registry.asked⟩)
      = calls.filterMap registry.label? := by
    refine List.filterMap_congr fun name hname => ?_
    rw [label?, label?, get?_servicesOf, if_pos (hcalls hname)]
  rw [hasked, asked_askAll, hlabels, ← asked_askAll]
  have hservices := registry.services_askAll calls
  cases hall : registry.askAll calls
  rw [hall] at hservices
  exact congrArg (ServiceRegistry.mk · _) hservices.symm

/-- Where every service is registered under one name only, it is enough that each says the same the
next time it is asked. -/
theorem saysSame_of_unshared (h : registry.IsUnshared) (h' : registry'.IsUnshared)
    (hreply : ∀ name ∈ names, (registry.ask name).1 = (registry'.ask name).1) :
    registry.SaysSame names registry' := by
  intro earlier name _ _ hname hnew
  rw [h.replyAfter_eq hnew, h'.replyAfter_eq hnew]
  exact hreply name hname

end ServiceRegistry

/-- Renderings of two models and two registries come to the same, be it a text, an error or no end,
if the models show the same on every path of the body from the model, and if the registries say the
same for the dependencies, in whatever order they are asked for. Both ask for the same dependencies
in the same order and for nothing else. -/
theorem Renderer.render_congr (renderer : Renderer)
    (hmodel : ∀ e, .write e ∈ renderer.image.body → e.SeesSame model model')
    (hservices : registry.SaysSame renderer.image.dependencies registry') :
    (renderer.render registry model).1 = (renderer.render registry' model').1
      ∧ ∃ calls : List String, (∀ name ∈ calls, name ∈ renderer.image.dependencies)
        ∧ (renderer.render registry model).2 = registry.askAll calls
        ∧ (renderer.render registry' model').2 = registry'.askAll calls := by
  have hactivate := registry.activate_eq renderer
  have hactivate' := registry'.activate_eq renderer
  rw [← hservices.missing_eq] at hactivate'
  split at hactivate
  · next hnone =>
    rw [if_pos hnone] at hactivate'
    have hfresh := (ServiceRegistry.isFresh_of_activate hactivate).withModel model
    have hfresh' := (ServiceRegistry.isFresh_of_activate hactivate').withModel model'
    obtain ⟨hagree, htext⟩ := hfresh.agree_execute hfresh' hservices.meets rfl hmodel rfl
    have hmeets := hservices.meets
    have hcalls := hagree.alike.follows.names_subset hmeets.subset
    rw [render_of_activate hactivate, render_of_activate hactivate']
    refine ⟨?_, _, hcalls, ServiceRegistry.askAll_eq_of_subset hcalls hagree.alike.follows.asked,
      ServiceRegistry.askAll_eq_of_subset hcalls ?_⟩
    · dsimp only
      rw [← hagree.same]
      cases hended : (Instance.execute _ registry.asked).1 with
      | error halt => rfl
      | ok done =>
        rw [← htext hended]
    · rw [hagree.alike.names_eq]
      exact hagree.alike.follows'.asked
  · next hnone =>
    rw [if_neg hnone] at hactivate'
    rw [render, render, hactivate, hactivate']
    exact ⟨rfl, [], fun _ hname => absurd hname List.not_mem_nil, rfl, rfl⟩

/-- The name of a person and the tenant are all that this rendering depends on: it tells neither how
old the person is nor what the other services are. -/
theorem Renderer.exists_render_congr :
    ∃ (renderer : Renderer) (registry registry' : ServiceRegistry) (model model' : Value),
      model ≠ model' ∧ registry.services.names ≠ registry'.services.names
        ∧ (renderer.render registry model).1 = (renderer.render registry' model').1
        ∧ (renderer.render registry' model').1 = .ok "Ada of acme" := by
  let image : RendererImage :=
    { name := "Template"
      base := ⟨"c", "m"⟩
      dependencies := ["Tenant"]
      body := [
        .write (.coalesce [.path Expression.modelRoot [.member "title"],
          .path Expression.modelRoot [.member "name"]]),
        .writeLiteral " of ",
        .write (.path "Tenant" [])] }
  let model : Value := .object [("Name", .string "Ada"), ("age", .string "36"), ("title", .null)]
  let model' : Value := .object [("mail", .string "ada@acme"), ("name", .string "Ada")]
  let tenant : ServiceRegistry :=
    ServiceRegistry.empty.register "Tenant" (.constant (.value (.string "acme")))
  let both : ServiceRegistry := ((tenant.register "Clock" .counter).ask "Clock").2
  have hsees : ∀ e, .write e ∈ image.body → e.SeesSame model model' := by
    intro e he steps hsteps
    obtain rfl | rfl : e = .coalesce [.path Expression.modelRoot [.member "title"],
        .path Expression.modelRoot [.member "name"]] ∨ e = .path "Tenant" [] := by
      simpa [image] using he
    · rw [Expression.paths, Expression.operandPaths, Expression.paths, Expression.operandPaths,
        Expression.paths, Expression.operandPaths] at hsteps
      obtain rfl | rfl : steps = [.member "title"] ∨ steps = [.member "name"] := by
        simpa using hsteps
      · rfl
      · rfl
    · rw [Expression.paths, List.mem_singleton] at hsteps
      have hroot : Expression.modelRoot = "Tenant" := congrArg Prod.fst hsteps
      exact absurd hroot (by decide)
  have htenant : tenant.IsUnshared := ServiceRegistry.isUnshared_empty.register _ _
  have hsays : both.SaysSame image.dependencies tenant :=
    ServiceRegistry.saysSame_of_unshared ((htenant.register _ _).ask _) htenant fun name hname => by
      obtain rfl := List.mem_singleton.mp hname
      rfl
  exact ⟨⟨"u", image⟩, both, tenant, model, model', by simp [model, model'], by decide +kernel,
    (Renderer.render_congr ⟨"u", image⟩ hsees hsays).1, rfl⟩

end Stencil
