import Mathlib
import Stencil.Proofs.Render.Execution
import Stencil.Proofs.Unit.Loader

/-!
# How a rendering can fail

A compiled renderer fails for its services only. Either a dependency has no service and there is no
instance, or the instance comes to ask a service that fails. Nothing else stands between a compiled
template and its text (`render_error_iff_of_load`). What is said to an instance for a name is what
the registry says when it is asked for the names that are demanded before
(`ServiceRegistry.told_eq_replyAfter`).
-/

namespace Stencil

/-! ## Activation -/

namespace ServiceRegistry

variable {registry : ServiceRegistry} {renderer : Renderer} {inst : Instance}

/-- What is said of a renderer whose dependencies have no services. -/
def missingText (renderer : Renderer) (missing : List String) : String :=
  let names := ", ".intercalate missing
  s!"no service registered for dependencies of '{renderer.image.name}': {names}"

theorem activate_eq (registry : ServiceRegistry) (renderer : Renderer) :
    registry.activate renderer
      = if registry.missing renderer = [] then
          .ok ⟨renderer, registry.servicesOf renderer, .new, ∅, []⟩
        else .error (.instantiation (missingText renderer (registry.missing renderer))) := by
  rw [activate]
  cases registry.missing renderer with
  | nil => rfl
  | cons name rest => rfl

theorem missing_eq_nil_iff :
    registry.missing renderer = []
      ↔ ∀ name ∈ renderer.image.dependencies, registry.services.get? name ≠ none := by
  simp [missing, Dictionary.contains]

theorem registered_of_activate (h : registry.activate renderer = .ok inst) {name : String}
    (hname : name ∈ renderer.image.dependencies) : registry.services.get? name ≠ none := by
  rw [activate_eq] at h
  split at h
  · next hnone => exact missing_eq_nil_iff.mp hnone name hname
  · cases h

/-- Of the services of a registry, those of the dependencies are handed on. -/
theorem get?_servicesOf (registry : ServiceRegistry) (renderer : Renderer) (name : String) :
    (registry.servicesOf renderer).get? name
      = if name ∈ renderer.image.dependencies then registry.services.get? name else none := by
  have hwithin : ∀ provider, (registry.servicesOf renderer).get? name = some provider →
      registry.services.get? name = some provider := by
    intro provider hprovider
    obtain ⟨dependency, -, hentry⟩ :=
      List.mem_filterMap.mp (Dictionary.mem_of_get?_ofList hprovider)
    obtain ⟨found, hfound, heq⟩ := Option.map_eq_some_iff.mp hentry
    obtain ⟨rfl, rfl⟩ := Prod.mk.inj heq
    exact hfound
  split
  · next hname =>
    cases hservice : registry.services.get? name with
    | none =>
      rw [Option.eq_none_iff_forall_ne_some]
      intro service hfound
      rw [hwithin service hfound] at hservice
      cases hservice
    | some service =>
      have hlisted : name ∈ (renderer.image.dependencies.filterMap fun name =>
          (registry.services.get? name).map (name, ·)).map (·.1) :=
        List.mem_map.mpr
          ⟨(name, service), List.mem_filterMap.mpr ⟨name, hname, by rw [hservice]; rfl⟩, rfl⟩
      obtain ⟨found, hfound⟩ := Dictionary.exists_get?_ofList hlisted
      exact hfound.trans ((hwithin found hfound).symm.trans hservice)
  · next hname =>
    rw [Option.eq_none_iff_forall_ne_some]
    intro service hfound
    obtain ⟨dependency, hdependency, hentry⟩ :=
      List.mem_filterMap.mp (Dictionary.mem_of_get?_ofList hfound)
    obtain ⟨other, -, heq⟩ := Option.map_eq_some_iff.mp hentry
    obtain ⟨rfl, -⟩ := Prod.mk.inj heq
    exact hname hdependency

/-- Of the dependencies, an instance hears what the registry says. -/
theorem replyAfter_servicesOf (registry : ServiceRegistry) {earlier : List String}
    {name : String} (hearlier : earlier ⊆ renderer.image.dependencies)
    (hname : name ∈ renderer.image.dependencies) :
    replyAfter ⟨registry.servicesOf renderer, registry.asked⟩ earlier name
      = registry.replyAfter earlier name := by
  refine replyAfter_congr rfl fun other hother => ?_
  rw [get?_servicesOf, if_pos]
  rcases List.mem_cons.mp hother with rfl | hother
  · exact hname
  · exact hearlier hother

/-- What a session of an instance has heard is what the registry says when it is asked for the names
that the session has asked for before. -/
theorem replyAfter_eq_of_follows {session : Session} {earlier later : List (String × Answer)}
    {name : String} {answer : Answer}
    (hfollows : session.Follows ⟨registry.servicesOf renderer, registry.asked⟩)
    (hheard : session.heard = later ++ (name, answer) :: earlier) :
    registry.replyAfter (earlier.map (·.1)).reverse name = some answer := by
  have hdependency : ∀ entry ∈ session.heard, entry.1 ∈ renderer.image.dependencies := by
    intro entry hentry
    obtain ⟨provider, hservice⟩ :=
      hfollows.exists_of_mem_names (Session.mem_names_iff.mpr ⟨entry.2, hentry⟩)
    by_contra hnot
    rw [get?_servicesOf, if_neg hnot] at hservice
    cases hservice
  rw [hheard] at hdependency
  rw [← replyAfter_servicesOf registry (fun other hother => ?_)
    (hdependency (name, answer) (by simp))]
  · exact hfollows.heard later name answer earlier hheard
  · obtain ⟨entry, hentry, rfl⟩ := List.mem_map.mp (List.mem_reverse.mp hother)
    exact hdependency entry (by simp [hentry])

/-- An instance has the services of all dependencies. -/
theorem exists_service_of_activate (h : registry.activate renderer = .ok inst) {name : String}
    (hname : name ∈ renderer.image.dependencies) :
    ∃ provider, inst.services.get? name = some provider := by
  have hregistered := registered_of_activate h hname
  obtain rfl := eq_of_activate h
  rw [get?_servicesOf, if_pos hname]
  exact Option.ne_none_iff_exists'.mp hregistered

end ServiceRegistry

/-! ## Execution -/

/-- What a body demands are dependencies. -/
theorem RendererImage.IsBound.demands_subset {image : RendererImage} (hbound : image.IsBound)
    (model : Value) (answer : String → Value) :
    image.body.flatMap (Instruction.demands model answer) ⊆ image.dependencies := by
  intro name hmem
  obtain ⟨instruction, hinstruction, hname⟩ := List.mem_flatMap.mp hmem
  cases instruction with
  | writeLiteral text => exact absurd hname List.not_mem_nil
  | write e => exact e.mem_of_mem_demands (hbound.body e hinstruction) hname

theorem Replies.Reaches.mem_demands {said : Replies} {model : Value} {body : List Instruction}
    {name : String} (h : said.Reaches model body name) :
    name ∈ body.flatMap (Instruction.demands model said.value) := by
  obtain ⟨front, rest, hsplit, -⟩ := h
  rw [hsplit]
  exact List.mem_append_right _ List.mem_cons_self

/-- A service halts with an error when it fails. -/
theorem Replies.halt?_eq_failed_iff {said : Replies} {name : String} (hsaid : said name ≠ none)
    {e : Error} :
    said.halt? name = some (.failed e)
      ↔ ∃ causes, said name = some (.failure causes) ∧ e = .ofService name causes := by
  obtain ⟨answer, hanswer⟩ := Option.ne_none_iff_exists'.mp hsaid
  rw [halt?, result_of_some hanswer, hanswer]
  cases answer with
  | value value => simp [Answer.result, Halt.of?]
  | failure causes => simp [Answer.result, Halt.of?, eq_comm]
  | never => simp [Answer.result, Halt.of?]

namespace ServiceRegistry

variable {registry : ServiceRegistry} {renderer : Renderer} {inst : Instance}

/-- An activated instance ends with an error when it reaches a service that fails. -/
theorem execute_eq_failed_iff (hactivate : registry.activate renderer = .ok inst)
    (hbound : renderer.image.IsBound) (model : Value) (e : Error) :
    let said := (inst.withModel model).told registry.asked
    ((inst.withModel model).execute registry.asked).1 = .error (.failed e)
      ↔ ∃ name causes, said.Reaches model renderer.image.body name
          ∧ said name = some (.failure causes) ∧ e = .ofService name causes := by
  intro said
  have hfresh := (isFresh_of_activate hactivate).withModel model
  have hservices : ∀ name, said.Reaches model renderer.image.body name → said name ≠ none := by
    intro name hreaches
    obtain ⟨provider, hservice⟩ := exists_service_of_activate hactivate
      (hbound.demands_subset model said.value hreaches.mem_demands)
    simp [said, Instance.told, Instance.withModel, hservice]
  obtain rfl := eq_of_activate hactivate
  rw [hfresh.execute_eq_error_iff]
  constructor
  · rintro ⟨name, hreaches, hhalt⟩
    obtain ⟨causes, hreply, he⟩ :=
      (Replies.halt?_eq_failed_iff (hservices name hreaches)).mp hhalt
    exact ⟨name, causes, hreaches, hreply, he⟩
  · rintro ⟨name, causes, hreaches, hreply, he⟩
    exact ⟨name, hreaches,
      (Replies.halt?_eq_failed_iff (hservices name hreaches)).mpr ⟨causes, hreply, he⟩⟩

/-- What is said for a name that is reached is what the registry says when it is asked for the names
that are demanded before. -/
theorem told_eq_replyAfter (hactivate : registry.activate renderer = .ok inst)
    (hbound : renderer.image.IsBound) {model : Value} {front rest : List String} {name : String}
    (hdemands : renderer.image.body.flatMap (Instruction.demands model
      ((inst.withModel model).told registry.asked).value) = front ++ name :: rest)
    (hfront : ∀ earlier ∈ front, ((inst.withModel model).told registry.asked).Answers earlier)
    (hnew : name ∉ front) :
    (inst.withModel model).told registry.asked name
      = registry.replyAfter front.eraseDups name := by
  have hfresh := (isFresh_of_activate hactivate).withModel model
  obtain rfl := eq_of_activate hactivate
  have hsubset : front ++ name :: rest ⊆ renderer.image.dependencies :=
    hdemands ▸ hbound.demands_subset model _
  rw [hfresh.told_eq_replyAfter registry.asked hdemands hfront hnew]
  refine registry.replyAfter_servicesOf (fun earlier hearlier => ?_) (hsubset (by simp))
  exact hsubset (List.mem_append_left _ (List.mem_eraseDups.mp hearlier))

end ServiceRegistry

/-- In a rendering that succeeds, what is said for a demanded name is what the registry says when it
is asked for the names that are demanded before. -/
theorem Renderer.told_eq_replyAfter {renderer : Renderer} {registry registry' : ServiceRegistry}
    {model : Value} {shown : String} {front rest : List String} {name : String}
    (hbound : renderer.image.IsBound)
    (h : renderer.render registry model = (.ok shown, registry'))
    (hdemands : renderer.image.body.flatMap (Instruction.demands model
      (renderer.told registry model).value) = front ++ name :: rest) (hnew : name ∉ front) :
    renderer.told registry model name = registry.replyAfter front.eraseDups name := by
  obtain ⟨inst, hactivate, hexecute⟩ := exists_execute_eq_ok h
  have hfresh := (ServiceRegistry.isFresh_of_activate hactivate).withModel model
  have hrenderer := ServiceRegistry.renderer_of_activate hactivate model
  have hhalt := (hfresh.obtains_execute registry.asked).1.halt
  rw [told_of_activate hactivate] at hdemands ⊢
  rw [hexecute, hrenderer] at hhalt
  have hanswers := List.findSome?_eq_none_iff.mp hhalt.symm
  refine ServiceRegistry.told_eq_replyAfter hactivate hbound hdemands (fun earlier hearlier => ?_)
    hnew
  refine Replies.halt?_eq_none_iff.mp (hanswers earlier ?_)
  exact hdemands ▸ List.mem_append_left _ hearlier

/-! ## Errors that do not happen -/

/-- The errors of an instance that is not used as it should be, given the names of its
dependencies. -/
inductive Error.IsMisuse (dependencies : List String) : Error → Prop
  /-- A value is taken of a name that is no dependency. -/
  | notInjected (name : String) :
    IsMisuse dependencies (.render s!"'{name}' is not an injected dependency")
  /-- A service has answered, and there is no value. -/
  | noValue {name : String} (hname : name ∈ dependencies) :
    IsMisuse dependencies (.render s!"service '{name}' produced no value")
  /-- The instance is run again. -/
  | usedTwice :
    IsMisuse dependencies
      (.render "renderer instances are single-use; execute has already run")
  /-- The text is asked for before the run has come to its end. -/
  | textTooEarly (state : RenderState) :
    IsMisuse dependencies
      (.render s!"rendered text requested before execute completed (state: {state.described})")

/-- The failure of a service is no misuse, whatever its causes say. -/
theorem Error.not_isMisuse_ofService {dependencies : List String}
    (hnamed : ∀ name ∈ dependencies, Text.isIdentifier name.toList = true) (name : String)
    (causes : List String) : ¬ (ofService name causes).IsMisuse dependencies := by
  intro h
  generalize he : ofService name causes = e at h
  rw [ofService] at he
  cases h with
  | notInjected other =>
    have hchars := congrArg String.toList (render.inj he)
    simp [toString, String.toList_append] at hchars
  | noValue hother =>
    next other =>
    have hquote : '\'' ∉ other.toList := fun hmem =>
      absurd (Text.continuesIdentifier_of_isIdentifier (hnamed other hother) _ hmem) (by decide)
    have hchars := congrArg String.toList (render.inj he)
    have hsplit : other.toList ++ '\'' :: " produced no value".toList
        = name.toList ++ '\'' :: (" failed: ".toList ++ (failureText causes).toList) := by
      simpa [toString, String.toList_append] using hchars.symm
    -- A name ends at the first quote, and what follows differs.
    obtain ⟨-, -, hrest⟩ := (List.append_cons_inj_of_notMem hquote (by decide)).mp hsplit
    simp at hrest
  | usedTwice =>
    have hchars := congrArg String.toList (render.inj he)
    simp [toString, String.toList_append] at hchars
  | textTooEarly state =>
    have hchars := congrArg String.toList (render.inj he)
    simp [toString, String.toList_append] at hchars

/-- What a render that fails has failed for. -/
theorem Renderer.exists_of_render_eq_failed {renderer : Renderer}
    {registry registry' : ServiceRegistry} {model : Value} {e : Error}
    (hbound : renderer.image.IsBound)
    (h : renderer.render registry model = (.error (.failed e), registry')) :
    (∃ text, e = .instantiation text) ∨ ∃ name causes, e = .ofService name causes := by
  cases hactivate : registry.activate renderer with
  | error cause =>
    rw [render, hactivate] at h
    obtain rfl := Halt.failed.inj (Except.error.inj (Prod.mk.inj h).1)
    rw [ServiceRegistry.activate_eq] at hactivate
    split at hactivate
    · cases hactivate
    · exact Or.inl ⟨_, (Except.error.inj hactivate).symm⟩
  | ok inst =>
    have hresult := congrArg Prod.fst h
    cases hexecute : ((inst.withModel model).execute registry.asked).1 with
    | ok done =>
      -- A run that has come to its end has a text.
      rw [render_of_execute_eq_ok hactivate hexecute] at hresult
      cases hresult
    | error halt =>
      rw [render_of_activate hactivate, hexecute] at hresult
      obtain rfl : halt = .failed e := Except.error.inj hresult
      obtain ⟨name, causes, -, -, he⟩ :=
        (ServiceRegistry.execute_eq_failed_iff hactivate hbound model e).mp hexecute
      exact Or.inr ⟨name, causes, he⟩

namespace Unit

open Markup (Segment Document)

/-- A compiled renderer has no instance exactly when a dependency has no service. An instance fails
exactly when it reaches a service that fails, and it has a text when every service that it reaches
answers. What is said for a name that is reached is what its service answers when the names demanded
before it have been asked for. -/
theorem render_error_iff_of_load {source : String} {references : References} {bytes : ByteArray}
    {model : ModelType} {renderer : Renderer} (hbuild : build source references = .ok bytes)
    (hload : load bytes model = .ok renderer) (registry : ServiceRegistry) (value : Value) :
    ((∃ e, registry.activate renderer = .error e)
        ↔ ∃ name ∈ renderer.image.dependencies, registry.services.get? name = none)
      ∧ (∀ e, registry.activate renderer = .error e →
          e = .instantiation (ServiceRegistry.missingText renderer
            (renderer.image.dependencies.filter fun name => (registry.services.get? name).isNone)))
      ∧ (∀ inst, registry.activate renderer = .ok inst →
          let said := (inst.withModel value).told registry.asked
          (∀ e, ((inst.withModel value).execute registry.asked).1 = .error (.failed e)
            ↔ ∃ name causes, said.Reaches value renderer.image.body name
                ∧ said name = some (.failure causes) ∧ e = .ofService name causes)
          ∧ ((∀ name, said.Reaches value renderer.image.body name → said.Answers name) →
              ∃ finished asked text,
                (inst.withModel value).execute registry.asked = (.ok (), finished, asked)
                  ∧ finished.rendering.text = .ok text)
          ∧ ∀ front name rest,
              renderer.image.body.flatMap (Instruction.demands value said.value)
                  = front ++ name :: rest →
                (∀ earlier ∈ front, said.Answers earlier) → name ∉ front →
                said name = registry.replyAfter front.eraseDups name)
      ∧ (∀ e registry', renderer.render registry value = (.error (.failed e), registry') →
          ¬ e.IsMisuse renderer.image.dependencies) := by
  have hbound := isBound_of_load hbuild hload
  refine ⟨?_, ?_, fun inst hactivate => ⟨?_, ?_, ?_⟩, ?_⟩
  · rw [ServiceRegistry.activate_eq]
    by_cases hnone : registry.missing renderer = []
    · have hregistered := ServiceRegistry.missing_eq_nil_iff.mp hnone
      rw [if_pos hnone]
      constructor
      · rintro ⟨e, he⟩
        cases he
      · rintro ⟨name, hname, hmissing⟩
        exact absurd hmissing (hregistered name hname)
    · rw [if_neg hnone]
      refine ⟨fun _ => ?_, fun _ => ⟨_, rfl⟩⟩
      rw [ServiceRegistry.missing_eq_nil_iff] at hnone
      push Not at hnone
      exact hnone
  · intro e he
    have hmissing : registry.missing renderer
        = renderer.image.dependencies.filter
            fun name => (registry.services.get? name).isNone := by
      simp [ServiceRegistry.missing, Dictionary.contains]
    rw [ServiceRegistry.activate_eq] at he
    split at he
    · cases he
    · rw [← hmissing]
      exact (Except.error.inj he).symm
  · exact ServiceRegistry.execute_eq_failed_iff hactivate hbound value
  · intro hanswers
    have hfresh := (ServiceRegistry.isFresh_of_activate hactivate).withModel value
    have hrenderer := ServiceRegistry.renderer_of_activate hactivate value
    have hended := (hfresh.execute_eq_ok_iff registry.asked).mpr (hrenderer ▸ hanswers)
    exact ⟨_, _, _, Prod.ext hended rfl, (hfresh.obtains_execute registry.asked).2 hended⟩
  · intro front name rest hdemands hfront hnew
    exact ServiceRegistry.told_eq_replyAfter hactivate hbound hdemands hfront hnew
  · intro e registry' hrender
    rcases Renderer.exists_of_render_eq_failed hbound hrender with ⟨text, rfl⟩ | ⟨name, causes, rfl⟩
    · exact fun h => nomatch h
    · exact Error.not_isMisuse_ofService (fun name hname => (hbound.named name hname).1) name causes

/-- A renderer of two dependencies: without services there is no instance, and with both an instance
asks the first, which answers, and fails with the second. -/
theorem exists_render_pricing :
    ∃ source bytes renderer,
      build source (.ofList [("demo", (Module.mk "demo" [.sealed "demo.Person"]).bytes),
          ("quill", Module.host.bytes)]) = .ok bytes
        ∧ load bytes (.ofTypeName "demo::Person") = .ok renderer
        ∧ ServiceRegistry.empty.activate renderer = .error (.instantiation
            "no service registered for dependencies of 'Template': Clock, Pricing")
        ∧ ∃ inst, ((ServiceRegistry.empty.register "Clock" .counter).register "Pricing"
              (.constant (.failure ["offline", "timeout"]))).activate renderer = .ok inst
            ∧ ((inst.withModel (.object [("nick", .null)])).execute []).1
              = .error (.failed (.render "service 'Pricing' failed: offline: timeout")) := by
  let model : ModelType := .ofTypeName "demo::Person"
  let segments : List Segment := [.inherits baseContract "demo.Person", .inject "Clock",
    .inject "Pricing", .expression "Model.nick ?? Clock.calls", .literal " pays ",
    .expression "Pricing.total"]
  let registry : ServiceRegistry := (ServiceRegistry.empty.register "Clock" .counter).register
    "Pricing" (.constant (.failure ["offline", "timeout"]))
  have hparse : Document.parse
      "@inject Clock\n@inject Pricing\n@(Model.nick ?? Clock.calls) pays @Pricing.total" model
      = .ok ⟨model, segments⟩ := by
    decide +kernel
  have hname : model.sourceName = .ok "demo.Person" := by decide +kernel
  have hcodes : ∀ code, Segment.expression code ∈ segments →
      code ∈ ["Model.nick ?? Clock.calls", "Pricing.total"] := by
    simp [segments]
  have hfold : ∀ code ∈ ["Model.nick ?? Clock.calls", "Pricing.total"],
      '\n' ∉ Source.fold .outside code.toList := by
    decide
  have hdepth : ∀ code ∈ ["Model.nick ?? Clock.calls", "Pricing.total"],
      (Expression.parse code.toList).toOption.all (·.toJson.depth ≤ 122) = true := by
    decide +kernel
  have hloadable : IsLoadable ⟨model, segments⟩ :=
    isLoadable_of_sourceName hname (by decide) fun code hcode => hdepth code (hcodes code hcode)
  have hnone : segmentFindings (.ofList [("demo", (Module.mk "demo" [.sealed "demo.Person"]).bytes),
      ("quill", Module.host.bytes)]) "demo.Person" segments = [] := by
    decide +kernel
  obtain ⟨source, bytes, -, hbuild, hload⟩ := exists_load_of_segmentFindings hparse hname
    (fun code hcode => Source.mem_fold_iff.not.mp (hfold code (hcodes code hcode))) hloadable hnone
  refine ⟨source, bytes, _, hbuild, hload, ?_, ?_⟩
  · obtain ⟨hinstance, hmissing, -⟩ := render_error_iff_of_load hbuild hload .empty .null
    obtain ⟨e, he⟩ := hinstance.mpr ⟨"Clock", by decide, rfl⟩
    rw [he, hmissing e he]
    rfl
  · obtain ⟨-, -, hexecute, -⟩ :=
      render_error_iff_of_load hbuild hload registry (.object [("nick", .null)])
    obtain ⟨inst, hactivate⟩ : ∃ inst, registry.activate
        ⟨Source.unitName, segmentRenderer "demo.Person" segments⟩ = .ok inst :=
      ⟨_, rfl⟩
    obtain ⟨hfails, -, hsaid⟩ := hexecute inst hactivate
    let said := (inst.withModel (.object [("nick", .null)])).told registry.asked
    have hdemands : (segmentRenderer "demo.Person" segments).body.flatMap
        (Instruction.demands (.object [("nick", .null)]) said.value)
        = ["Clock"] ++ "Pricing" :: [] := by
      obtain rfl := ServiceRegistry.eq_of_activate hactivate
      decide +kernel
    have hclock : ∀ earlier ∈ ["Clock"], said.Answers earlier := by
      intro earlier hearlier
      rw [List.mem_singleton.mp hearlier]
      exact ⟨_, hsaid [] "Clock" ["Pricing"] hdemands (by simp) (by simp)⟩
    have hpricing := hsaid ["Clock"] "Pricing" [] hdemands hclock (by decide)
    exact ⟨inst, hactivate, (hfails _).mpr ⟨"Pricing", ["offline", "timeout"],
      ⟨["Clock"], [], hdemands, hclock⟩, hpricing, rfl⟩⟩

end Unit

end Stencil
