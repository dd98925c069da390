import Mathlib
import Stencil.Proofs.Render.Failure

/-!
# From documents to text

A document that is written to source, compiled to bytes and loaded is the renderer of its segments,
and a rendering shows what the segments show one after the other (`render_of_load`). Nothing of a
template is lost or changed on the way through source, lines, tokens and JSON.
-/

namespace Stencil

open Markup (Segment Document)
open Source (generate)

/-! ## What segments show -/

namespace Markup.Segment

/-- What a segment shows. -/
def shown (model : Value) (answer : String → Value) : Segment → String
  | .literal text => text
  | .expression code =>
    match Expression.parse code.toList with
    | .ok e => (e.meaning model answer).display
    | .error _ => ""
  | _ => ""

theorem join_instructions (model : Value) (answer : String → Value) (segment : Segment) :
    String.join (segment.instructions.map (Instruction.shown model answer))
      = segment.shown model answer := by
  cases segment with
  | inherits contract model => rfl
  | inject name => rfl
  | literal text => simp [instructions, Instruction.shown, shown]
  | expression code =>
    rw [instructions, shown]
    cases Expression.parse code.toList with
    | error cause => rfl
    | ok e => simp [Instruction.shown]

/-- The instructions of segments show what the segments show. -/
theorem join_flatMap_instructions (model : Value) (answer : String → Value)
    (segments : List Segment) :
    String.join ((segments.flatMap instructions).map (Instruction.shown model answer))
      = String.join (segments.map (shown model answer)) := by
  induction segments with
  | nil => rfl
  | cons segment segments ih =>
    rw [List.flatMap_cons, List.map_append, String.join_append, join_instructions, ih,
      List.map_cons, String.join_cons]

end Markup.Segment

/-! ## What is found in a faultless document -/

namespace Unit

variable {references : References} {name : String} {segments : List Segment}

/-- Every expression of a document without findings is one. -/
theorem exists_parse_of_segmentFindings (h : segmentFindings references name segments = [])
    {code : String} (hcode : .expression code ∈ segments) :
    ∃ e, Expression.parse code.toList = .ok e := by
  rw [segmentFindings, List.append_eq_nil_iff, List.append_eq_nil_iff] at h
  have hproblems := segmentProblems_eq_nil_of_mem h.2.2 hcode
  have hlist : (Source.foldLines code).toList = Source.fold .outside code.toList :=
    String.toList_ofList
  have hparse := Expression.parse_fold code.toList
  rw [segmentProblems, hlist] at hproblems
  cases hfold : Expression.parse (Source.fold .outside code.toList) with
  | error cause =>
    rw [hfold] at hproblems
    cases hproblems
  | ok e =>
    rw [hfold] at hparse
    cases hplain : Expression.parse code.toList with
    | error cause =>
      rw [hplain] at hparse
      cases hparse
    | ok e' => exact ⟨e', rfl⟩

/-- The renderer of a document without findings depends on all that the document injects. -/
theorem dependencies_of_segmentFindings (h : segmentFindings references name segments = []) :
    (segmentRenderer name segments).dependencies = segments.filterMap Segment.injection? := by
  rw [segmentFindings, List.append_eq_nil_iff, List.append_eq_nil_iff, declarationFindings,
    List.append_eq_nil_iff] at h
  have hroot := not_mem_of_injectionFindings h.2.1.2
  refine List.filter_eq_self.mpr ?_
  intro dependency hdependency
  rw [decide_eq_true_eq]
  rintro rfl
  exact hroot hdependency

/-! ## From templates to text -/

/-- A renderer that has come through all stages is the one of its document, and what it shows is
what the segments of the document mean, under what the services say to this rendering: what is said
for a name is what the registry says when it is asked for the names that are demanded before. -/
theorem render_of_load {text source : String} {model : ModelType} {document : Document}
    {references : References} {bytes : ByteArray} {renderer : Renderer}
    (hparse : Document.parse text model = .ok document) (hgenerate : generate document = .ok source)
    (hbuild : build source references = .ok bytes) (hload : load bytes model = .ok renderer) :
    renderer.image.dependencies = document.injections
      ∧ model.sourceName = .ok renderer.image.base.model
      ∧ (∀ code, .expression code ∈ document.segments →
          ∃ e, Expression.parse code.toList = .ok e)
      ∧ renderer.image.body = document.segments.flatMap Segment.instructions
      ∧ ∀ (registry registry' : ServiceRegistry) (value : Value) (shown : String),
          renderer.render registry value = (.ok shown, registry') →
            let said := renderer.told registry value
            shown = String.join (document.segments.map (Segment.shown value said.value))
              ∧ ∀ front name rest,
                  renderer.image.body.flatMap (Instruction.demands value said.value)
                      = front ++ name :: rest →
                    name ∉ front → said name = registry.replyAfter front.eraseDups name := by
  have hbound := isBound_of_load hbuild hload
  obtain ⟨hloads, hfails⟩ := load_eq hparse hgenerate hbuild
  -- Of the documents that compile, those that are not loadable end in an error.
  have hloadable : IsLoadable document := by
    by_contra hnot
    obtain ⟨reason, herror⟩ := hfails hnot
    rw [herror] at hload
    cases hload
  obtain ⟨name, hname, hrenderer, hnone⟩ := hloads hloadable
  obtain rfl := Except.ok.inj (hrenderer.symm.trans hload)
  refine ⟨dependencies_of_segmentFindings hnone, hname,
    fun code hcode => exists_parse_of_segmentFindings hnone hcode, rfl, ?_⟩
  intro registry registry' value shown hrender said
  constructor
  · rw [← Segment.join_flatMap_instructions]
    exact Renderer.render_eq_join hrender
  · intro front name rest hdemands hnew
    exact Renderer.told_eq_replyAfter hbound hrender hdemands hnew

/-- A rendering that asks a service, the second time that the service is asked at all. -/
theorem exists_render_clock :
    ∃ document source bytes renderer,
      Document.parse "@inject Clock\nHi @Model.name, @(Model.nick ?? Clock.calls)"
          (.ofTypeName "demo::Person") = .ok document
        ∧ generate document = .ok source
        ∧ build source (.ofList [("demo", (Module.mk "demo" [.sealed "demo.Person"]).bytes),
            ("quill", Module.host.bytes)]) = .ok bytes
        ∧ load bytes (.ofTypeName "demo::Person") = .ok renderer
        ∧ renderer.image.dependencies = ["Clock"]
        ∧ ∃ registry', renderer.render
            ((ServiceRegistry.empty.register "Clock" .counter).ask "Clock").2
            (.object [("name", .string "Ada")]) = (.ok "Hi Ada, 2", registry') := by
  let model : ModelType := .ofTypeName "demo::Person"
  let segments : List Segment := [.inherits baseContract "demo.Person", .inject "Clock",
    .literal "Hi ", .expression "Model.name", .literal ", ",
    .expression "Model.nick ?? Clock.calls"]
  have hparse : Document.parse "@inject Clock\nHi @Model.name, @(Model.nick ?? Clock.calls)" model
      = .ok ⟨model, segments⟩ := by
    decide +kernel
  have hname : model.sourceName = .ok "demo.Person" := by decide +kernel
  have hgenerate : generate ⟨model, segments⟩ = .ok _ := generate_eq_ok hname
  have hbuilt : (build (String.join ((Source.sourceLines ⟨model, segments⟩).map (· ++ "\n")))
      (.ofList [("demo", (Module.mk "demo" [.sealed "demo.Person"]).bytes),
        ("quill", Module.host.bytes)])).isOk = true := by
    decide +kernel
  obtain ⟨bytes, hbuild⟩ := exists_ok_of_isOk hbuilt
  have hdepth : ∀ code ∈ ["Model.name", "Model.nick ?? Clock.calls"],
      (Expression.parse code.toList).toOption.all (·.toJson.depth ≤ 122) = true := by
    decide +kernel
  have hloadable : IsLoadable ⟨model, segments⟩ :=
    { line := by
        intro name hname'
        obtain rfl := Except.ok.inj (hname.symm.trans hname')
        decide
      depth := by
        intro code e hcode he
        have hmem : code ∈ ["Model.name", "Model.nick ?? Clock.calls"] := by
          simpa [segments] using hcode
        have hle := hdepth code hmem
        rw [he] at hle
        exact of_decide_eq_true hle }
  obtain ⟨name, hname', hload, -⟩ := (load_eq hparse hgenerate hbuild).1 hloadable
  obtain rfl := Except.ok.inj (hname.symm.trans hname')
  obtain ⟨hdependencies, -, -, -, hshown⟩ := render_of_load hparse hgenerate hbuild hload
  refine ⟨_, _, bytes, _, hparse, hgenerate, hbuild, hload, hdependencies, ?_⟩
  let registry : ServiceRegistry :=
    ((ServiceRegistry.empty.register "Clock" .counter).ask "Clock").2
  have hrendered : (Renderer.render ⟨Source.unitName, segmentRenderer "demo.Person" segments⟩
      registry (.object [("name", .string "Ada")])).1.isOk = true := by
    decide +kernel
  cases hresult : Renderer.render ⟨Source.unitName, segmentRenderer "demo.Person" segments⟩
      registry (.object [("name", .string "Ada")]) with
  | mk outcome registry' =>
    rw [hresult] at hrendered
    cases outcome with
    | error halt => cases hrendered
    | ok shown =>
      have hjoin : shown = "Hi Ada, 2" :=
        (hshown _ _ _ _ hresult).1.trans (by decide +kernel)
      exact ⟨registry', by rw [hjoin]⟩

end Unit

end Stencil
