import Mathlib
import Stencil.Proofs.Markup.Escape
import Stencil.Proofs.Unit.Loader
import Stencil.Render.Instance

/-!
# Verbatim texts

Every text can be rendered as it is. Its escaped form is a template of one literal, which compiles
against any modules that define the contract and the model type, and whose renderer shows the text
for every model and with every set of services (`render_escaped`).
-/

namespace Stencil

open Markup (Segment Document IsBody IsLiveAfter escaped)
open Source (generate)
open Text

/-! ## Renderers that only write texts -/

/-- Texts are written one after the other, and no service is asked for them. -/
theorem Instance.run_writeLiteral (services : Dictionary Provider) (texts : List String)
    (rendering : Rendering) (session : Session) :
    run services (texts.map .writeLiteral) rendering session
      = (.ok (), rendering.writeLiteral (String.join texts), session) := by
  induction texts generalizing rendering with
  | nil => simp [run, Rendering.writeLiteral]
  | cons text texts ih =>
    rw [List.map_cons, run, ih]
    simp [Rendering.writeLiteral, String.append_assoc]

theorem ServiceRegistry.activate_of_dependencies_eq_nil (registry : ServiceRegistry)
    {renderer : Renderer} (h : renderer.image.dependencies = []) :
    registry.activate renderer = .ok ⟨renderer, registry.servicesOf renderer, .new, ∅, []⟩ := by
  rw [activate, missing, h]
  rfl

/-- A renderer that writes texts and depends on nothing shows the texts, whatever it is given. -/
theorem Renderer.render_writeLiteral {renderer : Renderer} {texts : List String}
    (hdependencies : renderer.image.dependencies = [])
    (hbody : renderer.image.body = texts.map .writeLiteral) (registry : ServiceRegistry)
    (model : Value) : renderer.render registry model = (.ok (String.join texts), registry) := by
  rw [render, registry.activate_of_dependencies_eq_nil hdependencies]
  dsimp only [Instance.execute, Rendering.begin, Rendering.new, Rendering.setModel]
  rw [hbody, Instance.run_writeLiteral]
  simp [Rendering.writeLiteral, Rendering.complete, Rendering.text, Except.mapError]

/-! ## Templates of one literal -/

namespace Unit

variable {references : References} {model : ModelType} {name : String}

/-- Nothing is wrong with a literal if the modules can be read and define the types of the
renderer. -/
theorem segmentFindings_literal
    (hread : ∀ entry ∈ references.entries, (Module.ofBytes? entry.2).isSome)
    (htypes : ∀ type ∈ [baseContract, name],
      (typeTable ((readModules references).filterMap (·.2))).contains type = true)
    (text : String) : segmentFindings references name [.literal text] = [] := by
  have hreferences : referenceFindings references = [] := by
    rw [referenceFindings, List.map_eq_nil_iff, List.filter_eq_nil_iff]
    intro entry hentry
    rw [Bool.not_eq_true, Option.isNone_eq_false_iff]
    exact hread entry hentry
  have hfound : [baseContract, name].filter
      (!(typeTable ((readModules references).filterMap (·.2))).contains ·) = [] := by
    rw [List.filter_eq_nil_iff]
    intro type htype
    simp [htypes type htype]
  simp only [segmentFindings, declarationFindings, hreferences, hfound]
  rfl

/-- The escaped form of a text comes through all stages, and what is rendered is the text. A text
without a live sign is its own escaped form. -/
theorem render_escaped {text : String} (htext : trim text.toList ≠ [])
    (hname : model.sourceName = .ok name) (hline : '\n' ∉ name.toList)
    (hread : ∀ entry ∈ references.entries, (Module.ofBytes? entry.2).isSome)
    (htypes : ∀ type ∈ [baseContract, name],
      (typeTable ((readModules references).filterMap (·.2))).contains type = true) :
    (∃ document source bytes renderer,
      Document.parse (escaped text) model = .ok document
        ∧ generate document = .ok source
        ∧ build source references = .ok bytes
        ∧ load bytes model = .ok renderer
        ∧ ∀ (registry : ServiceRegistry) (value : Value),
            renderer.render registry value = (.ok text, registry))
      ∧ ((∀ front rest, text.toList = front ++ '@' :: rest → ¬ IsLiveAfter front) →
          escaped text = text) := by
  constructor
  · have hparse := Document.parse_escaped htext hname
    obtain ⟨source, hgenerate⟩ :
        ∃ source, generate ⟨model, [.inherits baseContract name, .literal text]⟩ = .ok source :=
      ⟨_, generate_eq_ok hname⟩
    have hbody : IsBody [.literal text] :=
      { proper := fun segment hsegment => by
          rw [List.mem_singleton.mp hsegment]
          trivial
        distinct := List.nodup_nil }
    have hcompile := compile_generate hname hline hbody
      (fun code hcode => nomatch List.mem_singleton.mp hcode) hgenerate references
    rw [segmentFindings_literal hread htypes, if_pos List.isEmpty_nil] at hcompile
    have hbuild : build source references = .ok (segmentUnit name [.literal text]).bytes := by
      rw [build, hcompile]
    -- A document without expressions nests nothing, so its unit can be read back.
    have hloadable : IsLoadable ⟨model, [.inherits baseContract name, .literal text]⟩ :=
      { line := fun name' hname' => Except.ok.inj (hname.symm.trans hname') ▸ hline
        depth := fun code e hcode => by simp at hcode }
    obtain ⟨name', hname', hload, -⟩ := (load_eq hparse hgenerate hbuild).1 hloadable
    refine ⟨_, source, _, _, hparse, hgenerate, hbuild, hload, fun registry value => ?_⟩
    have hwritten : (segmentRenderer name' [.inherits baseContract name, .literal text]).body
        = [text].map .writeLiteral := rfl
    rw [Renderer.render_writeLiteral rfl hwritten, String.join_cons, String.join_nil,
      String.append_empty]
  · intro hdead
    rw [escaped, Markup.escape_eq_self, String.ofList_toList]
    intro front rest hfront
    rw [Option.or_none, Markup.Lexeme.isLive_iff]
    exact fun hlive => hdead front rest hfront hlive.2

/-- A text with an address, quotes, a backslash, a whole and a half line break, a control character
and signs in a row, all of which come back. -/
theorem exists_render_address :
    ∃ document source bytes renderer,
      Document.parse "a@b.c \"\\\"\r\n@@@@\r @@\u0001" (.ofTypeName "demo::Person") = .ok document
        ∧ generate document = .ok source
        ∧ build source (.ofList [("demo", (Module.mk "demo" [.sealed "demo.Person"]).bytes),
            ("quill", Module.host.bytes)]) = .ok bytes
        ∧ load bytes (.ofTypeName "demo::Person") = .ok renderer
        ∧ ∀ (registry : ServiceRegistry) (value : Value),
            renderer.render registry value
              = (.ok "a@b.c \"\\\"\r\n@@\r @\u0001", registry) := by
  have hescaped : escaped "a@b.c \"\\\"\r\n@@\r @\u0001" = "a@b.c \"\\\"\r\n@@@@\r @@\u0001" := by
    decide
  have hname : (ModelType.ofTypeName "demo::Person").sourceName = .ok "demo.Person" := by
    decide
  rw [← hescaped]
  exact (render_escaped (by decide) hname (by decide) (by decide +kernel) (by decide +kernel)).1

end Unit

end Stencil
