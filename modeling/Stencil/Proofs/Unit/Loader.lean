import Mathlib
import Stencil.Proofs.Unit.Compiler
import Stencil.Proofs.Unit.Selection

/-!
# Loading compiled documents

A unit that a document has been compiled to may still not load. The reader of units bounds how deep
their trees nest, which the compiler does not, and a line feed in the name of a model type cuts the
row that binds the renderer to it. `load_build` says that nothing else stands in the way.
-/

namespace Stencil.Unit

open Expression (parse)
open Markup (Segment Document IsBody)
open Source
open Text

/-! ## What is compiled can be read -/

/-- A compiled unit has one renderer. It is bound to a name without a line feed, and its
instructions can be written. -/
theorem exists_renderer_of_compile {source : String} {references : References} {image : UnitImage}
    (h : compile source references = .ok image) :
    image.IsPlain ∧ ∃ renderer, image.types = [renderer] ∧ '\n' ∉ renderer.base.model.toList := by
  obtain ⟨-, himage⟩ := compile_eq_ok_iff.mp h
  have hread := isWellRead_draftOf source references
  obtain ⟨⟨name, base⟩, hrenderer, rfl⟩ := Option.map_eq_some_iff.mp himage
  refine ⟨?_, _, rfl, hread.renderer name base hrenderer⟩
  intro renderer hmem instruction hinstruction
  rw [List.mem_singleton.mp hmem] at hinstruction
  cases instruction with
  | writeLiteral text => trivial
  | write e =>
    obtain ⟨code, hparse⟩ := hread.body e hinstruction
    exact Expression.isPlain_of_parse hparse

/-- A compiled renderer depends on what it declares, and on nothing else. -/
theorem isBound_of_compile {source : String} {references : References} {image : UnitImage}
    (h : compile source references = .ok image) : ∀ renderer ∈ image.types, renderer.IsBound := by
  obtain ⟨hnone, himage⟩ := compile_eq_ok_iff.mp h
  have hread := isWellRead_draftOf source references
  obtain ⟨⟨name, base⟩, -, rfl⟩ := Option.map_eq_some_iff.mp himage
  intro renderer hmem
  rw [List.mem_singleton.mp hmem]
  exact ⟨hread.distinct, hread.named, hread.bound hnone⟩

/-! ## Loading -/

theorem exists_compile_of_build {source : String} {references : References} {bytes : ByteArray}
    (h : build source references = .ok bytes) :
    ∃ image, compile source references = .ok image ∧ bytes = image.bytes := by
  rw [build] at h
  split at h
  · next image hcompile => exact ⟨image, hcompile, (Except.ok.inj h).symm⟩
  · cases h

/-- What loads from the bytes of a compiled unit. -/
theorem load_bytes {source : String} {references : References} {image : UnitImage}
    {model : ModelType} {name : String} (hcompile : compile source references = .ok image)
    (hname : model.sourceName = .ok name) :
    load image.bytes model
      = if image.toJson.depth ≤ Decoder.nestingLimit then select image name
        else .error (.rendererNotFound rendererName "compiled unit could not be loaded") := by
  obtain ⟨hplain, -⟩ := exists_renderer_of_compile hcompile
  rw [load, UnitImage.ofBytes?_bytes hplain]
  split
  · next hnone =>
    split at hnone
    · cases hnone
    · next hdepth => rw [if_neg hdepth]
  · next image' hsome =>
    split at hsome
    · next hdepth =>
      obtain rfl := Option.some.inj hsome
      rw [if_pos hdepth, hname]
    · cases hsome

/-- A renderer that loads after a compilation depends on what it declares, and on nothing else. -/
theorem isBound_of_load {source : String} {references : References} {bytes : ByteArray}
    {model : ModelType} {renderer : Renderer} (hbuild : build source references = .ok bytes)
    (hload : load bytes model = .ok renderer) : renderer.image.IsBound := by
  obtain ⟨image, hcompile, rfl⟩ := exists_compile_of_build hbuild
  have hname : ∃ name, model.sourceName = .ok name := by
    rw [load] at hload
    split at hload
    · cases hload
    · split at hload
      · cases hload
      · next name hname => exact ⟨name, hname⟩
  obtain ⟨name, hname⟩ := hname
  rw [load_bytes hcompile hname] at hload
  split at hload
  · obtain ⟨-, -, front, rest, htypes, -⟩ := select_eq_ok_iff.mp hload
    exact isBound_of_compile hcompile _ (htypes ▸ List.mem_append_right _ List.mem_cons_self)
  · cases hload

theorem select_eq_error_of_feed {source : String} {references : References} {image : UnitImage}
    {name : String} (hcompile : compile source references = .ok image)
    (hfeed : '\n' ∈ name.toList) :
    ∃ reason, select image name = .error (.rendererNotFound rendererName reason) := by
  obtain ⟨-, renderer, htypes, hrenderer⟩ := exists_renderer_of_compile hcompile
  refine ⟨_, select_eq_error_iff.mpr ⟨fun image himage htemplate => hrenderer ?_, rfl⟩⟩
  rw [htypes, List.mem_singleton] at himage
  rw [← himage, htemplate.2.2]
  exact hfeed

theorem select_segmentUnit (name : String) (segments : List Segment) :
    select (segmentUnit name segments) name = .ok ⟨unitName, segmentRenderer name segments⟩ := by
  exact select_eq_ok_iff.mpr
    ⟨rfl, ⟨rfl, rfl, rfl⟩, [], [], rfl, fun other hother => absurd hother List.not_mem_nil⟩

theorem mem_instructions_iff {segments : List Segment} {e : Expression} :
    .write e ∈ segments.flatMap Segment.instructions
      ↔ ∃ code, .expression code ∈ segments ∧ parse code.toList = .ok e := by
  rw [List.mem_flatMap]
  constructor
  · rintro ⟨segment, hsegment, he⟩
    cases segment with
    | inherits contract model => exact absurd he List.not_mem_nil
    | inject name => exact absurd he List.not_mem_nil
    | literal text => exact nomatch List.mem_singleton.mp he
    | expression code =>
      rw [Segment.instructions] at he
      split at he
      · next e' hparse =>
        obtain rfl := Instruction.write.inj (List.mem_singleton.mp he)
        exact ⟨code, hsegment, hparse⟩
      · exact absurd he List.not_mem_nil
  · rintro ⟨code, hcode, hparse⟩
    refine ⟨_, hcode, ?_⟩
    rw [Segment.instructions, hparse]
    exact List.mem_singleton_self _

/-- A document whose source compiles has no finding, and the unit is the one of its segments, as
long as the name of its model type is one line. -/
theorem eq_segmentUnit_of_compile {model : ModelType} {name source : String} {body : List Segment}
    {references : References} {image : UnitImage} (hname : model.sourceName = .ok name)
    (hline : '\n' ∉ name.toList) (hbody : IsBody body)
    (hgenerate : generate ⟨model, .inherits baseContract name :: body⟩ = .ok source)
    (hcompile : compile source references = .ok image) :
    segmentFindings references name body = [] ∧ image = segmentUnit name body := by
  obtain ⟨hnone, -⟩ := compile_eq_ok_iff.mp hcompile
  have hfold : ∀ code, .expression code ∈ body → ¬ EscapesFeed .outside code.toList :=
    fun code hcode => not_escapesFeed_of_ofSource hgenerate
      (ModelType.isTrimmed_sourceName hname) hline hbody hnone hcode
  rw [compile_generate hname hline hbody hfold hgenerate] at hcompile
  split at hcompile
  · next hempty => exact ⟨List.isEmpty_iff.mp hempty, (Except.ok.inj hcompile).symm⟩
  · cases hcompile

/-- What a document that compiles has to be like to be loaded. -/
structure IsLoadable (document : Document) : Prop where
  /-- The name of the model type is one line. -/
  line : ∀ name, document.model.sourceName = .ok name → '\n' ∉ name.toList
  /-- The tree of an expression nests at most 122 levels deep. -/
  depth : ∀ code e, .expression code ∈ document.segments → parse code.toList = .ok e →
    e.toJson.depth ≤ 122

theorem isLoadable_of_sourceName {model : ModelType} {segments : List Segment} {name : String}
    (hname : model.sourceName = .ok name) (hline : '\n' ∉ name.toList)
    (hdepth : ∀ code, .expression code ∈ segments →
      (parse code.toList).toOption.all (·.toJson.depth ≤ 122) = true) :
    IsLoadable ⟨model, segments⟩ where
  line other hother := by
    obtain rfl := Except.ok.inj (hname.symm.trans hother)
    exact hline
  depth code e hcode he := by
    have hle := hdepth code hcode
    rw [he] at hle
    exact of_decide_eq_true hle

/-- What loads after a document has been compiled. -/
theorem load_eq {text source : String} {model : ModelType} {document : Document}
    {references : References} {bytes : ByteArray}
    (hparse : Document.parse text model = .ok document) (hgenerate : generate document = .ok source)
    (hbuild : build source references = .ok bytes) :
    (IsLoadable document → ∃ name, model.sourceName = .ok name
        ∧ load bytes model = .ok ⟨unitName, segmentRenderer name document.segments⟩
        ∧ segmentFindings references name document.segments = [])
      ∧ (¬ IsLoadable document →
        ∃ reason, load bytes model = .error (.rendererNotFound rendererName reason)) := by
  obtain ⟨name, body, hname, rfl, hbody⟩ := Document.exists_isBody_of_parse hparse
  obtain ⟨image, hcompile, rfl⟩ := exists_compile_of_build hbuild
  rw [load_bytes hcompile hname]
  by_cases hline : '\n' ∈ name.toList
  · -- Whatever the source has been compiled to, its renderer is bound to another name.
    refine ⟨fun h => absurd hline (h.line name hname), fun _ => ?_⟩
    split
    · exact select_eq_error_of_feed hcompile hline
    · exact ⟨_, rfl⟩
  · -- The unit is the one of the segments, and it is read back unless it nests too deep.
    obtain ⟨hnone, rfl⟩ := eq_segmentUnit_of_compile hname hline hbody hgenerate hcompile
    have hdepth : (segmentUnit name body).toJson.depth ≤ Decoder.nestingLimit
        ↔ IsLoadable ⟨model, .inherits baseContract name :: body⟩ := by
      rw [segmentUnit, UnitImage.depth_le_nestingLimit_iff]
      constructor
      · intro h
        exact
          { line := fun name' hname' => Except.ok.inj (hname.symm.trans hname') ▸ hline
            depth := fun code e hcode he => by
              have hmem : .expression code ∈ body :=
                (List.mem_cons.mp hcode).resolve_left Segment.noConfusion
              exact h e (mem_instructions_iff.mpr ⟨code, hmem, he⟩) }
      · intro h e he
        obtain ⟨code, hcode, hparse⟩ := mem_instructions_iff.mp he
        exact h.depth code e (List.mem_cons_of_mem _ hcode) hparse
    refine ⟨fun h => ⟨name, hname, ?_, hnone⟩, fun h => ?_⟩
    · rw [if_pos (hdepth.mpr h), select_segmentUnit]
      rfl
    · rw [if_neg (fun hle => h (hdepth.mp hle))]
      exact ⟨_, rfl⟩

/-- A document without findings compiles, and what loads is the renderer of its segments. -/
theorem exists_load_of_segmentFindings {text name : String} {model : ModelType}
    {document : Document} {references : References}
    (hparse : Document.parse text model = .ok document) (hname : model.sourceName = .ok name)
    (hfold : ∀ code, .expression code ∈ document.segments → ¬ EscapesFeed .outside code.toList)
    (hloadable : IsLoadable document)
    (hnone : segmentFindings references name document.segments = []) :
    ∃ source bytes, generate document = .ok source ∧ build source references = .ok bytes
      ∧ load bytes model = .ok ⟨unitName, segmentRenderer name document.segments⟩ := by
  obtain ⟨name', body, hname', rfl, hbody⟩ := Document.exists_isBody_of_parse hparse
  obtain rfl := Except.ok.inj (hname'.symm.trans hname)
  obtain ⟨source, hgenerate⟩ :
      ∃ source, generate ⟨model, .inherits baseContract name' :: body⟩ = .ok source :=
    ⟨_, generate_eq_ok hname⟩
  have hcompile := compile_generate hname (hloadable.line name' hname) hbody
    (fun code hcode => hfold code (List.mem_cons_of_mem _ hcode)) hgenerate references
  have hempty : (segmentFindings references name' body).isEmpty = true := by
    rw [List.isEmpty_iff]
    exact hnone
  rw [if_pos hempty] at hcompile
  have hbuild : build source references = .ok (segmentUnit name' body).bytes := by
    rw [build, hcompile]
  obtain ⟨loaded, hloaded, hload, -⟩ := (load_eq hparse hgenerate hbuild).1 hloadable
  obtain rfl := Except.ok.inj (hname.symm.trans hloaded)
  exact ⟨source, _, hgenerate, hbuild, hload⟩

/-- A compiled document loads exactly when the name of its model type is one line and no expression
nests too deep; otherwise its renderer is not found. -/
theorem load_build {text source : String} {model : ModelType} {document : Document}
    {references : References} {bytes : ByteArray}
    (hparse : Document.parse text model = .ok document) (hgenerate : generate document = .ok source)
    (hbuild : build source references = .ok bytes) :
    ((∃ renderer, load bytes model = .ok renderer) ↔ IsLoadable document)
      ∧ (¬ IsLoadable document →
        ∃ reason, load bytes model = .error (.rendererNotFound rendererName reason)) := by
  obtain ⟨hloads, hfails⟩ := load_eq hparse hgenerate hbuild
  refine ⟨⟨?_, ?_⟩, hfails⟩
  · rintro ⟨renderer, hrenderer⟩
    by_contra hnot
    obtain ⟨reason, herror⟩ := hfails hnot
    rw [herror] at hrenderer
    cases hrenderer
  · intro h
    obtain ⟨name, -, hload, -⟩ := hloads h
    exact ⟨_, hload⟩

theorem exists_ok_of_isOk {result : Except Error ByteArray} (h : result.isOk = true) :
    ∃ bytes, result = .ok bytes := by
  cases result with
  | ok bytes => exact ⟨bytes, rfl⟩
  | error e => cases h

/-- The name of a model type can close its own declaration and turn what follows into a comment. The
source compiles, for another model type than the one that is loaded. -/
theorem exists_load_build_feed :
    ∃ document source bytes,
      Document.parse "text" ⟨"a>\n//", "demo", false⟩ = .ok document
        ∧ generate document = .ok source
        ∧ build source (.ofList [("demo", (Module.mk "demo" [.sealed "a"]).bytes),
            ("quill", Module.host.bytes)]) = .ok bytes
        ∧ ∃ reason, load bytes ⟨"a>\n//", "demo", false⟩
            = .error (.rendererNotFound rendererName reason) := by
  have hparse : Document.parse "text" ⟨"a>\n//", "demo", false⟩
      = .ok ⟨⟨"a>\n//", "demo", false⟩, [.inherits baseContract "a>\n//", .literal "text"]⟩ := by
    decide +kernel
  have hname : ModelType.sourceName ⟨"a>\n//", "demo", false⟩ = .ok "a>\n//" := by decide +kernel
  have hgenerate : generate ⟨⟨"a>\n//", "demo", false⟩,
      [.inherits baseContract "a>\n//", .literal "text"]⟩ = .ok _ := generate_eq_ok hname
  have hbuilt : (build (String.join ((sourceLines ⟨⟨"a>\n//", "demo", false⟩,
      [.inherits baseContract "a>\n//", .literal "text"]⟩).map (· ++ "\n")))
      (.ofList [("demo", (Module.mk "demo" [.sealed "a"]).bytes),
        ("quill", Module.host.bytes)])).isOk = true := by
    decide +kernel
  obtain ⟨bytes, hbuild⟩ := exists_ok_of_isOk hbuilt
  have hnot : ¬ IsLoadable ⟨⟨"a>\n//", "demo", false⟩,
      [.inherits baseContract "a>\n//", .literal "text"]⟩ := by
    intro h
    exact h.line _ hname (by decide)
  exact ⟨_, _, bytes, hparse, hgenerate, hbuild, (load_build hparse hgenerate hbuild).2 hnot⟩

end Stencil.Unit
