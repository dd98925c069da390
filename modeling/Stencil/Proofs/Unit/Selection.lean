import Mathlib
import Stencil.Proofs.Unit.ReadBack
import Stencil.Unit.Loader

/-!
# Loading stored units

Any unit that can be written is read back from its bytes, as long as its tree does not nest too
deep, and what loads is the first of its types that is a template of the model type
(`load_eq_iff_offers`). The unit need not have been compiled from a source.
-/

namespace Stencil

/-- Whether a type of a unit is a template of the named model type: it has the name that templates
have, and implements the base contract bound to the model type. -/
def RendererImage.IsTemplateOf (image : RendererImage) (modelName : String) : Prop :=
  image.name = Source.rendererName ∧ image.base.name = baseContract ∧ image.base.model = modelName

/-- Whether a type is what a unit offers for the named model type: the first template of it. -/
def UnitImage.Offers (unit : UnitImage) (modelName : String) (image : RendererImage) : Prop :=
  image.IsTemplateOf modelName ∧ ∃ front rest, unit.types = front ++ image :: rest
    ∧ ∀ other ∈ front, ¬ other.IsTemplateOf modelName

namespace Unit

variable {unit : UnitImage} {modelName : String} {model : ModelType}

/-! ## Selection -/

theorem isRendererOf_iff {image : RendererImage} :
    isRendererOf modelName image = true ↔ image.IsTemplateOf modelName := by
  rw [isRendererOf, Bool.and_eq_true, beq_iff_eq, beq_iff_eq, RendererImage.IsTemplateOf,
    Contract.mk.injEq]

theorem find?_eq_some_iff_offers {image : RendererImage} :
    unit.types.find? (isRendererOf modelName) = some image ↔ unit.Offers modelName image := by
  simp only [List.find?_eq_some_iff_append, Bool.not_eq_true', ← Bool.not_eq_true,
    isRendererOf_iff, UnitImage.Offers]

theorem find?_eq_none_iff_not_offered :
    unit.types.find? (isRendererOf modelName) = none
      ↔ ∀ image ∈ unit.types, ¬ image.IsTemplateOf modelName := by
  simp only [List.find?_eq_none, isRendererOf_iff]

/-- What is selected is what the unit offers, under the name of the unit. -/
theorem select_eq_ok_iff {renderer : Renderer} :
    select unit modelName = .ok renderer
      ↔ renderer.unit = unit.name ∧ unit.Offers modelName renderer.image := by
  rw [select, ← find?_eq_some_iff_offers]
  split
  · next image hfind =>
    rw [hfind, Except.ok.injEq, Option.some.injEq]
    constructor
    · rintro rfl
      exact ⟨rfl, rfl⟩
    · rintro ⟨hunit, rfl⟩
      rw [← hunit]
  · next hfind =>
    rw [hfind]
    exact ⟨fun h => (nomatch h), fun h => (nomatch h.2)⟩

/-- Nothing is selected exactly if the unit has no template of the model type. -/
theorem select_eq_error_iff {e : Error} :
    select unit modelName = .error e
      ↔ (∀ image ∈ unit.types, ¬ image.IsTemplateOf modelName)
        ∧ e = .rendererNotFound Source.rendererName
          s!"unit '{unit.name}' has no type implementing {baseContract}<{modelName}>" := by
  rw [select, ← find?_eq_none_iff_not_offered]
  split
  · next image hfind =>
    rw [hfind]
    exact ⟨fun h => (nomatch h), fun h => (nomatch h.1)⟩
  · next hfind => rw [hfind, and_iff_right rfl, Except.error.injEq, eq_comm]

/-! ## Loading -/

/-- A unit that is read from its bytes is what is selected from. -/
theorem load_eq_select {bytes : ByteArray} (hbytes : UnitImage.ofBytes? bytes = some unit)
    (hname : model.sourceName = .ok modelName) : load bytes model = select unit modelName := by
  rw [load, hbytes]
  dsimp only
  rw [hname]

/-- A unit of plain data that nests at most 127 deep is read back from its bytes. What loads from
them is the first of its types that is a template of the model type, under the name of the unit, or
else the renderer is not found. -/
theorem load_eq_iff_offers (hplain : unit.IsPlain) (hdepth : unit.toJson.depth ≤ 127)
    (hname : model.sourceName = .ok modelName) :
    UnitImage.ofBytes? unit.bytes = some unit
      ∧ (∀ renderer, load unit.bytes model = .ok renderer
          ↔ renderer.unit = unit.name ∧ unit.Offers modelName renderer.image)
      ∧ ∀ e, load unit.bytes model = .error e
          ↔ (∀ image ∈ unit.types, ¬ image.IsTemplateOf modelName)
            ∧ e = .rendererNotFound Source.rendererName
              s!"unit '{unit.name}' has no type implementing {baseContract}<{modelName}>" := by
  have hbytes : UnitImage.ofBytes? unit.bytes = some unit := by
    rw [UnitImage.ofBytes?_bytes hplain]
    exact if_pos hdepth
  refine ⟨hbytes, fun renderer => ?_, fun e => ?_⟩
  · rw [load_eq_select hbytes hname, select_eq_ok_iff]
  · rw [load_eq_select hbytes hname, select_eq_error_iff]

/-- Of four types the third one is loaded: the first has another name, the second is bound to
another model type, and the last comes too late. A model type that no type is bound to finds none.
-/
theorem exists_load_third :
    ∃ helper other template last : RendererImage, ∃ unit : UnitImage,
      unit = ⟨"kit", [helper, other, template, last]⟩ ∧ unit.IsPlain ∧ unit.toJson.depth ≤ 127
        ∧ UnitImage.ofBytes? unit.bytes = some unit
        ∧ load unit.bytes (.ofTypeName "shop::Order") = .ok ⟨"kit", template⟩
        ∧ load unit.bytes (.ofTypeName "shop::Line") = .error (.rendererNotFound "Template"
            "unit 'kit' has no type implementing quill.templating.TemplateBase<shop.Line>") := by
  let order : Contract := ⟨"quill.templating.TemplateBase", "shop.Order"⟩
  let value : Value :=
    .object [("", .array [.null, .bool true]),
      ("\u0000\"", .number (.whole (-9223372036854775808)))]
  let e : Expression := .coalesce
    [.path "Model" [.index 18446744073709551615, .key "\\ €", .member "x"],
      .coalesce [.literal value]]
  let helper : RendererImage := ⟨"Helper", order, [], []⟩
  let other : RendererImage := ⟨"Template", ⟨order.name, "shop.Item"⟩, [], []⟩
  let template : RendererImage := ⟨"Template", order, ["Clock"], [.writeLiteral "\n", .write e]⟩
  let last : RendererImage := ⟨"Template", order, [], []⟩
  let unit : UnitImage := ⟨"kit", [helper, other, template, last]⟩
  have hvalue : value.IsPlain := by
    refine .object (by rw [Entries.Increasing]; decide +kernel) ?_
    simp only [List.mem_cons, List.not_mem_nil, or_false, forall_eq_or_imp, forall_eq]
    exact ⟨.array (by simpa using ⟨.null, .bool true⟩), .number rfl⟩
  have he : e.IsPlain := by
    refine .coalesce ?_
    simp only [List.mem_cons, List.not_mem_nil, or_false, forall_eq_or_imp, forall_eq]
    refine ⟨.path "Model" ?_, .coalesce (by simpa using .literal hvalue)⟩
    simp [Step.IsPlain]
  have hplain : unit.IsPlain := by
    simp [unit, UnitImage.IsPlain, RendererImage.IsPlain, helper, other, template, last,
      Instruction.IsPlain, he]
  have hdepth : unit.toJson.depth ≤ 127 := by decide +kernel
  have horder : (ModelType.ofTypeName "shop::Order").sourceName = .ok "shop.Order" := by
    decide +kernel
  have hline : (ModelType.ofTypeName "shop::Line").sourceName = .ok "shop.Line" := by
    decide +kernel
  obtain ⟨hbytes, hload, -⟩ := load_eq_iff_offers hplain hdepth horder
  obtain ⟨-, -, hmissing⟩ := load_eq_iff_offers hplain hdepth hline
  refine ⟨helper, other, template, last, unit, rfl, hplain, hdepth, hbytes, (hload _).mpr ⟨rfl, ?_⟩,
    (hmissing _).mpr ⟨?_, rfl⟩⟩
  · refine ⟨⟨rfl, rfl, rfl⟩, [helper, other], [last], rfl, ?_⟩
    simp [RendererImage.IsTemplateOf, helper, other, Source.rendererName]
  · simp [unit, helper, other, template, last, order, RendererImage.IsTemplateOf]

end Unit

end Stencil
