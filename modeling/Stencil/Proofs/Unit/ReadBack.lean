import Mathlib
import Stencil.Proofs.Expression.ReadBack
import Stencil.Unit.Format

/-!
# Units read back

`UnitImage.ofBytes?_bytes` says when the bytes of a unit are read as that unit: exactly when its
tree nests no deeper than decoders go. The unit's expressions are the only part that may nest deep,
so `UnitImage.depth_le_nestingLimit_iff` puts the bound on each of them.
-/

namespace Stencil

open Decoder (Inverts)

theorem Contract.inverts_decode (contract : Contract) :
    Inverts Contract.decode Contract.toJson contract := by
  intro depth
  cases depth with
  | zero => simp [decode, toJson, Json.depth]
  | succ depth =>
    simp [decode, toJson, Json.depth, Json.membersDepth, Decoder.fields?, Decoder.field?,
      Decoder.required, Decoder.text]

namespace Instruction

/-- Whether an instruction can be written: its expression can. -/
def IsPlain : Instruction → Prop
  | .writeLiteral _ => True
  | .write expression => expression.IsPlain

theorem inverts_decode {instruction : Instruction} (h : instruction.IsPlain) :
    Inverts decode toJson instruction := by
  intro depth
  cases depth with
  | zero => cases instruction <;> simp [decode, toJson]
  | succ depth =>
    cases instruction with
    | writeLiteral text => simp [decode, toJson, Decoder.text, Json.depth]
    | write expression =>
      have hexpression := Expression.inverts_decode h depth
      by_cases hle : expression.toJson.depth ≤ depth <;>
        simp [decode, toJson, hexpression, hle]

theorem isWritten_toJson {instruction : Instruction} (h : instruction.IsPlain) :
    instruction.toJson.IsWritten := by
  cases instruction with
  | writeLiteral text => exact .object (by simpa using .string text)
  | write expression => exact .object (by simpa using Expression.isWritten_toJson h)

end Instruction

namespace RendererImage

/-- Whether a renderer can be written: its instructions can. -/
def IsPlain (image : RendererImage) : Prop :=
  ∀ instruction ∈ image.body, instruction.IsPlain

theorem inverts_decode {image : RendererImage} (h : image.IsPlain) :
    Inverts decode toJson image := by
  have hbody := Decoder.inverts_list fun instruction hinstruction =>
    Instruction.inverts_decode (h instruction hinstruction)
  have hdependencies := Decoder.inverts_list fun dependency (_ : dependency ∈ image.dependencies) =>
    Decoder.inverts_text dependency
  intro depth
  cases depth with
  | zero => simp [decode, toJson, Json.depth]
  | succ depth =>
    have hdepth : image.toJson.depth ≤ depth + 1
        ↔ image.base.toJson.depth ≤ depth
          ∧ (Json.array (image.dependencies.map Json.string)).depth ≤ depth
          ∧ (Json.array (image.body.map Instruction.toJson)).depth ≤ depth := by
      simp [toJson, Json.depth, Json.membersDepth]
    have hfields : Decoder.fields? ["name", "base", "dependencies", "body"] image.toJson
        = some [some (.string image.name), some image.base.toJson,
            some (.array (image.dependencies.map Json.string)),
            some (.array (image.body.map Instruction.toJson))] := by
      simp [toJson, Decoder.fields?, Decoder.field?]
    -- The renderer is decoded when each of its parts fits into one level less.
    rw [if_congr hdepth rfl rfl]
    by_cases hbase : image.base.toJson.depth ≤ depth <;>
      by_cases hnames : (Json.array (image.dependencies.map Json.string)).depth ≤ depth <;>
        by_cases hlines : (Json.array (image.body.map Instruction.toJson)).depth ≤ depth <;>
          simp [decode, hfields, Decoder.required, Decoder.optional, Decoder.text,
            image.base.inverts_decode depth, hdependencies depth, hbody depth, hbase, hnames,
            hlines]

theorem isWritten_toJson {image : RendererImage} (h : image.IsPlain) :
    image.toJson.IsWritten := by
  have hbase : image.base.toJson.IsWritten :=
    .object (by simpa using ⟨.string image.base.name, .string image.base.model⟩)
  have hdependencies : (Json.array (image.dependencies.map Json.string)).IsWritten :=
    .array (List.forall_mem_map.mpr fun dependency _ => .string dependency)
  have hbody : (Json.array (image.body.map Instruction.toJson)).IsWritten :=
    .array (List.forall_mem_map.mpr fun instruction hinstruction =>
      Instruction.isWritten_toJson (h instruction hinstruction))
  exact .object (by simpa using ⟨.string image.name, hbase, hdependencies, hbody⟩)

end RendererImage

namespace UnitImage

/-- Whether a unit can be written: its renderers can. -/
def IsPlain (image : UnitImage) : Prop :=
  ∀ renderer ∈ image.types, renderer.IsPlain

theorem inverts_decode {image : UnitImage} (h : image.IsPlain) : Inverts decode toJson image := by
  have htypes := Decoder.inverts_list fun renderer hrenderer =>
    RendererImage.inverts_decode (h renderer hrenderer)
  intro depth
  cases depth with
  | zero => simp [decode, toJson, Json.depth]
  | succ depth =>
    have hdepth : image.toJson.depth ≤ depth + 1
        ↔ (Json.array (image.types.map RendererImage.toJson)).depth ≤ depth := by
      simp [toJson, Json.depth, Json.membersDepth]
    have hfields : Decoder.fields? ["name", "types"] image.toJson
        = some [some (.string image.name),
            some (.array (image.types.map RendererImage.toJson))] := by
      simp [toJson, Decoder.fields?, Decoder.field?]
    rw [if_congr hdepth rfl rfl]
    by_cases hle : (Json.array (image.types.map RendererImage.toJson)).depth ≤ depth <;>
      simp [decode, hfields, Decoder.required, Decoder.text, htypes depth, hle]

theorem isWritten_toJson {image : UnitImage} (h : image.IsPlain) : image.toJson.IsWritten := by
  have htypes : (Json.array (image.types.map RendererImage.toJson)).IsWritten :=
    .array (List.forall_mem_map.mpr fun renderer hrenderer =>
      RendererImage.isWritten_toJson (h renderer hrenderer))
  exact .object (by simpa using ⟨.string image.name, htypes⟩)

/-- The bytes of a unit are read as the unit exactly when its tree does not nest too deep. -/
theorem ofBytes?_bytes {image : UnitImage} (h : image.IsPlain) :
    ofBytes? image.bytes
      = if image.toJson.depth ≤ Decoder.nestingLimit then some image else none := by
  rw [ofBytes?, bytes, text, Decoder.runBytes_text _ (isWritten_toJson h), inverts_decode h]

/-- How deep the tree of a unit of one renderer nests: five levels are on the way to the expressions
of its instructions. -/
theorem depth_le_nestingLimit_iff (unit : String) (renderer : RendererImage) :
    (UnitImage.mk unit [renderer]).toJson.depth ≤ Decoder.nestingLimit
      ↔ ∀ e, .write e ∈ renderer.body → e.toJson.depth ≤ 122 := by
  have hbase : renderer.base.toJson.depth = 1 := by
    simp [Contract.toJson, Json.depth, Json.membersDepth]
  have hnames : Json.itemsDepth (renderer.dependencies.map Json.string) ≤ 0 :=
    Decoder.itemsDepth_le_iff.mpr (List.forall_mem_map.mpr fun _ _ => Nat.le_refl 0)
  have hbody : Json.itemsDepth (renderer.body.map Instruction.toJson) ≤ 123
      ↔ ∀ e, .write e ∈ renderer.body → e.toJson.depth ≤ 122 := by
    rw [Decoder.itemsDepth_le_iff, List.forall_mem_map]
    constructor
    · intro h e he
      have := h (.write e) he
      rw [Instruction.toJson, Json.depth_member] at this
      omega
    · intro h instruction hinstruction
      cases instruction with
      | writeLiteral text => simp [Instruction.toJson, Json.depth]
      | write e =>
        have := h e hinstruction
        rw [Instruction.toJson, Json.depth_member]
        omega
  rw [← hbody]
  simp only [toJson, List.map_cons, List.map_nil, RendererImage.toJson, Json.depth,
    Json.membersDepth, Json.itemsDepth, hbase, Decoder.nestingLimit]
  omega

end UnitImage

end Stencil
