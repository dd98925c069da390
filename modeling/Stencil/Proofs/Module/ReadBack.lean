import Mathlib
import Stencil.Module.Format
import Stencil.Proofs.Json.Decoding

/-!
# Modules read back

Every module is read back from its bytes (`Module.ofBytes?_bytes`): nothing in it nests deep, its
names may hold any character, and whether members are listed at all shows in the object that a
schema is written as. So different modules have different bytes (`Module.ofBytes?_bytes_inj`).
-/

namespace Stencil

open Decoder (Inverts)

theorem isWritten_membersJson (members : Dictionary String) : (membersJson members).IsWritten :=
  .object (List.forall_mem_map.mpr fun member _ => .string member.2)

theorem depth_membersJson (members : Dictionary String) : (membersJson members).depth = 1 := by
  have hflat : ∀ entries : List (String × String),
      Json.membersDepth (entries.map fun member => (member.1, .string member.2)) = 0 := by
    intro entries
    induction entries with
    | nil => rfl
    | cons entry entries ih => simp [Json.membersDepth, ih, Json.depth]
  rw [membersJson, Json.depth, hflat]

namespace Schema

/-- The list of members comes back, and so does its absence. -/
theorem inverts_decode (schema : Schema) : Inverts decode toJson schema := by
  obtain ⟨name, members⟩ := schema
  intro depth
  cases depth with
  | zero => simp [decode, toJson, Json.depth]
  | succ depth =>
    cases members with
    | none =>
      simp [decode, toJson, Decoder.fields?, Decoder.field?, Decoder.required, Decoder.optional,
        Decoder.text, Json.depth, Json.membersDepth]
    | some members =>
      have hmembers : Decoder.dictionary Decoder.text depth (membersJson members)
          = if (membersJson members).depth ≤ depth then some members else none :=
        Decoder.inverts_dictionary (fun entry _ => Decoder.inverts_text entry.2) depth
      have hne : membersJson members ≠ .null := Json.noConfusion
      have hfields : Decoder.fields? ["name", "members"] (toJson ⟨name, some members⟩)
          = some [some (.string name), some (membersJson members)] := by
        simp [toJson, Decoder.fields?, Decoder.field?]
      have hdepth : (toJson ⟨name, some members⟩).depth = (membersJson members).depth + 1 := by
        simp [toJson, Json.depth, Json.membersDepth]
      rw [hdepth]
      by_cases hle : (membersJson members).depth ≤ depth <;>
        simp [decode, hfields, Decoder.required, Decoder.optional, Decoder.text,
          Decoder.orNull_of_ne hne, hmembers, hle]

theorem isWritten_toJson (schema : Schema) : schema.toJson.IsWritten := by
  obtain ⟨name, members⟩ := schema
  cases members with
  | none => exact .object (by simpa using .string name)
  | some members =>
    exact .object (by simpa using ⟨.string name, isWritten_membersJson members⟩)

theorem depth_toJson_le (schema : Schema) : schema.toJson.depth ≤ 2 := by
  obtain ⟨name, members⟩ := schema
  cases members with
  | none => simp [toJson, Json.depth, Json.membersDepth]
  | some members => simp [toJson, Json.depth, Json.membersDepth, depth_membersJson]

end Schema

namespace Module

theorem inverts_decode (module : Module) : Inverts decode toJson module := by
  have htypes := Decoder.inverts_list fun schema (_ : schema ∈ module.types) =>
    schema.inverts_decode
  intro depth
  cases depth with
  | zero => simp [decode, toJson, Json.depth]
  | succ depth =>
    have hdepth : module.toJson.depth ≤ depth + 1
        ↔ (Json.array (module.types.map Schema.toJson)).depth ≤ depth := by
      simp [toJson, Json.depth, Json.membersDepth]
    have hfields : Decoder.fields? ["name", "types"] module.toJson
        = some [some (.string module.name), some (.array (module.types.map Schema.toJson))] := by
      simp [toJson, Decoder.fields?, Decoder.field?]
    rw [if_congr hdepth rfl rfl]
    by_cases hle : (Json.array (module.types.map Schema.toJson)).depth ≤ depth <;>
      simp [decode, hfields, Decoder.required, Decoder.optional, Decoder.text, htypes depth, hle]

theorem isWritten_toJson (module : Module) : module.toJson.IsWritten := by
  have htypes : (Json.array (module.types.map Schema.toJson)).IsWritten :=
    .array (List.forall_mem_map.mpr fun schema _ => schema.isWritten_toJson)
  exact .object (by simpa using ⟨.string module.name, htypes⟩)

/-- Four levels are enough for any module. -/
theorem depth_toJson_le (module : Module) : module.toJson.depth ≤ 4 := by
  have htypes : Json.itemsDepth (module.types.map Schema.toJson) ≤ 2 :=
    Decoder.itemsDepth_le_iff.mpr (List.forall_mem_map.mpr fun schema _ => schema.depth_toJson_le)
  simp only [toJson, Json.depth, Json.membersDepth]
  omega

/-- A module is read back from its bytes. -/
theorem ofBytes?_bytes (module : Module) : ofBytes? module.bytes = some module := by
  have hdepth : module.toJson.depth ≤ Decoder.nestingLimit :=
    module.depth_toJson_le.trans (by decide)
  rw [ofBytes?, bytes, text, Decoder.runBytes_text _ module.isWritten_toJson,
    inverts_decode module Decoder.nestingLimit, if_pos hdepth]

theorem bytes_injective : Function.Injective bytes := by
  intro module other h
  have hread := congrArg ofBytes? h
  rwa [ofBytes?_bytes, ofBytes?_bytes, Option.some.injEq] at hread

/-- Every module is read back from its bytes, with all its types in their order, repeated ones
included. So modules that differ have different bytes, in particular where a type is sealed in the
one and has no members in the other. -/
theorem ofBytes?_bytes_inj (module : Module) :
    ofBytes? module.bytes = some module
      ∧ (∀ other : Module, other.bytes = module.bytes ↔ other = module)
      ∧ ∀ type front rest, (Module.mk module.name (front ++ .sealed type :: rest)).bytes
          ≠ (Module.mk module.name (front ++ .empty type :: rest)).bytes := by
  refine ⟨module.ofBytes?_bytes, fun other => bytes_injective.eq_iff, fun type front rest h => ?_⟩
  have htypes := (Module.mk.inj (bytes_injective h)).2
  have hschema := (List.cons.inj (List.append_cancel_left htypes)).1
  cases hschema

end Module

end Stencil
