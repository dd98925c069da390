import Mathlib
import Stencil.Proofs.Module.Definition
import Stencil.Proofs.Module.ReadBack
import Stencil.Proofs.Unit.Draft

/-!
# The types that a compiler sees

A module that is read from bytes may define a name more than once. The compiler sees the last
definition of a name, while a search of the module finds the first one. So it sees what is found
exactly where the two say the same of the members (`get?_knownTypes_eq_find?_iff`), and always where
no name is repeated, as in every module that is made by definitions.
-/

namespace Stencil

namespace Module

/-- What is found under a name is its first definition. -/
theorem find?_eq_some_iff {module : Module} {type : String} {schema : Schema} :
    module.find? type = some schema
      ↔ ∃ front rest, module.types = front ++ schema :: rest ∧ schema.name = type
          ∧ type ∉ front.map (·.name) := by
  rw [find?, List.find?_eq_some_iff_append]
  constructor
  · rintro ⟨hname, front, rest, hsplit, hfront⟩
    refine ⟨front, rest, hsplit, beq_iff_eq.mp hname, fun hmem => ?_⟩
    obtain ⟨other, hother, heq⟩ := List.mem_map.mp hmem
    simpa [heq] using hfront other hother
  · rintro ⟨front, rest, hsplit, hname, hfront⟩
    refine ⟨beq_iff_eq.mpr hname, front, rest, hsplit, fun other hother => ?_⟩
    have hne : other.name ≠ type := fun heq => hfront (heq ▸ List.mem_map_of_mem hother)
    simpa using hne

/-- A name is found if it is defined at all. -/
theorem exists_find?_iff {module : Module} {type : String} :
    (∃ schema, module.find? type = some schema) ↔ type ∈ module.types.map (·.name) := by
  rw [← Option.isSome_iff_exists, find?, List.find?_isSome]
  simp

/-- The first and the last definition of a name say the same of the members. -/
def AgreesOn (module : Module) (type : String) : Prop :=
  ∀ front first between last rest, module.types = front ++ first :: (between ++ last :: rest) →
    first.name = type → last.name = type →
      type ∉ front.map (·.name) → type ∉ rest.map (·.name) → first.members = last.members

/-- A name that is not repeated has no two definitions. -/
theorem agreesOn_of_nodup {module : Module} (h : (module.types.map (·.name)).Nodup)
    (type : String) : module.AgreesOn type := by
  intro front first between last rest hsplit hfirst hlast _ _
  rw [hsplit, List.map_append, List.map_cons] at h
  obtain ⟨hnot, -⟩ := List.nodup_cons.mp h.of_append_right
  exact absurd (by simp [hfirst, hlast]) hnot

end Module

namespace Unit

/-- The table of modules holds what is found when all their types are searched from the end. -/
theorem get?_typeTable (modules : List Module) (type : String) :
    (typeTable modules).get? type = (modules.flatMap (·.types)).reverse.find? (·.name == type) := by
  rw [typeTable, Dictionary.get?_ofList, ← List.map_reverse, Entries.get?, List.find?_map,
    Option.map_map]
  exact Option.map_id_apply

theorem knownTypes_insert_empty {bytes : ByteArray} {module : Module}
    (h : Module.ofBytes? bytes = some module) (id : String) :
    knownTypes ((∅ : References).insert id bytes) = typeTable [module] := by
  have hread : readModules ((∅ : References).insert id bytes) = [(id, some module)] := by
    rw [← h]
    rfl
  rw [knownTypes, hread]
  rfl

/-- The compiler sees the last definition of a name. -/
theorem get?_typeTable_eq_some_iff {module : Module} {type : String} {schema : Schema} :
    (typeTable [module]).get? type = some schema
      ↔ ∃ front rest, module.types = front ++ schema :: rest ∧ schema.name = type
          ∧ type ∉ rest.map (·.name) := by
  have hreverse : (typeTable [module]).get? type
      = (Module.mk module.name module.types.reverse).find? type := by
    rw [get?_typeTable, List.flatMap_singleton]
    rfl
  rw [hreverse, Module.find?_eq_some_iff]
  constructor
  · rintro ⟨front, rest, hsplit, hname, hfront⟩
    refine ⟨rest.reverse, front.reverse, ?_, hname, by simpa using hfront⟩
    simpa using congrArg List.reverse hsplit
  · rintro ⟨front, rest, hsplit, hname, hrest⟩
    exact ⟨rest.reverse, front.reverse, by simp [hsplit], hname, by simpa using hrest⟩

theorem exists_get?_typeTable_iff {module : Module} {type : String} :
    (∃ schema, (typeTable [module]).get? type = some schema)
      ↔ type ∈ module.types.map (·.name) := by
  rw [← Option.isSome_iff_exists, get?_typeTable, List.flatMap_singleton, List.find?_isSome]
  simp

/-- What the compiler sees is what is found when the first and the last definition agree. -/
theorem get?_typeTable_eq_find?_iff {module : Module} {type : String} :
    (typeTable [module]).get? type = module.find? type ↔ module.AgreesOn type := by
  constructor
  · rintro heq front first between last rest hsplit hfirst hlast hfront hrest
    have hfound : module.find? type = some first :=
      Module.find?_eq_some_iff.mpr ⟨front, _, hsplit, hfirst, hfront⟩
    have hseen : (typeTable [module]).get? type = some last :=
      get?_typeTable_eq_some_iff.mpr
        ⟨front ++ first :: between, rest, by simp [hsplit], hlast, hrest⟩
    rw [hfound, hseen] at heq
    rw [Option.some.inj heq]
  · intro hagree
    by_cases hdefined : type ∈ module.types.map (·.name)
    · obtain ⟨first, hfound⟩ := Module.exists_find?_iff.mpr hdefined
      obtain ⟨last, hseen⟩ := exists_get?_typeTable_iff.mpr hdefined
      obtain ⟨front, later, hsplit, hfirst, hfront⟩ := Module.find?_eq_some_iff.mp hfound
      obtain ⟨earlier, rest, hsplit', hlast, hrest⟩ := get?_typeTable_eq_some_iff.mp hseen
      rw [hfound, hseen, Option.some.injEq]
      -- The last definition is the first one or stands behind it.
      rcases List.append_eq_append_iff.mp (hsplit.symm.trans hsplit') with
        ⟨gap, hgap, htail⟩ | ⟨gap, hgap, htail⟩
      · cases gap with
        | nil => exact (List.cons.inj htail).1.symm
        | cons other between =>
          obtain ⟨rfl, rfl⟩ := List.cons.inj htail
          have hmembers := hagree front first between last rest hsplit hfirst hlast hfront hrest
          exact congrArg₂ Schema.mk (hlast.trans hfirst.symm) hmembers.symm
      · cases gap with
        | nil => exact (List.cons.inj htail).1
        | cons other between =>
          obtain ⟨rfl, -⟩ := List.cons.inj htail
          exact absurd (List.mem_map.mpr ⟨last, by simp [hgap], hlast⟩) hfront
    · have hfound : module.find? type = none :=
        Option.eq_none_iff_forall_ne_some.mpr fun schema h =>
          hdefined (Module.exists_find?_iff.mp ⟨schema, h⟩)
      have hseen : (typeTable [module]).get? type = none :=
        Option.eq_none_iff_forall_ne_some.mpr fun schema h =>
          hdefined (exists_get?_typeTable_iff.mp ⟨schema, h⟩)
      rw [hfound, hseen]

/-- The compiler sees the types that a module defines, each by the last definition of its name. A
search of the module finds the first one, so that the two differ where a repeated name is defined
with other members. They are the same where no name is repeated. -/
theorem get?_knownTypes_eq_find?_iff {bytes : ByteArray} {module : Module}
    (h : Module.ofBytes? bytes = some module) (id : String) :
    (∀ type, (∃ schema, (knownTypes ((∅ : References).insert id bytes)).get? type = some schema)
          ↔ ∃ schema, module.find? type = some schema)
      ∧ (∀ type schema, (knownTypes ((∅ : References).insert id bytes)).get? type = some schema
          ↔ ∃ front rest, module.types = front ++ schema :: rest ∧ schema.name = type
              ∧ type ∉ rest.map (·.name))
      ∧ (∀ type, (knownTypes ((∅ : References).insert id bytes)).get? type = module.find? type
          ↔ module.AgreesOn type)
      ∧ ((module.types.map (·.name)).Nodup → ∀ type,
          (knownTypes ((∅ : References).insert id bytes)).get? type = module.find? type) := by
  rw [knownTypes_insert_empty h]
  refine ⟨fun type => exists_get?_typeTable_iff.trans Module.exists_find?_iff.symm,
    fun type schema => get?_typeTable_eq_some_iff, fun type => get?_typeTable_eq_find?_iff,
    fun honce type => get?_typeTable_eq_find?_iff.mpr (Module.agreesOn_of_nodup honce type)⟩

/-- A module that defines a type twice: what is found has a name, and what the compiler sees has
none. -/
theorem exists_knownTypes_repeated :
    ∃ (bytes : ByteArray) (module : Module) (first last : Schema),
      Module.ofBytes? bytes = some module ∧ module.find? "Person" = some first
        ∧ (knownTypes ((∅ : References).insert "demo" bytes)).get? "Person" = some last
        ∧ first.member "Name" = .declared "string" ∧ last.member "Name" = .absent := by
  let first : Schema := ⟨"Person", some (.ofList [("Name", "string")])⟩
  let last : Schema := .empty "Person"
  let module : Module := ⟨"demo", [first, last]⟩
  have hread : Module.ofBytes? module.bytes = some module := module.ofBytes?_bytes
  obtain ⟨-, hseen, -⟩ := get?_knownTypes_eq_find?_iff hread "demo"
  exact ⟨module.bytes, module, first, last, hread, rfl,
    (hseen "Person" last).mpr ⟨[first], [], rfl, rfl, by simp⟩, by decide, by decide⟩

end Unit

end Stencil
