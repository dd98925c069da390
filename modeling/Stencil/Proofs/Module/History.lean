import Mathlib
import Stencil.Module.Catalog
import Stencil.Proofs.Entries
import Stencil.Proofs.Module.Definition
import Stencil.Proofs.Module.ReadBack

/-!
# The history of a catalog

A catalog comes about by registrations of modules, of single types and of model types, and these
tell it completely: the module of a name is there once something has been registered under the name,
and it is what all types registered there make of it, defined one by one
(`Catalog.get?_applyAll_eq_some_iff`). `Catalog.isHistory_applyAll` says so for registrations in the
catalog without modules and in that of the built-in ones.
-/

namespace Stencil

/-- A registration in a catalog. -/
inductive Registration where
  /-- A module that has been made by defining types one by one. -/
  | ofModule (name : String) (schemas : List Schema)
  /-- A type of a module. -/
  | ofSchema (name : String) (schema : Schema)
  /-- A model type. -/
  | ofModel (model : ModelType)

namespace Registration

/-- The module that a registration adds types to, and these types in their order. A model type that
templates cannot be bound to is added nowhere. -/
def addition? : Registration → Option (String × List Schema)
  | .ofModule name schemas => some (name, schemas)
  | .ofSchema name schema => some (name, [schema])
  | .ofModel model =>
    match model.sourceName with
    | .ok type => some (model.module, [.sealed type])
    | .error _ => none

/-- Whether a registration adds to the module of the given name. -/
def Targets (registration : Registration) (id : String) : Prop :=
  ∃ schemas, registration.addition? = some (id, schemas)

/-- The types that a registration adds to the module of the given name. -/
def added (id : String) (registration : Registration) : List Schema :=
  registration.addition?.elim [] fun addition => if addition.1 = id then addition.2 else []

/-- The types that registrations have added to the module of the given name, in their order. -/
def history (registrations : List Registration) (id : String) : List Schema :=
  registrations.flatMap (added id)

/-- The registrations that make the catalog of the built-in modules. -/
def builtin : List Registration :=
  [.ofModule runtimeModule
      [.empty "string", .empty "int", .empty "float", .empty "bool", .sealed "object"],
    .ofModule hostModule [.sealed baseContract]]

variable {registration : Registration} {registrations : List Registration} {id : String}

theorem added_eq {schemas : List Schema} (h : registration.addition? = some (id, schemas)) :
    registration.added id = schemas := by
  rw [added, h, Option.elim_some, if_pos rfl]

theorem added_eq_nil (h : ¬ registration.Targets id) : registration.added id = [] := by
  rw [added]
  cases haddition : registration.addition? with
  | none => rfl
  | some addition =>
    have hname : addition.1 ≠ id := fun heq => h ⟨addition.2, by rw [haddition, ← heq]⟩
    exact if_neg hname

theorem history_eq_nil (h : ¬ ∃ registration ∈ registrations, registration.Targets id) :
    history registrations id = [] :=
  List.flatMap_eq_nil_iff.mpr fun registration hmem =>
    added_eq_nil fun htargets => h ⟨registration, hmem, htargets⟩

theorem history_concat (registrations : List Registration) (registration : Registration) :
    history (registrations ++ [registration]) id
      = history registrations id ++ registration.added id := by
  rw [history, List.flatMap_append, List.flatMap_singleton]
  rfl

end Registration

namespace Catalog

open Registration (history)

/-- The catalog after a registration, whatever the registration tells. -/
def apply (catalog : Catalog) : Registration → Catalog
  | .ofModule name schemas => catalog.register (Module.ofSchemas name schemas)
  | .ofSchema name schema => catalog.registerSchema name schema
  | .ofModel model => (catalog.enroll model).2

/-- The catalog after registrations. -/
def applyAll (catalog : Catalog) (registrations : List Registration) : Catalog :=
  registrations.foldl apply catalog

/-- What registrations, in their order, make of a catalog. -/
structure IsHistory (catalog : Catalog) (registrations : List Registration) : Prop where
  /-- A module is there exactly if something has been registered under its name. -/
  present_iff : ∀ id, (∃ module, catalog.get? id = some module)
    ↔ ∃ registration ∈ registrations, registration.Targets id
  /-- A module holds what has been registered under its name. -/
  records : ∀ id module, catalog.get? id = some module →
    module.Records id (history registrations id)
  /-- One more registration under another name leaves a module as it is. -/
  frame : ∀ next id, ¬ Registration.Targets next id →
    (catalog.apply next).get? id = catalog.get? id
  /-- A model type is refused exactly if it cannot be named in source. Then the registration leaves
  the catalog as it is. -/
  refused : ∀ model e, ((catalog.enroll model).1 = .error e ↔ model.sourceName = .error e)
    ∧ ((catalog.enroll model).1 = .error e → (catalog.enroll model).2 = catalog)
  /-- A module that is there can be fetched, as bytes that stand for it. -/
  fetched : ∀ id module, catalog.get? id = some module →
    ∃ bytes, catalog.fetch id = .ok bytes ∧ Module.ofBytes? bytes = some module
  /-- Nothing else is wrong with a fetch but that there is no such module. -/
  missing_iff : ∀ id e, catalog.fetch id = .error e ↔ catalog.get? id = none ∧ e = .notFound id

/-! ## Single registrations -/

variable {catalog : Catalog} {registration : Registration} {registrations : List Registration}
  {id : String}

theorem register_eq (catalog : Catalog) (module : Module) :
    catalog.register module
      = catalog.insert module.name ((catalog.get? module.name).elim module (·.merge module)) := by
  rw [register]
  cases catalog.get? module.name <;> rfl

theorem get?_register (catalog : Catalog) (module : Module) (id : String) :
    (catalog.register module).get? id
      = if id = module.name then some ((catalog.get? id).elim module (·.merge module))
        else catalog.get? id := by
  rw [register_eq, Dictionary.get?_insert]
  by_cases hid : id = module.name
  · rw [if_pos hid, if_pos hid, hid]
  · rw [if_neg hid, if_neg hid]

/-- A registration registers the module of what it adds. -/
theorem apply_eq (catalog : Catalog) (registration : Registration) :
    catalog.apply registration
      = registration.addition?.elim catalog
          fun addition => catalog.register (Module.ofSchemas addition.1 addition.2) := by
  cases registration with
  | ofModule name schemas => rfl
  | ofSchema name schema => rfl
  | ofModel model =>
    rw [apply, enroll, Registration.addition?]
    cases model.sourceName with
    | ok name => rfl
    | error e => rfl

theorem get?_apply_of_targets {schemas : List Schema}
    (h : registration.addition? = some (id, schemas)) :
    (catalog.apply registration).get? id
      = some ((catalog.get? id).elim (Module.ofSchemas id schemas)
          (·.merge (Module.ofSchemas id schemas))) := by
  rw [apply_eq, h, Option.elim_some, get?_register, if_pos (Module.name_ofSchemas ..).symm]

/-- A registration leaves all modules but its own as they are. -/
theorem get?_apply_of_not_targets (h : ¬ registration.Targets id) :
    (catalog.apply registration).get? id = catalog.get? id := by
  rw [apply_eq]
  cases haddition : registration.addition? with
  | none => rfl
  | some addition =>
    have hname : id ≠ addition.1 := fun heq => h ⟨addition.2, by rw [haddition, heq]⟩
    rw [Option.elim_some, get?_register, if_neg]
    rwa [Module.name_ofSchemas]

theorem enroll_eq_error_iff {model : ModelType} {e : Error} :
    (catalog.enroll model).1 = .error e ↔ model.sourceName = .error e := by
  rw [enroll]
  cases model.sourceName with
  | ok name => simp
  | error cause => simp

/-- A refused registration changes nothing. -/
theorem enroll_of_error {model : ModelType} {e : Error} (h : (catalog.enroll model).1 = .error e) :
    (catalog.enroll model).2 = catalog := by
  rw [enroll, enroll_eq_error_iff.mp h]

theorem fetch_eq_error_iff {e : FetchError} :
    catalog.fetch id = .error e ↔ catalog.get? id = none ∧ e = .notFound id := by
  rw [fetch]
  cases catalog.get? id with
  | none => rw [Except.error.injEq, and_iff_right rfl, eq_comm]
  | some module => exact ⟨fun h => (nomatch h), fun h => (nomatch h.1)⟩

/-! ## All registrations -/

theorem applyAll_concat (catalog : Catalog) (registrations : List Registration)
    (registration : Registration) :
    catalog.applyAll (registrations ++ [registration])
      = (catalog.applyAll registrations).apply registration := by
  rw [applyAll, List.foldl_append]
  rfl

theorem applyAll_append (catalog : Catalog) (front rest : List Registration) :
    catalog.applyAll (front ++ rest) = (catalog.applyAll front).applyAll rest :=
  List.foldl_append

/-- After registrations a module is there if one of them is under its name, and it is what all types
registered under its name make of it. -/
theorem get?_applyAll_eq_some_iff {module : Module} :
    (applyAll (∅ : Dictionary Module) registrations).get? id = some module
      ↔ (∃ registration ∈ registrations, registration.Targets id)
        ∧ module = Module.ofSchemas id (history registrations id) := by
  induction registrations using List.reverseRecOn generalizing module with
  | nil => exact ⟨fun h => (nomatch h), fun h => (nomatch h.1.choose_spec.1)⟩
  | append_singleton front last ih =>
    have hsome : (∃ registration ∈ front ++ [last], registration.Targets id)
        ↔ (∃ registration ∈ front, registration.Targets id) ∨ last.Targets id := by
      simp only [List.mem_append, List.mem_singleton, or_and_right, exists_or, exists_eq_left]
    rw [applyAll_concat, Registration.history_concat, hsome]
    by_cases htargets : last.Targets id
    · obtain ⟨schemas, haddition⟩ := htargets
      rw [get?_apply_of_targets haddition, Registration.added_eq haddition, Option.some.injEq,
        and_iff_right (Or.inr ⟨schemas, haddition⟩), eq_comm]
      -- What has been added before is the module that is there, or nothing at all.
      suffices hmerged : ((applyAll (∅ : Dictionary Module) front).get? id).elim
          (Module.ofSchemas id schemas) (·.merge (Module.ofSchemas id schemas))
            = Module.ofSchemas id (history front id ++ schemas) by rw [hmerged]
      cases hfront : (applyAll (∅ : Dictionary Module) front).get? id with
      | none =>
        have hnone : ¬ ∃ registration ∈ front, registration.Targets id := by
          intro h
          rw [ih.mpr ⟨h, rfl⟩] at hfront
          cases hfront
        rw [Registration.history_eq_nil hnone]
        rfl
      | some existing =>
        rw [(ih.mp hfront).2, Option.elim_some, Module.merge_ofSchemas]
    · rw [get?_apply_of_not_targets htargets, Registration.added_eq_nil htargets, List.append_nil,
        or_iff_left htargets]
      exact ih

theorem isHistory_applyAll_empty (registrations : List Registration) :
    IsHistory (applyAll (∅ : Dictionary Module) registrations) registrations where
  present_iff id := by
    constructor
    · rintro ⟨module, hmodule⟩
      exact (get?_applyAll_eq_some_iff.mp hmodule).1
    · exact fun htargets => ⟨_, get?_applyAll_eq_some_iff.mpr ⟨htargets, rfl⟩⟩
  records id module hmodule := by
    rw [(get?_applyAll_eq_some_iff.mp hmodule).2]
    exact Module.records_ofSchemas id _
  frame _ _ := get?_apply_of_not_targets
  refused _ _ := ⟨enroll_eq_error_iff, enroll_of_error⟩
  fetched id module hmodule := by
    refine ⟨module.bytes, ?_, module.ofBytes?_bytes⟩
    rw [fetch, hmodule]
  missing_iff _ _ := fetch_eq_error_iff

theorem applyAll_builtin : applyAll (∅ : Dictionary Module) Registration.builtin = builtin :=
  rfl

/-- Whatever is registered, in the catalog without modules or in that of the built-in ones, the
catalog is what its registrations make of it, the built-in ones first: the modules are those that
something has been registered under; their types have distinct names, which stand in the order in
which they first came up, and each type is the one registered last; a registration changes no other
module, and one that is refused changes nothing; and the bytes of a module can be fetched exactly if
it is there. -/
theorem isHistory_applyAll (registrations : List Registration) :
    IsHistory (applyAll (∅ : Dictionary Module) registrations) registrations
      ∧ IsHistory (builtin.applyAll registrations) (Registration.builtin ++ registrations) := by
  refine ⟨isHistory_applyAll_empty registrations, ?_⟩
  rw [← applyAll_builtin, ← applyAll_append]
  exact isHistory_applyAll_empty _

/-- A name keeps its place when it is registered again, with what it is registered as last. -/
example :
    ((applyAll (∅ : Dictionary Module) [.ofModule "shop" [.sealed "a", .empty "b", .empty "a"],
        .ofSchema "demo" (.sealed "b"), .ofModel ⟨"shop::c", "shop", false⟩,
        .ofModel ⟨"shop::d<a>", "shop", true⟩, .ofSchema "shop" (.sealed "b")]).get? "shop").map
      (fun module => module.types.map fun schema => (schema.name, schema.members.isNone))
      = some [("a", false), ("b", true), ("shop.c", true)] := by
  decide +kernel

end Catalog

end Stencil
