import Mathlib
import Stencil.Module.Basic

/-!
# Modules made by definitions

A module that has been made by defining types one by one has one type of each name. The types stand
in the order in which their names first came up, each as it was defined last (`records_ofSchemas`).
Merging such a module into another one does what its definitions would have done there
(`merge_ofSchemas`), since a definition only counts until its name is defined again.
-/

namespace Stencil.Module

/-- The module of the given name in which types have been defined one by one. -/
def ofSchemas (name : String) (schemas : List Schema) : Module :=
  schemas.foldl define (new name)

/-- What definitions, in their order, make of a module. -/
structure Records (module : Module) (name : String) (schemas : List Schema) : Prop where
  /-- The module has the name that it was made under. -/
  name_eq : module.name = name
  /-- The types that have been defined are there, and no others. -/
  mem_iff : ∀ type, type ∈ module.types.map (·.name) ↔ type ∈ schemas.map (·.name)
  /-- There is one type of each name. -/
  distinct : (module.types.map (·.name)).Nodup
  /-- A type stands before another one if its name came up first. -/
  ordered : (module.types.map (·.name)).Pairwise fun first second =>
    (schemas.map (·.name)).idxOf first < (schemas.map (·.name)).idxOf second
  /-- Under a name, what was defined last is found. -/
  find?_eq : ∀ type, module.find? type = (schemas.filter (·.name == type)).getLast?

/-! ## Placing a schema -/

variable {schema other : Schema} {types rest : List Schema}

theorem names_place (schema : Schema) (types : List Schema) :
    (place schema types).map (·.name)
      = if schema.name ∈ types.map (·.name) then types.map (·.name)
        else types.map (·.name) ++ [schema.name] := by
  induction types with
  | nil => rfl
  | cons first rest ih =>
    rw [place]
    by_cases hfirst : first.name = schema.name
    · rw [if_pos hfirst, List.map_cons, List.map_cons, ← hfirst, if_pos List.mem_cons_self]
    · have hmem : schema.name ∈ (first :: rest).map (·.name) ↔ schema.name ∈ rest.map (·.name) := by
        rw [List.map_cons, List.mem_cons, or_iff_right (Ne.symm hfirst)]
      rw [if_neg hfirst, List.map_cons, ih, if_congr hmem rfl rfl]
      split <;> rfl

theorem nodup_place (h : (types.map (·.name)).Nodup) :
    ((place schema types).map (·.name)).Nodup := by
  rw [names_place]
  split
  · exact h
  · next hnew => exact List.nodup_append'.mpr ⟨h, List.nodup_singleton _, by simpa using hnew⟩

theorem find?_place (schema : Schema) (types : List Schema) (name : String) :
    (place schema types).find? (·.name == name)
      = if schema.name = name then some schema else types.find? (·.name == name) := by
  induction types with
  | nil => by_cases h : schema.name = name <;> simp [place, h]
  | cons first rest ih =>
    rw [place]
    by_cases hfirst : first.name = schema.name
    · by_cases h : schema.name = name <;> simp [hfirst, h]
    · by_cases h : first.name = name
      · have hother : schema.name ≠ name := fun heq => hfirst (h.trans heq.symm)
        rw [if_neg hfirst, if_neg hother, List.find?_cons_of_pos (by simpa using h),
          List.find?_cons_of_pos (by simpa using h)]
      · rw [if_neg hfirst, List.find?_cons_of_neg (by simpa using h), ih,
          List.find?_cons_of_neg (by simpa using h)]

/-- A schema that is placed under a name takes the place of the one placed there before. -/
theorem place_place_of_eq (h : other.name = schema.name) (types : List Schema) :
    place schema (place other types) = place schema types := by
  induction types with
  | nil => simp [place, h]
  | cons first rest ih =>
    rw [place, place]
    by_cases hfirst : first.name = schema.name
    · rw [if_pos (hfirst.trans h.symm), if_pos hfirst, place, if_pos h]
    · rw [if_neg (fun heq => hfirst (heq.trans h)), if_neg hfirst, place, if_neg hfirst, ih]

/-- Where a name has its place already, it does not matter when another name is placed. -/
theorem place_comm (hne : other.name ≠ schema.name) (hmem : schema.name ∈ types.map (·.name)) :
    place schema (place other types) = place other (place schema types) := by
  induction types with
  | nil => cases hmem
  | cons first rest ih =>
    by_cases hfirst : first.name = schema.name
    · have hother : first.name ≠ other.name := fun heq => hne (heq.symm.trans hfirst)
      rw [place, if_neg hother, place, if_pos hfirst, place, if_pos hfirst, place,
        if_neg (Ne.symm hne)]
    · have hrest : schema.name ∈ rest.map (·.name) :=
        (List.mem_cons.mp hmem).resolve_left (Ne.symm hfirst)
      by_cases hother : first.name = other.name
      · rw [place, if_pos hother, place, if_neg hne, place, if_neg hfirst, place, if_pos hother]
      · rw [place, if_neg hother, place, if_neg hfirst, place, if_neg hfirst, place, if_neg hother,
          ih hrest]

/-! ## Placing schemas one by one -/

/-- The schemas with others placed among them one by one. -/
def placeAll (schemas types : List Schema) : List Schema :=
  schemas.foldl (fun types schema => place schema types) types

theorem placeAll_cons (schema : Schema) (schemas types : List Schema) :
    placeAll (schema :: schemas) types = placeAll schemas (place schema types) :=
  rfl

theorem placeAll_concat (schemas : List Schema) (schema : Schema) (types : List Schema) :
    placeAll (schemas ++ [schema]) types = place schema (placeAll schemas types) := by
  rw [placeAll, List.foldl_append]
  rfl

theorem nodup_placeAll (schemas : List Schema) (h : (types.map (·.name)).Nodup) :
    ((placeAll schemas types).map (·.name)).Nodup := by
  induction schemas generalizing types with
  | nil => exact h
  | cons schema schemas ih => exact ih (nodup_place h)

/-- A schema whose name has its place already may as well be placed before schemas of other
names. -/
theorem place_placeAll (hrest : schema.name ∉ rest.map (·.name))
    (hmem : schema.name ∈ types.map (·.name)) :
    place schema (placeAll rest types) = placeAll rest (place schema types) := by
  induction rest generalizing types with
  | nil => rfl
  | cons other rest ih =>
    rw [List.map_cons, List.mem_cons, not_or] at hrest
    have hplaced : schema.name ∈ (place other types).map (·.name) := by
      rw [names_place]
      split
      · exact hmem
      · exact List.mem_append_left _ hmem
    rw [placeAll_cons, placeAll_cons, ih hrest.2 hplaced, place_comm (Ne.symm hrest.1) hmem]

/-- Placing schemas of which one has been placed is placing that one last. -/
theorem placeAll_place {schemas : List Schema} (hdistinct : (schemas.map (·.name)).Nodup) :
    placeAll (place schema schemas) types = place schema (placeAll schemas types) := by
  induction schemas generalizing types with
  | nil => rfl
  | cons first rest ih =>
    rw [List.map_cons, List.nodup_cons] at hdistinct
    rw [place]
    split
    · next hfirst =>
      -- The name has its place since `first`, and no schema behind it has that name.
      have hrest : schema.name ∉ rest.map (·.name) := hfirst ▸ hdistinct.1
      have hmem : schema.name ∈ (place first types).map (·.name) := by
        rw [names_place, ← hfirst]
        split
        · assumption
        · exact List.mem_append_right _ (List.mem_singleton_self _)
      rw [placeAll_cons, placeAll_cons, place_placeAll hrest hmem, place_place_of_eq hfirst]
    · rw [placeAll_cons, placeAll_cons, ih hdistinct.2]

/-- Placing schemas that have been placed among each other is placing them one by one. -/
theorem placeAll_placeAll (schemas types : List Schema) :
    placeAll (placeAll schemas []) types = placeAll schemas types := by
  induction schemas using List.reverseRecOn with
  | nil => rfl
  | append_singleton schemas schema ih =>
    have hdistinct : ((placeAll schemas []).map (·.name)).Nodup :=
      nodup_placeAll schemas List.nodup_nil
    rw [placeAll_concat, placeAll_concat, placeAll_place hdistinct, ih]

/-! ## Modules -/

theorem foldl_define (schemas : List Schema) (module : Module) :
    schemas.foldl define module = ⟨module.name, placeAll schemas module.types⟩ := by
  induction schemas generalizing module with
  | nil => rfl
  | cons schema schemas ih => exact ih (module.define schema)

theorem name_ofSchemas (name : String) (schemas : List Schema) :
    (ofSchemas name schemas).name = name := by
  rw [ofSchemas, foldl_define]
  rfl

theorem ofSchemas_concat (name : String) (schemas : List Schema) (schema : Schema) :
    ofSchemas name (schemas ++ [schema]) = (ofSchemas name schemas).define schema := by
  rw [ofSchemas, List.foldl_append]
  rfl

/-- Merging two modules made by definitions makes the module of all definitions. -/
theorem merge_ofSchemas (name other : String) (front rest : List Schema) :
    (ofSchemas name front).merge (ofSchemas other rest) = ofSchemas name (front ++ rest) := by
  rw [merge, ofSchemas, ofSchemas, ofSchemas, List.foldl_append]
  simp only [foldl_define]
  exact congrArg (Module.mk name) (placeAll_placeAll rest _)

/-- One more definition changes what is found under its name, and adds the name if it is new. -/
theorem Records.define {module : Module} {name : String} {schemas : List Schema}
    (h : module.Records name schemas) (schema : Schema) :
    (module.define schema).Records name (schemas ++ [schema]) where
  name_eq := h.name_eq
  mem_iff type := by
    rw [Module.define, names_place, List.map_append, List.mem_append, ← h.mem_iff,
      List.map_singleton, List.mem_singleton]
    split
    · next hmem => exact ⟨Or.inl, fun htype => htype.elim id fun heq => heq ▸ hmem⟩
    · rw [List.mem_append, List.mem_singleton]
  distinct := nodup_place h.distinct
  ordered := by
    -- The names that are there already came up at the same places as before.
    have hkept : ∀ type ∈ module.types.map (·.name),
        ((schemas ++ [schema]).map (·.name)).idxOf type = (schemas.map (·.name)).idxOf type := by
      intro type htype
      rw [List.map_append, List.idxOf_append_of_mem ((h.mem_iff type).mp htype)]
    have hordered : (module.types.map (·.name)).Pairwise fun first second =>
        ((schemas ++ [schema]).map (·.name)).idxOf first
          < ((schemas ++ [schema]).map (·.name)).idxOf second :=
      h.ordered.imp_of_mem fun hfirst hsecond hlt => by rwa [hkept _ hfirst, hkept _ hsecond]
    rw [Module.define, names_place]
    split
    · exact hordered
    · next hnew =>
      rw [List.pairwise_append]
      refine ⟨hordered, List.pairwise_singleton _ _, fun first hfirst last hlast => ?_⟩
      have hmem := (h.mem_iff first).mp hfirst
      rw [List.mem_singleton.mp hlast, hkept first hfirst, List.map_append,
        List.idxOf_append_of_notMem (fun hold => hnew ((h.mem_iff _).mpr hold))]
      exact Nat.lt_add_right _ (List.idxOf_lt_length_iff.mpr hmem)
  find?_eq type := by
    rw [find?, Module.define, find?_place, List.filter_append, List.filter_singleton]
    by_cases htype : schema.name = type
    · rw [if_pos htype, beq_iff_eq.mpr htype, cond_true, List.getLast?_concat]
    · rw [if_neg htype, beq_false_of_ne htype, cond_false, List.append_nil, ← find?, h.find?_eq]

/-- A module made by definitions holds what has been defined. -/
theorem records_ofSchemas (name : String) (schemas : List Schema) :
    (ofSchemas name schemas).Records name schemas := by
  induction schemas using List.reverseRecOn with
  | nil =>
    exact
      { name_eq := rfl
        mem_iff := fun type => Iff.rfl
        distinct := List.nodup_nil
        ordered := List.Pairwise.nil
        find?_eq := fun type => rfl }
  | append_singleton schemas schema ih =>
    rw [ofSchemas_concat]
    exact ih.define schema

end Stencil.Module
