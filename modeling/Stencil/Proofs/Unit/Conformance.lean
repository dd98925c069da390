import Mathlib
import Stencil.Proofs.Json.Decoding
import Stencil.Proofs.Unit.Findings
import Stencil.Render.Value

/-!
# Checked paths into conforming values

A value conforms to a type if it has the members that the schema of the type lists, as far as
anything is known of them. The checker of paths and the evaluation of paths each choose a member by
its name, in its own case if possible, and on conforming values they choose the same one. So a path
is never missing as far as it has been checked (`exists_lookup?_of_memberProblems_eq_nil`).
-/

namespace Stencil

/-! ## The key that a name selects -/

namespace Text

/-- Whether a name selects a key: its own spelling if that is one of the keys, and otherwise the
first key that differs only in case. -/
def Selects (name : String) (keys : List String) (key : String) : Prop :=
  if name ∈ keys then key = name else keys.find? (sameUpToCase · name) = some key

/-- What is found under a name is what stands under the key that the name selects. -/
theorem findNamed_eq_some_iff {name : String} {entries : List (String × α)} {value : α} :
    findNamed name entries = some value
      ↔ ∃ key, Selects name (entries.map (·.1)) key ∧ Entries.get? entries key = some value := by
  have hexact : findExact name entries = Entries.get? entries name := rfl
  have hkeys : (entries.map (·.1)).find? (sameUpToCase · name)
      = (entries.find? (sameUpToCase ·.1 name)).map (·.1) := List.find?_map ..
  rw [findNamed, hexact]
  by_cases hmem : name ∈ entries.map (·.1)
  · obtain ⟨held, hheld⟩ := Entries.exists_get?_iff.mpr hmem
    simp only [Selects, if_pos hmem, exists_eq_left, hheld, Option.some_or]
  · simp only [Selects, if_neg hmem, hkeys, Entries.get?_eq_none_iff.mpr hmem, Option.none_or,
      findCaseless]
    cases hfind : entries.find? (sameUpToCase ·.1 name) with
    | none => simp
    | some entry =>
      have hentry := Entries.get?_of_find? (p := (sameUpToCase · name)) hfind
      simp [hentry]

end Text

/-! ## Conforming values -/

open Text (Selects findNamed)
open Stencil.Unit (TypeTable memberProblems Leads)

/-- Whether a value conforms to the type of a name. Nothing is asked of the values of a type that no
module defines, that is sealed or that lists no members; any other type has objects with exactly the
listed members, each of which conforms to its own type. -/
inductive Value.Conforms (types : TypeTable) : Value → String → Prop
  | unknown {value : Value} {type : String} (htype : types.get? type = none) :
      Conforms types value type
  | sealed {value : Value} {type : String} {schema : Schema} (htype : types.get? type = some schema)
      (hmembers : schema.members = none) : Conforms types value type
  | empty {value : Value} {type : String} {schema : Schema} {members : Dictionary String}
      (htype : types.get? type = some schema) (hmembers : schema.members = some members)
      (hempty : members.entries = []) : Conforms types value type
  | object {entries : List (String × Value)} {type : String} {schema : Schema}
      {members : Dictionary String} (htype : types.get? type = some schema)
      (hmembers : schema.members = some members)
      (hkeys : ∀ key, key ∈ entries.map (·.1) ↔ key ∈ members.names)
      (hparts : ∀ key part next, Entries.get? entries key = some part →
        members.get? key = some next → Conforms types part next) :
      Conforms types (.object entries) type

namespace Unit

/-! ## What the checker walks over -/

/-- Whether the checker goes no further than a type: no step is left or the next one is no member,
or nothing is known of the members of the type. -/
def Stops (types : TypeTable) (type : String) : List Step → Prop
  | .member _ :: _ => ∀ schema, types.get? type = some schema → schema.members = none
  | _ => True

/-- The steps that a value and a type are walked over side by side: at each step the schema of the
type and the object choose the same key. -/
inductive Follows (types : TypeTable) : Value → String → List String → Value → String → Prop
  | here {value : Value} {type : String} : Follows types value type [] value type
  | member {entries : List (String × Value)} {type name key next last : String} {schema : Schema}
      {members : Dictionary String} {part found : Value} {names : List String}
      (htype : types.get? type = some schema) (hmembers : schema.members = some members)
      (hdeclared : Selects name members.names key) (hnext : members.get? key = some next)
      (hheld : Selects name (entries.map (·.1)) key) (hpart : Entries.get? entries key = some part)
      (hrest : Follows types part next names found last) :
      Follows types (.object entries) type (name :: names) found last

variable {types : TypeTable}

theorem member_eq_declared_iff {schema : Schema} {name next : String} :
    schema.member name = .declared next
      ↔ ∃ members, schema.members = some members
          ∧ ∃ key, Selects name members.names key ∧ members.get? key = some next := by
  rw [Schema.member]
  cases schema.members with
  | none => simp
  | some members =>
    simp only [Option.some.injEq, exists_eq_left']
    rw [show members.names = members.entries.map (·.1) from rfl,
      show (∃ key, Selects name (members.entries.map (·.1)) key ∧ members.get? key = some next)
        ↔ findNamed name members.entries = some next from Text.findNamed_eq_some_iff.symm]
    cases findNamed name members.entries with
    | none => simp
    | some found => simp

theorem member_eq_unknown_iff {schema : Schema} {name : String} :
    schema.member name = .unknown ↔ schema.members = none := by
  rw [Schema.member]
  cases schema.members with
  | none => simp
  | some members =>
    dsimp only
    split <;> simp

/-- A path without problems is walked up to a type at which the checker stops. -/
theorem exists_leads_of_memberProblems_eq_nil {type walked : String} {steps : List Step}
    (h : memberProblems types type walked steps = []) :
    ∃ names rest last way, steps = names.map .member ++ rest
      ∧ Leads types type walked names last way ∧ Stops types last rest := by
  induction steps generalizing type walked with
  | nil => exact ⟨[], [], type, walked, rfl, .here, trivial⟩
  | cons step steps ih =>
    cases step with
    | key name => exact ⟨[], _, type, walked, rfl, .here, trivial⟩
    | index position => exact ⟨[], _, type, walked, rfl, .here, trivial⟩
    | member name =>
      rw [memberProblems] at h
      split at h
      · next htype =>
        refine ⟨[], _, type, walked, rfl, .here, fun schema hschema => ?_⟩
        rw [htype] at hschema
        cases hschema
      · next schema htype =>
        split at h
        · next hmember =>
          refine ⟨[], _, type, walked, rfl, .here, fun schema' hschema => ?_⟩
          obtain rfl := Option.some.inj (htype.symm.trans hschema)
          exact member_eq_unknown_iff.mp hmember
        · cases h
        · next next hmember =>
          obtain ⟨names, rest, last, way, rfl, hleads, hstops⟩ := ih h
          exact ⟨name :: names, rest, last, way, rfl, .member htype hmember hleads, hstops⟩

/-! ## What a rendering walks over -/

/-- A member that the schema of a type declares is chosen under the same key in every value of the
type, and it conforms to its own type. -/
theorem exists_part_of_declared {value : Value} {type name next : String} {schema : Schema}
    (hplain : value.IsPlain) (hconforms : value.Conforms types type)
    (htype : types.get? type = some schema) (hmember : schema.member name = .declared next) :
    ∃ entries members key part, value = .object entries ∧ schema.members = some members
      ∧ Selects name members.names key ∧ members.get? key = some next
      ∧ Selects name (entries.map (·.1)) key ∧ Entries.get? entries key = some part
      ∧ part.IsPlain ∧ part.Conforms types next := by
  obtain ⟨members, hmembers, key, hselects, hnext⟩ := member_eq_declared_iff.mp hmember
  cases hconforms with
  | unknown hnone =>
    rw [hnone] at htype
    cases htype
  | sealed hschema hsealed =>
    obtain rfl := Option.some.inj (htype.symm.trans hschema)
    rw [hsealed] at hmembers
    cases hmembers
  | empty hschema hlisted hempty =>
    obtain rfl := Option.some.inj (htype.symm.trans hschema)
    obtain rfl := Option.some.inj (hmembers.symm.trans hlisted)
    rw [Dictionary.get?, hempty] at hnext
    cases hnext
  | @object entries _ _ _ hschema hlisted hkeys hparts =>
    obtain rfl := Option.some.inj (htype.symm.trans hschema)
    obtain rfl := Option.some.inj (hmembers.symm.trans hlisted)
    cases hplain with
    | object hincreasing hplains =>
      have hsame := Entries.map_fst_eq hincreasing members.increasing hkeys
      have hheld : Selects name (entries.map (·.1)) key := hsame ▸ hselects
      -- The key is one of the schema, so the object holds something under it.
      have hkey : key ∈ members.names := Entries.exists_get?_iff.mp ⟨next, hnext⟩
      obtain ⟨part, hpart⟩ := Entries.exists_get?_iff.mpr ((hkeys key).mpr hkey)
      have hplain : part.IsPlain := hplains _ (Entries.mem_of_get? hpart)
      exact ⟨entries, members, key, part, rfl, hmembers, hselects, hnext, hheld, hpart, hplain,
        hparts key part next hpart hnext⟩

theorem step?_object {entries : List (String × Value)} {name key : String} {part : Value}
    (hselects : Selects name (entries.map (·.1)) key)
    (hpart : Entries.get? entries key = some part) :
    (Value.object entries).step? (.member name) = some part :=
  Text.findNamed_eq_some_iff.mpr ⟨key, hselects, hpart⟩

/-- Members that lead from a type to another one lead from its values to values of the other. -/
theorem exists_follows_of_leads {value : Value} {type walked last way : String}
    {names : List String} (hplain : value.IsPlain) (hconforms : value.Conforms types type)
    (hleads : Leads types type walked names last way) :
    ∃ part, Follows types value type names part last
      ∧ value.lookup? (names.map .member) = some part ∧ part.Conforms types last := by
  induction hleads generalizing value with
  | here => exact ⟨value, .here, rfl, hconforms⟩
  | member htype hmember _ ih =>
    obtain ⟨entries, members, key, part, rfl, hmembers, hdeclared, hnext, hheld, hpart, hplain,
      hnested⟩ := exists_part_of_declared hplain hconforms htype hmember
    obtain ⟨found, hfollows, hlookup, hfound⟩ := ih hplain hnested
    refine ⟨found, .member htype hmembers hdeclared hnext hheld hpart hfollows, ?_, hfound⟩
    rw [List.map_cons, Value.lookup?, step?_object hheld hpart]
    exact hlookup

/-- A path in which the checker finds no problem is not missing in any conforming value as far as
the checker has walked, and what it leads to there conforms to the type that the checker has
reached. The checker and the value choose the same keys on the way. -/
theorem exists_lookup?_of_memberProblems_eq_nil {model : String} {value : Value}
    {steps : List Step} (hplain : value.IsPlain) (hconforms : value.Conforms types model)
    (hnone : memberProblems types model Expression.modelRoot steps = []) :
    ∃ names rest last way part, steps = names.map .member ++ rest
      ∧ Leads types model Expression.modelRoot names last way ∧ Stops types last rest
      ∧ Follows types value model names part last
      ∧ value.lookup? (names.map .member) = some part ∧ part.Conforms types last
      ∧ (rest = [] → value.lookup? steps = some part) := by
  obtain ⟨names, rest, last, way, rfl, hleads, hstops⟩ :=
    exists_leads_of_memberProblems_eq_nil hnone
  obtain ⟨part, hfollows, hlookup, hpart⟩ := exists_follows_of_leads hplain hconforms hleads
  refine ⟨names, rest, last, way, part, rfl, hleads, hstops, hfollows, hlookup, hpart, ?_⟩
  rintro rfl
  rwa [List.append_nil]

/-- An address with two spellings of one member: `City` is neither of them, and both the checker
and the evaluation choose `CITY`. -/
theorem exists_lookup?_city :
    ∃ (types : TypeTable) (value : Value), value.IsPlain ∧ value.Conforms types "demo.Address"
      ∧ memberProblems types "demo.Address" Expression.modelRoot [.member "City", .index 0] = []
      ∧ ∃ names rest last way part,
          [.member "City", .index 0] = names.map Step.member ++ rest
            ∧ Leads types "demo.Address" Expression.modelRoot names last way
            ∧ Stops types last rest ∧ Follows types value "demo.Address" names part last
            ∧ value.lookup? (names.map .member) = some part ∧ part.Conforms types last
            ∧ (rest = [] → value.lookup? [.member "City", .index 0] = some part) := by
  have hplain : (Value.object [("CITY", .string "Paris"), ("city", .null)]).IsPlain := by
    refine .object ?_ ?_
    · unfold Entries.Increasing
      decide +kernel
    · simp [Value.IsPlain.string, Value.IsPlain.null]
  have hconforms : (Value.object [("CITY", .string "Paris"), ("city", .null)]).Conforms
      (.ofList [("demo.Address",
        ⟨"demo.Address", some (.ofList [("CITY", "string"), ("city", "string")])⟩)])
      "demo.Address" := by
    refine .object rfl rfl (fun key => ?_) fun key part next _ hnext => ?_
    · exact Iff.rfl
    · have hstring : key = "CITY" ∧ next = "string" ∨ key = "city" ∧ next = "string" := by
        simpa using Dictionary.mem_of_get?_ofList hnext
      obtain ⟨-, rfl⟩ | ⟨-, rfl⟩ := hstring
      all_goals exact .unknown rfl
  exact ⟨_, _, hplain, hconforms, rfl,
    exists_lookup?_of_memberProblems_eq_nil hplain hconforms rfl⟩

end Unit

end Stencil
