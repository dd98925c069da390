import Mathlib
import Stencil.Module.Resolution
import Stencil.Proofs.Entries

/-!
# Completions in any order

The fetches of a reference set may complete in any order, and some may never complete. What a
resolution comes to depends on the completions before the first failure only, and on them only as a
set: all modules with their bytes, or the first failure with the modules that are missing by then
(`resolve_of_isOrder`).
-/

namespace Stencil

/-- The fetch has brought bytes. -/
def Completion.IsSuccess (completion : Completion) : Prop :=
  ∃ bytes, completion.outcome = .ok bytes

namespace References

/-- The modules that are there when completions with bytes have been added to those that have
arrived. -/
def receive (arrived : References) (completions : List Completion) : References :=
  completions.foldl (fun arrived completion =>
    match completion.outcome with
    | .ok bytes => arrived.insert completion.module bytes
    | .error _ => arrived) arrived

/-- What has arrived are the bytes of the completions. -/
theorem get?_receive {completions : List Completion}
    (honce : (completions.map (·.module)).Nodup) {arrived : References}
    (hfresh : ∀ completion ∈ completions, arrived.get? completion.module = none)
    (module : String) (bytes : ByteArray) :
    (arrived.receive completions).get? module = some bytes
      ↔ arrived.get? module = some bytes ∨ ⟨module, .ok bytes⟩ ∈ completions := by
  induction completions generalizing arrived with
  | nil => simp [receive]
  | cons completion completions ih =>
    obtain ⟨name, outcome⟩ := completion
    rw [List.map_cons, List.nodup_cons] at honce
    obtain ⟨hnot, honce⟩ := honce
    have hlater := fun completion h => hfresh completion (List.mem_cons_of_mem _ h)
    rw [receive, List.foldl_cons, ← receive, List.mem_cons]
    cases outcome with
    | error cause =>
      rw [ih honce hlater]
      simp
    | ok content =>
      dsimp only
      rw [ih honce fun later h => ?_, Dictionary.get?_insert]
      · -- Nothing has arrived under the name of the completion before.
        have hname : arrived.get? name = none := hfresh _ List.mem_cons_self
        by_cases hmodule : module = name
        · subst hmodule
          simp [hname, eq_comm]
        · simp [hmodule]
      · have hne : later.module ≠ name := fun heq =>
          hnot (List.mem_map.mpr ⟨later, h, heq⟩)
        rw [Dictionary.get?_insert, if_neg hne]
        exact hlater later h

end References

namespace ReferenceSet

variable {set : ReferenceSet} {arrived : References} {completions : List Completion}

/-- The fetches of a set that have completed, in their order: each at most once. -/
structure IsOrder (set : ReferenceSet) (completions : List Completion) : Prop where
  /-- What has been fetched is in the set. -/
  of_set : ∀ completion ∈ completions, completion.module ∈ set.toList
  /-- A module is fetched once. -/
  once : (completions.map (·.module)).Nodup

theorem IsOrder.perm {order : List Completion} (h : set.IsOrder completions)
    (hperm : order.Perm completions) : set.IsOrder order where
  of_set completion hmem := h.of_set completion (hperm.mem_iff.mp hmem)
  once := (hperm.map _).nodup_iff.mpr h.once

theorem pairwise_toList (set : ReferenceSet) : set.toList.Pairwise (· < ·) :=
  List.pairwise_map.mpr set.modules.increasing

/-! ## Single completions -/

theorem mem_unresolved_iff {module : String} :
    module ∈ set.unresolved arrived ↔ module ∈ set.toList ∧ arrived.get? module = none := by
  rw [unresolved, List.mem_filter, Dictionary.contains, Bool.not_eq_true',
    Option.isSome_eq_false_iff, Option.isNone_iff_eq_none]

theorem unresolved_eq_nil_iff :
    set.unresolved arrived = []
      ↔ ∀ module ∈ set.toList, ∃ bytes, arrived.get? module = some bytes := by
  simp only [List.eq_nil_iff_forall_not_mem, mem_unresolved_iff, not_and,
    ← Option.ne_none_iff_exists']

theorem pairwise_unresolved (set : ReferenceSet) (arrived : References) :
    (set.unresolved arrived).Pairwise (· < ·) :=
  set.pairwise_toList.filter _

/-- Completions with bytes add to what has arrived, and the resolution goes on. -/
theorem resolveFrom_append {front : List Completion}
    (hfront : ∀ completion ∈ front, completion.IsSuccess) (rest : List Completion) :
    set.resolveFrom arrived (front ++ rest) = set.resolveFrom (arrived.receive front) rest := by
  induction front generalizing arrived with
  | nil => rfl
  | cons completion front ih =>
    obtain ⟨bytes, hbytes⟩ := hfront completion List.mem_cons_self
    rw [List.cons_append, resolveFrom, hbytes, References.receive, List.foldl_cons, hbytes,
      ← References.receive]
    exact ih fun later h => hfront later (List.mem_cons_of_mem _ h)

/-- A failure ends the resolution. What comes later is not looked at. -/
theorem resolve_of_failure {front : List Completion}
    (hfront : ∀ completion ∈ front, completion.IsSuccess) (module : String) (cause : FetchError)
    (rest : List Completion) :
    set.resolve (front ++ ⟨module, .error cause⟩ :: rest)
      = .failed (.referenceResolution module (set.unresolved (References.receive ∅ front))
          cause.message) := by
  rw [resolve, resolveFrom_append hfront, resolveFrom]
  rfl

/-- Without a failure there are all modules, or the resolution waits. -/
theorem resolve_of_success (hall : ∀ completion ∈ completions, completion.IsSuccess) :
    set.resolve completions
      = if set.unresolved (References.receive ∅ completions) = [] then
          .resolved (References.receive ∅ completions)
        else .waiting (References.receive ∅ completions) := by
  have happend : set.resolveFrom ∅ (completions ++ []) = _ := resolveFrom_append hall []
  rw [List.append_nil] at happend
  rw [resolve, happend, resolveFrom]
  exact if_congr List.isEmpty_iff rfl rfl

/-- Completions are all successes, or there is a first failure among them. -/
theorem exists_first_failure (completions : List Completion) :
    (∀ completion ∈ completions, completion.IsSuccess)
      ∨ ∃ front module cause rest, completions = front ++ ⟨module, .error cause⟩ :: rest
          ∧ ∀ completion ∈ front, completion.IsSuccess := by
  induction completions with
  | nil => exact Or.inl fun completion h => absurd h List.not_mem_nil
  | cons completion completions ih =>
    obtain ⟨name, outcome⟩ := completion
    cases outcome with
    | error cause =>
      exact Or.inr ⟨[], name, cause, completions, rfl,
        fun completion h => absurd h List.not_mem_nil⟩
    | ok bytes =>
      have hfirst : (Completion.mk name (.ok bytes)).IsSuccess := ⟨bytes, rfl⟩
      rcases ih with hall | ⟨front, module, cause, rest, rfl, hfront⟩
      · exact Or.inl (List.forall_mem_cons.mpr ⟨hfirst, hall⟩)
      · exact Or.inr ⟨_ :: front, module, cause, rest, rfl,
          List.forall_mem_cons.mpr ⟨hfirst, hfront⟩⟩

/-! ## Orders of completions -/

namespace IsOrder

/-- What has arrived are the bytes of the completions. -/
theorem get?_receive (h : set.IsOrder completions) (module : String) (bytes : ByteArray) :
    (References.receive ∅ completions).get? module = some bytes
      ↔ ⟨module, .ok bytes⟩ ∈ completions := by
  have hnone : (∅ : References).get? module ≠ some bytes := nofun
  rw [References.get?_receive h.once (fun _ _ => rfl), or_iff_right hnone]

theorem of_append {front rest : List Completion} (h : set.IsOrder (front ++ rest)) :
    set.IsOrder front where
  of_set completion hmem := h.of_set completion (List.mem_append_left _ hmem)
  once := by
    have honce := h.once
    rw [List.map_append] at honce
    exact honce.of_append_left

/-- What is missing are the modules of the set that no completion has brought. -/
theorem mem_unresolved_iff (h : set.IsOrder completions) (module : String) :
    module ∈ set.unresolved (References.receive ∅ completions)
      ↔ module ∈ set.toList ∧ ∀ bytes, ⟨module, .ok bytes⟩ ∉ completions := by
  rw [ReferenceSet.mem_unresolved_iff, Option.eq_none_iff_forall_ne_some]
  simp only [ne_eq, h.get?_receive]

/-- Nothing is missing when every module of the set has been brought. -/
theorem unresolved_eq_nil_iff (h : set.IsOrder completions) :
    set.unresolved (References.receive ∅ completions) = []
      ↔ ∀ module ∈ set.toList, ∃ bytes, ⟨module, .ok bytes⟩ ∈ completions := by
  simp only [ReferenceSet.unresolved_eq_nil_iff, h.get?_receive]

/-- A module that fails has not been brought before. -/
theorem not_mem_of_failure {front rest : List Completion} {module : String} {cause : FetchError}
    (h : set.IsOrder (front ++ ⟨module, .error cause⟩ :: rest)) (bytes : ByteArray) :
    ⟨module, .ok bytes⟩ ∉ front := by
  intro hmem
  have honce := h.once
  rw [List.map_append, List.map_cons, List.nodup_append] at honce
  exact honce.2.2 module (List.mem_map.mpr ⟨_, hmem, rfl⟩) module List.mem_cons_self rfl

/-- A resolution has a result when every module of the set has been brought, and the result holds
what has been brought. -/
theorem resolve_eq_resolved_iff (h : set.IsOrder completions) {references : References} :
    set.resolve completions = .resolved references
      ↔ (∀ module ∈ set.toList, ∃ bytes, ⟨module, .ok bytes⟩ ∈ completions)
        ∧ ∀ module bytes, references.get? module = some bytes
            ↔ ⟨module, .ok bytes⟩ ∈ completions := by
  rcases exists_first_failure completions with hall | ⟨front, module, cause, rest, rfl, hfront⟩
  · rw [resolve_of_success hall, ← h.unresolved_eq_nil_iff]
    by_cases hnone : set.unresolved (References.receive ∅ completions) = []
    · rw [if_pos hnone]
      constructor
      · intro hresolved
        obtain rfl := Resolution.resolved.inj hresolved
        exact ⟨hnone, h.get?_receive⟩
      · rintro ⟨-, hget⟩
        have heq : References.receive ∅ completions = references :=
          Dictionary.ext_get? fun module => Option.ext fun bytes => by rw [h.get?_receive, hget]
        rw [heq]
    · simp [hnone]
  · -- The module of the first failure is never brought.
    rw [resolve_of_failure hfront]
    refine ⟨nofun, fun ⟨hbrought, _⟩ => ?_⟩
    have hfailed : Completion.mk module (.error cause) ∈ front ++ ⟨module, .error cause⟩ :: rest :=
      List.mem_append_right front List.mem_cons_self
    obtain ⟨bytes, hmem⟩ := hbrought module (h.of_set _ hfailed)
    have heq := List.inj_on_of_nodup_map h.once hmem hfailed rfl
    cases heq

/-- The modules that are there are those of the set when every one of them has been brought. -/
theorem names_eq (h : set.IsOrder completions) {references : References}
    (hall : ∀ module ∈ set.toList, ∃ bytes, ⟨module, .ok bytes⟩ ∈ completions)
    (hget : ∀ module bytes, references.get? module = some bytes
      ↔ ⟨module, .ok bytes⟩ ∈ completions) : references.names = set.toList := by
  refine Entries.map_fst_eq references.increasing set.modules.increasing fun module => ?_
  change module ∈ references.names ↔ module ∈ set.toList
  simp only [Dictionary.mem_names_iff, hget]
  exact ⟨fun ⟨bytes, hmem⟩ => h.of_set _ hmem, hall module⟩

end IsOrder

/-- A resolution succeeds exactly when every fetch has brought bytes. The result holds the bytes of
the modules of the set, whatever the order of the completions. When a fetch fails the first failure
ends the resolution, and its error names the modules of the set that have not been brought before
it. -/
theorem resolve_of_isOrder (h : set.IsOrder completions) :
    ((∃ references, set.resolve completions = .resolved references)
        ↔ ∀ module ∈ set.toList, ∃ bytes, ⟨module, .ok bytes⟩ ∈ completions)
      ∧ (∀ references, set.resolve completions = .resolved references →
          references.names = set.toList
            ∧ (∀ module bytes, references.get? module = some bytes
                ↔ ⟨module, .ok bytes⟩ ∈ completions)
            ∧ ∀ order : List Completion, order.Perm completions →
                set.resolve order = .resolved references)
      ∧ ((∃ completion ∈ completions, ¬ completion.IsSuccess) →
          ∃ front module cause rest unresolved,
            completions = front ++ ⟨module, .error cause⟩ :: rest
              ∧ (∀ completion ∈ front, completion.IsSuccess)
              ∧ (∀ later, set.resolve (front ++ ⟨module, .error cause⟩ :: later)
                  = .failed (.referenceResolution module unresolved cause.message))
              ∧ unresolved.Pairwise (· < ·) ∧ module ∈ unresolved
              ∧ ∀ other, other ∈ unresolved
                  ↔ other ∈ set.toList ∧ ∀ bytes, ⟨other, .ok bytes⟩ ∉ front) := by
  refine ⟨⟨?_, ?_⟩, ?_, ?_⟩
  · rintro ⟨references, hresolved⟩
    exact (h.resolve_eq_resolved_iff.mp hresolved).1
  · intro hall
    exact ⟨_, h.resolve_eq_resolved_iff.mpr ⟨hall, h.get?_receive⟩⟩
  · intro references hresolved
    obtain ⟨hall, hget⟩ := h.resolve_eq_resolved_iff.mp hresolved
    refine ⟨h.names_eq hall hget, hget, fun order hperm => ?_⟩
    -- Both sides of the characterisation speak of membership only.
    rw [(h.perm hperm).resolve_eq_resolved_iff]
    simp only [hperm.mem_iff]
    exact ⟨hall, hget⟩
  · rintro ⟨completion, hmem, hfails⟩
    obtain hall | ⟨front, module, cause, rest, rfl, hfront⟩ := exists_first_failure completions
    · exact absurd (hall completion hmem) hfails
    · have hmodule : module ∈ set.toList :=
        h.of_set _ (List.mem_append_right front List.mem_cons_self)
      have hmissing := h.of_append.mem_unresolved_iff
      exact ⟨front, module, cause, rest, _, rfl, hfront, resolve_of_failure hfront module cause,
        set.pairwise_unresolved _, (hmissing module).mpr ⟨hmodule, h.not_mem_of_failure⟩, hmissing⟩

/-- Three modules that arrive last name first are resolved, as they are in any other order. -/
theorem exists_resolve_of_three :
    ∃ references : References,
      (ofList ["quill", "host", "demo"]).IsOrder
          [⟨"quill", .ok .empty⟩, ⟨"host", .ok ⟨#[1]⟩⟩, ⟨"demo", .ok ⟨#[2]⟩⟩]
        ∧ references.names = ["demo", "host", "quill"] ∧ references.get? "host" = some ⟨#[1]⟩
        ∧ (ofList ["quill", "host", "demo"]).resolve
            [⟨"demo", .ok ⟨#[2]⟩⟩, ⟨"host", .ok ⟨#[1]⟩⟩, ⟨"quill", .ok .empty⟩]
          = .resolved references := by
  have hlist : (ofList ["quill", "host", "demo"]).toList = ["demo", "host", "quill"] := by
    decide
  have horder : (ofList ["quill", "host", "demo"]).IsOrder
      [⟨"quill", .ok .empty⟩, ⟨"host", .ok ⟨#[1]⟩⟩, ⟨"demo", .ok ⟨#[2]⟩⟩] :=
    { of_set := by
        rw [hlist]
        simp
      once := by decide }
  obtain ⟨hresolved, hreferences, -⟩ := resolve_of_isOrder horder
  obtain ⟨references, hok⟩ := hresolved.mpr (by simp [hlist])
  obtain ⟨hnames, hget, hperm⟩ := hreferences references hok
  refine ⟨references, horder, hnames.trans hlist, (hget _ _).mpr (by simp), ?_⟩
  exact hperm _ (List.reverse_perm [_, _, _])

end ReferenceSet

end Stencil
