import Mathlib
import Stencil.Module.Queue
import Stencil.Proofs.Module.Resolution

/-!
# Fetches in any order

The fetches of a set take their turns in any order, whatever their replies are
(`FetchQueue.Turn`). By then each module of the set has been asked for at most once, what has
completed was asked for and is what the source of modules answers (`FetchQueue.Accounts`), and what
is neither out nor completed will never be answered (`FetchQueue.Covers`).
-/

namespace Stencil

/-- The modules that are asked for among events. -/
def askedModules (events : List FetchEvent) : List String :=
  events.filterMap fun
    | .asked module => some module
    | .completed _ => none

theorem askedModules_append (events more : List FetchEvent) :
    askedModules (events ++ more) = askedModules events ++ askedModules more :=
  List.filterMap_append

theorem completions_append (events more : List FetchEvent) :
    completions (events ++ more) = completions events ++ completions more :=
  List.filterMap_append

namespace FetchQueue

/-! ## Turns -/

/-- A turn of one of the fetches that are out, with what happens in it. A failure drops the other
fetches. -/
inductive Turn : FetchQueue → List FetchEvent → FetchQueue → Prop
  | suspended {front rest : List Pending} {fetch : Pending} {silent suspensions : Nat}
    {outcome : Option (Except FetchError ByteArray)}
    (hreply : fetch.reply = ⟨suspensions + 1, outcome⟩) :
    Turn ⟨front ++ fetch :: rest, silent⟩ (firstTurn fetch)
      ⟨front ++ rest ++ [⟨fetch.module, true, ⟨suspensions, outcome⟩⟩], silent⟩
  | silenced {front rest : List Pending} {fetch : Pending} {silent : Nat}
    (hreply : fetch.reply = ⟨0, none⟩) :
    Turn ⟨front ++ fetch :: rest, silent⟩ (firstTurn fetch) ⟨front ++ rest, silent + 1⟩
  | failed {front rest : List Pending} {fetch : Pending} {silent : Nat} {cause : FetchError}
    (hreply : fetch.reply = ⟨0, some (.error cause)⟩) :
    Turn ⟨front ++ fetch :: rest, silent⟩
      (firstTurn fetch ++ [.completed ⟨fetch.module, .error cause⟩]) idle
  | arrived {front rest : List Pending} {fetch : Pending} {silent : Nat} {bytes : ByteArray}
    (hreply : fetch.reply = ⟨0, some (.ok bytes)⟩) :
    Turn ⟨front ++ fetch :: rest, silent⟩
      (firstTurn fetch ++ [.completed ⟨fetch.module, .ok bytes⟩]) ⟨front ++ rest, silent⟩

variable {queue queue' : FetchQueue} {events : List FetchEvent}

/-- As long as a fetch is out that has not fallen silent, one can take a turn. -/
theorem exists_turn (h : queue.ready ≠ []) : ∃ events queue', Turn queue events queue' := by
  obtain ⟨ready, silent⟩ := queue
  obtain ⟨fetch, rest, rfl⟩ := List.exists_cons_of_ne_nil h
  cases hreply : fetch.reply with
  | mk suspensions outcome =>
    rcases suspensions with _ | suspensions
    · rcases outcome with _ | cause | bytes
      · exact ⟨_, _, @Turn.silenced [] rest fetch silent hreply⟩
      · exact ⟨_, _, @Turn.failed [] rest fetch silent cause hreply⟩
      · exact ⟨_, _, @Turn.arrived [] rest fetch silent bytes hreply⟩
    · exact ⟨_, _, @Turn.suspended [] rest fetch silent suspensions outcome hreply⟩

/-- A turn leaves fewer turns to take. -/
theorem Turn.turns_lt (h : Turn queue events queue') : turns queue'.ready < turns queue.ready := by
  cases h with
  | suspended hreply =>
    simp only [turns_append, turns, hreply]
    omega
  | silenced hreply =>
    simp only [turns_append, turns]
    omega
  | failed hreply =>
    simp only [idle, turns_append, turns]
    omega
  | arrived hreply =>
    simp only [turns_append, turns]
    omega

/-! ## What has happened -/

variable {set : ReferenceSet} {fetcher : Fetcher} {fetch : Pending} {ready : List Pending}

/-- What has happened to the fetches of a set, told by what is still out. -/
structure Accounts (set : ReferenceSet) (fetcher : Fetcher) (events : List FetchEvent)
    (ready : List Pending) : Prop where
  /-- A module is fetched by one fetch. -/
  once : (ready.map (·.module)).Nodup
  /-- A fetch that is out is one of the set. -/
  listed : ∀ fetch ∈ ready, fetch.module ∈ set.toList
  /-- It has what the source of modules answers ahead of it. -/
  replies : ∀ fetch ∈ ready, fetch.reply.outcome = (fetcher fetch.module).outcome
  /-- It has asked for its module in its first turn. -/
  started : ∀ fetch ∈ ready, fetch.started = true ↔ fetch.module ∈ askedModules events
  /-- It has not completed. -/
  missing : ∀ fetch ∈ ready, fetch.module ∉ (completions events).map (·.module)
  /-- A module is asked for once. -/
  askedOnce : (askedModules events).Nodup
  /-- A module that is asked for is one of the set. -/
  asked : ∀ module ∈ askedModules events, module ∈ set.toList
  /-- A fetch completes once. -/
  completedOnce : ((completions events).map (·.module)).Nodup
  /-- What has completed was asked for and is what the source of modules answers. -/
  completed : ∀ completion ∈ completions events, completion.module ∈ askedModules events ∧
    (fetcher completion.module).outcome = some completion.outcome

namespace Accounts

theorem isOrder (h : Accounts set fetcher events ready) : set.IsOrder (completions events) where
  of_set completion hmem := h.asked _ (h.completed completion hmem).1
  once := h.completedOnce

/-- Nothing has happened to the fetches of a set before their first turns. -/
theorem ofSet (set : ReferenceSet) (fetcher : Fetcher) :
    Accounts set fetcher [] (FetchQueue.ofSet set fetcher).ready := by
  have hmodules : (FetchQueue.ofSet set fetcher).ready.map (·.module) = set.toList := by
    rw [FetchQueue.ofSet, List.map_map]
    exact List.map_id _
  refine ⟨?_, ?_, ?_, ?_, ?_, .nil, nofun, .nil, nofun⟩
  · rw [hmodules]
    exact set.pairwise_toList.imp String.ne_of_lt
  · exact fun fetch hfetch => hmodules ▸ List.mem_map_of_mem hfetch
  all_goals
    intro fetch hfetch
    obtain ⟨module, -, rfl⟩ := List.mem_map.mp hfetch
    simp [askedModules, completions]

/-- Some of the fetches may be dropped, and the others be out in another order. -/
theorem subperm {ready' : List Pending} (h : Accounts set fetcher events ready)
    (hsubperm : ready'.Subperm ready) : Accounts set fetcher events ready' where
  once := by
    obtain ⟨kept, hperm, hsublist⟩ := hsubperm
    exact (hperm.map _).nodup_iff.mp ((hsublist.map _).nodup h.once)
  listed fetch hfetch := h.listed fetch (hsubperm.subset hfetch)
  replies fetch hfetch := h.replies fetch (hsubperm.subset hfetch)
  started fetch hfetch := h.started fetch (hsubperm.subset hfetch)
  missing fetch hfetch := h.missing fetch (hsubperm.subset hfetch)
  askedOnce := h.askedOnce
  asked := h.asked
  completedOnce := h.completedOnce
  completed := h.completed

theorem of_cons (h : Accounts set fetcher events (fetch :: ready)) :
    Accounts set fetcher events ready :=
  h.subperm (List.sublist_cons_self fetch ready).subperm

/-- The first turn of a fetch asks for its module. -/
theorem firstTurn (h : Accounts set fetcher events (fetch :: ready)) :
    Accounts set fetcher (events ++ firstTurn fetch) ({ fetch with started := true } :: ready) := by
  obtain ⟨module, started, reply⟩ := fetch
  cases started with
  | true =>
    rw [FetchQueue.firstTurn, if_pos rfl, List.append_nil]
    exact h
  | false =>
    obtain ⟨hnot, -⟩ := List.nodup_cons.mp h.once
    have hfresh : module ∉ askedModules events := fun hmem =>
      absurd ((h.started _ List.mem_cons_self).mpr hmem) (by simp)
    have hasked : askedModules (events ++ [.asked module]) = askedModules events ++ [module] :=
      askedModules_append events _
    have hcompleted : completions (events ++ [.asked module]) = completions events := by
      rw [completions_append]
      exact List.append_nil _
    change Accounts set fetcher (events ++ [.asked module]) _
    refine ⟨h.once, ?_, ?_, ?_, ?_, ?_, ?_, ?_, ?_⟩
    · exact List.forall_mem_cons.mpr (List.forall_mem_cons.mp h.listed)
    · exact List.forall_mem_cons.mpr (List.forall_mem_cons.mp h.replies)
    · rw [hasked]
      refine List.forall_mem_cons.mpr ⟨by simp, fun fetch hfetch => ?_⟩
      -- The other fetches have other modules.
      have hne : fetch.module ≠ module := fun heq =>
        hnot (List.mem_map.mpr ⟨fetch, hfetch, heq⟩)
      simp [h.started fetch (List.mem_cons_of_mem _ hfetch), hne]
    · rw [hcompleted]
      exact List.forall_mem_cons.mpr (List.forall_mem_cons.mp h.missing)
    · rw [hasked, List.nodup_append]
      refine ⟨h.askedOnce, List.nodup_singleton module, ?_⟩
      rintro other hother _ hmem rfl
      exact hfresh (List.mem_singleton.mp hmem ▸ hother)
    · rw [hasked, List.forall_mem_append, List.forall_mem_singleton]
      exact ⟨h.asked, h.listed _ List.mem_cons_self⟩
    · rw [hcompleted]
      exact h.completedOnce
    · rw [hcompleted, hasked]
      exact fun completion hmem => (h.completed completion hmem).imp_left
        (List.mem_append_left [module])

/-- A fetch that suspends stays out as it is. -/
theorem suspend (h : Accounts set fetcher events (fetch :: ready)) (reply : Reply)
    (hreply : reply.outcome = fetch.reply.outcome) :
    Accounts set fetcher events ({ fetch with reply } :: ready) where
  once := h.once
  listed := List.forall_mem_cons.mpr (List.forall_mem_cons.mp h.listed)
  replies := by
    obtain ⟨hfirst, hrest⟩ := List.forall_mem_cons.mp h.replies
    exact List.forall_mem_cons.mpr ⟨hreply.trans hfirst, hrest⟩
  started := List.forall_mem_cons.mpr (List.forall_mem_cons.mp h.started)
  missing := List.forall_mem_cons.mpr (List.forall_mem_cons.mp h.missing)
  askedOnce := h.askedOnce
  asked := h.asked
  completedOnce := h.completedOnce
  completed := h.completed

/-- A fetch that completes is no longer out. -/
theorem complete (h : Accounts set fetcher events (fetch :: ready))
    (hstarted : fetch.started = true) {outcome : Except FetchError ByteArray}
    (hreply : fetch.reply.outcome = some outcome) :
    Accounts set fetcher (events ++ [.completed ⟨fetch.module, outcome⟩]) ready := by
  have hrest := h.of_cons
  obtain ⟨hnot, -⟩ := List.nodup_cons.mp h.once
  have hmissing := h.missing fetch List.mem_cons_self
  have hasked : askedModules (events ++ [.completed ⟨fetch.module, outcome⟩])
      = askedModules events := by
    rw [askedModules_append]
    exact List.append_nil _
  have hcompleted : completions (events ++ [.completed ⟨fetch.module, outcome⟩])
      = completions events ++ [⟨fetch.module, outcome⟩] :=
    completions_append events _
  refine ⟨hrest.once, hrest.listed, hrest.replies, ?_, ?_, ?_, ?_, ?_, ?_⟩
  · rw [hasked]
    exact hrest.started
  · rw [hcompleted, List.map_append, List.map_singleton]
    intro other hother hmem
    rcases List.mem_append.mp hmem with hmem | hmem
    · exact hrest.missing other hother hmem
    · exact hnot (List.mem_map.mpr ⟨other, hother, List.mem_singleton.mp hmem⟩)
  · rw [hasked]
    exact h.askedOnce
  · rw [hasked]
    exact h.asked
  · rw [hcompleted, List.map_append, List.map_singleton, List.nodup_append]
    refine ⟨h.completedOnce, List.nodup_singleton _, ?_⟩
    rintro other hother _ hmem rfl
    obtain rfl := List.mem_singleton.mp hmem
    exact hmissing hother
  · rw [hcompleted, hasked, List.forall_mem_append, List.forall_mem_singleton]
    refine ⟨h.completed, (h.started fetch List.mem_cons_self).mp hstarted, ?_⟩
    rw [← h.replies fetch List.mem_cons_self]
    exact hreply

end Accounts

/-- What has happened goes on with a turn. -/
theorem Turn.accounts {before : List FetchEvent} (hturn : Turn queue events queue')
    (h : Accounts set fetcher before queue.ready) :
    Accounts set fetcher (before ++ events) queue'.ready := by
  cases hturn with
  | @suspended front rest fetch silent suspensions outcome hreply =>
    have hfirst := (h.subperm List.perm_middle.symm.subperm).firstTurn
    have hsuspended := hfirst.suspend ⟨suspensions, outcome⟩ (by rw [hreply])
    exact hsuspended.subperm (List.perm_append_singleton _ _).subperm
  | silenced hreply =>
    exact (h.subperm List.perm_middle.symm.subperm).firstTurn.of_cons
  | failed hreply =>
    have hfirst := (h.subperm List.perm_middle.symm.subperm).firstTurn
    have hdone := hfirst.complete rfl (congrArg Reply.outcome hreply)
    rw [List.append_assoc] at hdone
    exact hdone.subperm (List.nil_subperm)
  | arrived hreply =>
    have hfirst := (h.subperm List.perm_middle.symm.subperm).firstTurn
    have hdone := hfirst.complete rfl (congrArg Reply.outcome hreply)
    rwa [List.append_assoc] at hdone

/-- What has become of each module of a set: its fetch is out, has completed or is never
answered. -/
def Covers (set : ReferenceSet) (fetcher : Fetcher) (events : List FetchEvent)
    (ready : List Pending) : Prop :=
  ∀ module ∈ set.toList, module ∈ ready.map (·.module) ∨ (fetcher module).outcome = none ∨
    module ∈ (completions events).map (·.module)

theorem covers_ofSet (set : ReferenceSet) (fetcher : Fetcher) :
    Covers set fetcher [] (FetchQueue.ofSet set fetcher).ready := by
  intro module hmodule
  refine Or.inl ?_
  rw [FetchQueue.ofSet, List.map_map]
  exact List.mem_map.mpr ⟨module, hmodule, rfl⟩

/-- As long as no fetch has failed, no module is lost. -/
theorem Turn.covers {before : List FetchEvent} (hturn : Turn queue events queue')
    (haccounts : Accounts set fetcher before queue.ready)
    (h : Covers set fetcher before queue.ready)
    (hall : ∀ completion ∈ completions (before ++ events), completion.IsSuccess) :
    Covers set fetcher (before ++ events) queue'.ready := by
  intro module hmodule
  rw [completions_append, List.map_append, List.mem_append]
  rcases h module hmodule with hready | hnone | hdone
  · -- The fetch of the module is the one that takes the turn, or it is still out.
    have hsplit : ∀ {front rest : List Pending} {fetch : Pending},
        module ∈ (front ++ fetch :: rest).map (·.module) →
          module = fetch.module ∨ module ∈ (front ++ rest).map (·.module) := fun hmem =>
      List.mem_cons.mp ((List.perm_middle.map _).mem_iff.mp hmem)
    cases hturn with
    | suspended hreply =>
      refine Or.inl ?_
      rw [List.map_append, List.map_singleton, List.mem_append, List.mem_singleton]
      exact (hsplit hready).symm
    | @silenced front rest fetch silent hreply =>
      rcases hsplit hready with rfl | hrest
      · have hfetch : fetch ∈ front ++ fetch :: rest :=
          List.mem_append_right front List.mem_cons_self
        have houtcome := haccounts.replies fetch hfetch
        rw [hreply] at houtcome
        exact Or.inr (Or.inl houtcome.symm)
      · exact Or.inl hrest
    | @failed front rest fetch silent cause hreply =>
      obtain ⟨bytes, hbytes⟩ := hall ⟨fetch.module, .error cause⟩ (by simp [completions])
      cases hbytes
    | @arrived front rest fetch silent bytes hreply =>
      rcases hsplit hready with rfl | hrest
      · exact Or.inr (Or.inr (Or.inr (by simp [completions])))
      · exact Or.inl hrest
  · exact Or.inr (Or.inl hnone)
  · exact Or.inr (Or.inr (Or.inl hdone))

end FetchQueue

namespace ReferenceSet

variable {set : ReferenceSet} {arrived : References} {completions : List Completion}

/-- A resolution that waits goes on with the next completions. -/
theorem resolve_append_of_waiting (h : set.resolve completions = .waiting arrived)
    (more : List Completion) :
    set.resolve (completions ++ more) = set.resolveFrom arrived more := by
  rcases exists_first_failure completions with hall | ⟨front, module, cause, rest, rfl, hfront⟩
  · rw [resolve_of_success hall] at h
    split at h
    · cases h
    · obtain rfl := Resolution.waiting.inj h
      rw [resolve, resolveFrom_append hall]
  · rw [resolve_of_failure hfront] at h
    cases h

theorem isSuccess_of_waiting (h : set.resolve completions = .waiting arrived) :
    ∀ completion ∈ completions, completion.IsSuccess := by
  rcases exists_first_failure completions with hall | ⟨front, module, cause, rest, rfl, hfront⟩
  · exact hall
  · rw [resolve_of_failure hfront] at h
    cases h

/-- A resolution waits for a module of the set that has not been brought. -/
theorem IsOrder.exists_missing_of_waiting (horder : set.IsOrder completions)
    (h : set.resolve completions = .waiting arrived) :
    ∃ module ∈ set.toList, module ∉ completions.map (·.module) := by
  have hall := isSuccess_of_waiting h
  by_contra! hnone
  have hbrought : ∀ module ∈ set.toList, ∃ bytes, ⟨module, .ok bytes⟩ ∈ completions := by
    intro module hmodule
    obtain ⟨⟨name, outcome⟩, hmem, rfl⟩ := List.mem_map.mp (hnone module hmodule)
    obtain ⟨bytes, rfl⟩ := hall _ hmem
    exact ⟨bytes, hmem⟩
  rw [resolve_of_success hall, if_pos (horder.unresolved_eq_nil_iff.mpr hbrought)] at h
  cases h

end ReferenceSet

end Stencil
