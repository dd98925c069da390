import Mathlib
import Stencil.Proofs.Entries
import Stencil.Proofs.Render.Meaning

/-!
# Sessions

A session asks a service when the value of a dependency is taken that it does not know. This is all
that an evaluation or a run does to a session (`Instance.leads_run`), and what each such step keeps
holds of whole runs: what has been heard stays, no dependency is asked for twice, and every answer
is what the service says when the dependencies before it have been asked for (`Session.Follows`).
-/

namespace Stencil

open Relation (ReflTransGen)

variable {registry : ServiceRegistry} {around : Surroundings} {services : Dictionary Provider}
  {session session' : Session} {name : String} {provider : Provider}

/-! ## Asking for a dependency -/

namespace Session

/-- The names of the dependencies that have been asked for, in order. -/
def names (session : Session) : List String :=
  (session.heard.map (·.1)).reverse

/-- The session when a service has been asked for a dependency. Its answer is known from then on if
it is a value. -/
def hear (session : Session) (name : String) (provider : Provider) : Session :=
  let answer := provider.service (session.asked.count provider.label)
  { known :=
      match answer with
      | .value value => session.known.insert name value
      | _ => session.known
    heard := (name, answer) :: session.heard
    asked := provider.label :: session.asked }

theorem names_hear (session : Session) (name : String) (provider : Provider) :
    (session.hear name provider).names = session.names ++ [name] := by
  simp [names, hear]

theorem serviceValue_of_known {value : Value} (hknown : session.known.get? name = some value) :
    session.serviceValue around name = (.ok value, session) := by
  rw [serviceValue, hknown]

theorem serviceValue_of_absent (hunknown : session.known.get? name = none)
    (habsent : around.services.get? name = none) :
    session.serviceValue around name
      = (.error (.failed (.render s!"'{name}' is not an injected dependency")), session) := by
  rw [serviceValue, hunknown, habsent]

/-- A service is asked for a dependency that nothing is known of. -/
theorem serviceValue_of_unknown (hunknown : session.known.get? name = none)
    (hservice : around.services.get? name = some provider) :
    session.serviceValue around name
      = ((provider.service (session.asked.count provider.label)).result name,
          session.hear name provider) := by
  rw [serviceValue, hunknown, hservice, hear]
  dsimp only
  cases provider.service (session.asked.count provider.label) with
  | value value =>
    -- What has just been put in is found.
    have hstored : (session.known.insert name value).get? name = some value := by
      rw [Dictionary.get?_insert, if_pos rfl]
    dsimp only
    rw [hstored]
    rfl
  | failure causes => rfl
  | never => rfl

/-- Whether a session can go on: it has asked for no dependency twice, all services have answered
with values, and these are what it knows. -/
structure IsOpen (session : Session) : Prop where
  /-- What is known is what has been heard. -/
  known_iff : ∀ name value, session.known.get? name = some value
    ↔ (name, .value value) ∈ session.heard
  /-- All that has been heard are values. -/
  answered : ∀ name answer, (name, answer) ∈ session.heard → ∃ value, answer = .value value
  /-- No dependency has been asked for twice. -/
  once : session.names.Nodup

theorem isOpen_start (asked : List String) : IsOpen ⟨∅, [], asked⟩ where
  known_iff _ _ := ⟨(fun h => nomatch h), fun h => absurd h List.not_mem_nil⟩
  answered _ _ h := absurd h List.not_mem_nil
  once := List.nodup_nil

theorem mem_names_iff : name ∈ session.names ↔ ∃ answer, (name, answer) ∈ session.heard := by
  simp [names]

theorem IsOpen.mem_names_iff (h : session.IsOpen) :
    name ∈ session.names ↔ session.known.get? name ≠ none := by
  rw [Session.mem_names_iff, Option.ne_none_iff_exists']
  simp only [h.known_iff]
  constructor
  · rintro ⟨answer, hanswer⟩
    obtain ⟨value, rfl⟩ := h.answered name answer hanswer
    exact ⟨value, hanswer⟩
  · rintro ⟨value, hvalue⟩
    exact ⟨_, hvalue⟩

theorem IsOpen.nodup_hear (h : session.IsOpen) (hunknown : session.known.get? name = none)
    (provider : Provider) : (session.hear name provider).names.Nodup := by
  have hnew : name ∉ session.names := fun hmem => h.mem_names_iff.mp hmem hunknown
  rw [names_hear, List.nodup_append_comm, List.singleton_append]
  exact List.nodup_cons.mpr ⟨hnew, h.once⟩

/-- A session goes on when the service answers with a value. -/
theorem IsOpen.hear (h : session.IsOpen) (hunknown : session.known.get? name = none) {value : Value}
    (hvalue : provider.service (session.asked.count provider.label) = .value value) :
    (session.hear name provider).IsOpen where
  known_iff := by
    intro other known
    simp only [Session.hear, hvalue, Dictionary.get?_insert, List.mem_cons, Prod.mk.injEq]
    split
    · next heq =>
      subst heq
      have hnew : (other, .value known) ∉ session.heard := by
        rw [← h.known_iff, hunknown]
        exact fun heq => nomatch heq
      simp [hnew, eq_comm]
    · next hne => simp [hne, h.known_iff]
  answered := by
    intro other answer hmem
    simp only [Session.hear, hvalue, List.mem_cons, Prod.mk.injEq] at hmem
    rcases hmem with ⟨-, rfl⟩ | hmem
    · exact ⟨value, rfl⟩
    · exact h.answered other answer hmem
  once := h.nodup_hear hunknown provider

/-! ## Steps -/

/-- What can happen to a session: it asks a service for a dependency that it does not know. -/
inductive Step (services : Dictionary Provider) : Session → Session → Prop
  | hear {session : Session} {name : String} {provider : Provider} (hopen : session.IsOpen)
    (hunknown : session.known.get? name = none)
    (hservice : services.get? name = some provider) :
    Step services session (session.hear name provider)

/-- What has been heard stays. -/
theorem heard_suffix_of_reaches (h : ReflTransGen (Step services) session session') :
    session.heard <:+ session'.heard := by
  induction h with
  | refl => exact List.suffix_refl _
  | tail _ hstep ih =>
    cases hstep with
    | hear hopen hunknown hservice => exact ih.trans (List.suffix_cons _ _)

/-- No dependency is asked for twice, and nobody is asked behind a service that has not answered. -/
theorem nodup_of_reaches (hopen : session.IsOpen)
    (h : ReflTransGen (Step services) session session') : session'.names.Nodup := by
  rcases h.cases_tail with rfl | ⟨before, -, hstep⟩
  · exact hopen.once
  · cases hstep with
    | hear hbefore hunknown hservice => exact hbefore.nodup_hear hunknown _

/-- What an evaluation does to a session: it takes steps, and the session goes on if there is a
value. -/
structure Leads {α : Type} (services : Dictionary Provider) (session : Session)
    (result : Except Halt α × Session) : Prop where
  /-- It takes steps. -/
  reaches : ReflTransGen (Step services) session result.2
  /-- With a value, the session goes on. -/
  isOpen : ∀ value, result.1 = .ok value → result.2.IsOpen

theorem IsOpen.leads {α : Type} (h : session.IsOpen) (result : Except Halt α) :
    session.Leads services (result, session) :=
  ⟨.refl, fun _ _ => h⟩

/-- An evaluation goes on where another has left the session. -/
theorem Leads.trans {α β : Type} {first : Except Halt α × Session}
    {result : Except Halt β × Session} (hfirst : session.Leads services first)
    (h : first.2.Leads services result) : session.Leads services result :=
  ⟨hfirst.reaches.trans h.reaches, h.isOpen⟩

theorem Leads.of_error {α β : Type} {halt : Halt}
    (h : session.Leads services ((.error halt : Except Halt α), session')) :
    session.Leads services ((.error halt : Except Halt β), session') :=
  ⟨h.reaches, fun _ hvalue => nomatch hvalue⟩

theorem IsOpen.leads_serviceValue (h : session.IsOpen) (around : Surroundings) (name : String) :
    session.Leads around.services (session.serviceValue around name) := by
  cases hknown : session.known.get? name with
  | some value =>
    rw [serviceValue_of_known hknown]
    exact h.leads _
  | none =>
    cases hservice : around.services.get? name with
    | none =>
      rw [serviceValue_of_absent hknown hservice]
      exact h.leads _
    | some provider =>
      rw [serviceValue_of_unknown hknown hservice]
      refine ⟨.single (.hear h hknown hservice), fun value hvalue => ?_⟩
      -- Only a value makes a result.
      cases hanswer : provider.service (session.asked.count provider.label) with
      | value answered => exact h.hear hknown hanswer
      | failure causes =>
        rw [hanswer] at hvalue
        cases hvalue
      | never =>
        rw [hanswer] at hvalue
        cases hvalue

end Session

/-! ## Evaluations and runs -/

namespace Expression

open Session (Leads)

theorem leads_evaluatePath (hopen : session.IsOpen) (around : Surroundings) (root : String)
    (steps : List Step) :
    session.Leads around.services (evaluatePath around session root steps) := by
  have hservice := hopen.leads_serviceValue around root
  rw [evaluatePath]
  split
  · exact hopen.leads _
  · split
    · next value known hvalue =>
      rw [hvalue] at hservice
      exact ⟨hservice.reaches, fun _ _ => hservice.isOpen value rfl⟩
    · next halt known hvalue =>
      rw [hvalue] at hservice
      exact hservice.of_error

mutual

theorem leads_evaluate {session : Session} (hopen : session.IsOpen) (around : Surroundings)
    (e : Expression) : session.Leads around.services (e.evaluate around session) := by
  cases e with
  | literal constant =>
    rw [evaluate]
    exact hopen.leads _
  | path root steps =>
    rw [evaluate]
    exact leads_evaluatePath hopen around root steps
  | coalesce operands =>
    rw [evaluate]
    exact leads_evaluateFirst hopen around operands

theorem leads_evaluateFirst {session : Session} (hopen : session.IsOpen) (around : Surroundings)
    (operands : List Expression) :
    session.Leads around.services (evaluateFirst around session operands) := by
  cases operands with
  | nil =>
    rw [evaluateFirst]
    exact hopen.leads _
  | cons operand operands =>
    have hfirst := leads_evaluate hopen around operand
    rw [evaluateFirst]
    rcases hvalue : evaluate around session operand with ⟨halt | value, known⟩
    · rw [hvalue] at hfirst
      exact hfirst.of_error
    · rw [hvalue] at hfirst
      dsimp only
      split
      · exact hfirst.trans (leads_evaluateFirst (hfirst.isOpen value rfl) around operands)
      · exact hfirst

end

end Expression

/-- All that a run does to a session are steps, and a run that comes to its end leaves it open. -/
theorem Instance.leads_run (hopen : session.IsOpen) (services : Dictionary Provider)
    (body : List Instruction) (rendering : Rendering) :
    session.Leads services
      ((run services body rendering session).1, (run services body rendering session).2.2) := by
  induction body generalizing rendering session with
  | nil => exact hopen.leads _
  | cons instruction body ih =>
    cases instruction with
    | writeLiteral text => exact ih hopen _
    | write e =>
      have he := e.leads_evaluate hopen ⟨rendering.model, services⟩
      rw [run]
      rcases hvalue : e.evaluate ⟨rendering.model, services⟩ session with ⟨halt | value, known⟩
      · rw [hvalue] at he
        exact he.of_error
      · rw [hvalue] at he
        exact he.trans (ih (he.isOpen value rfl) _)

/-! ## What the services say -/

namespace ServiceRegistry

/-- The registry when it has been asked for names one after the other. -/
def askAll (registry : ServiceRegistry) (names : List String) : ServiceRegistry :=
  names.foldl (fun registry name => (registry.ask name).2) registry

/-- What is said for a name when the registry has been asked for others before. -/
def replyAfter (registry : ServiceRegistry) (earlier : List String) (name : String) :
    Option Answer :=
  ((registry.askAll earlier).ask name).1

theorem askAll_concat (registry : ServiceRegistry) (names : List String) (name : String) :
    registry.askAll (names ++ [name]) = ((registry.askAll names).ask name).2 :=
  List.foldl_concat ..

theorem services_ask (registry : ServiceRegistry) (name : String) :
    (registry.ask name).2.services = registry.services := by
  rw [ask]
  split
  · rfl
  · rfl

theorem services_askAll (registry : ServiceRegistry) (names : List String) :
    (registry.askAll names).services = registry.services := by
  induction names using List.reverseRecOn with
  | nil => rfl
  | append_singleton names name ih => rw [askAll_concat, services_ask, ih]

theorem replyAfter_eq (registry : ServiceRegistry) (earlier : List String) (name : String) :
    registry.replyAfter earlier name
      = (registry.services.get? name).map fun provider =>
          provider.service ((registry.askAll earlier).asked.count provider.label) := by
  rw [replyAfter, ask, services_askAll]
  cases registry.services.get? name with
  | none => rfl
  | some provider => rfl

/-- The label of the service of a name. -/
def label? (registry : ServiceRegistry) (name : String) : Option String :=
  (registry.services.get? name).map (·.label)

theorem asked_askAll (registry : ServiceRegistry) (names : List String) :
    (registry.askAll names).asked
      = (names.filterMap registry.label?).reverse ++ registry.asked := by
  induction names using List.reverseRecOn with
  | nil => rfl
  | append_singleton names name ih =>
    rw [askAll_concat, ask, services_askAll, List.filterMap_append]
    cases hservice : registry.services.get? name with
    | none => simp [label?, hservice, ih]
    | some provider => simp [label?, hservice, ih]

/-- What is said depends on the services that are asked and on what has been asked before. -/
theorem replyAfter_congr {registry' : ServiceRegistry} {earlier : List String}
    (hasked : registry.asked = registry'.asked)
    (hservices : ∀ other ∈ name :: earlier,
      registry.services.get? other = registry'.services.get? other) :
    registry.replyAfter earlier name = registry'.replyAfter earlier name := by
  have hlabels : earlier.filterMap registry.label? = earlier.filterMap registry'.label? := by
    refine List.filterMap_congr fun other hother => ?_
    rw [label?, label?, hservices other (List.mem_cons_of_mem _ hother)]
  rw [replyAfter_eq, replyAfter_eq, asked_askAll, asked_askAll, hlabels, hasked,
    hservices name List.mem_cons_self]

/-- Whether no service is registered under two names. -/
def IsUnshared (registry : ServiceRegistry) : Prop :=
  ∀ name other label, registry.label? name = some label → registry.label? other = some label →
    name = other

/-- A service that is registered under one name says the same whatever other names have been asked
for. -/
theorem IsUnshared.replyAfter_eq (h : registry.IsUnshared) {earlier : List String}
    (hnew : name ∉ earlier) : registry.replyAfter earlier name = (registry.ask name).1 := by
  rw [ServiceRegistry.replyAfter_eq, ask]
  cases hservice : registry.services.get? name with
  | none => rfl
  | some provider =>
    have hlabel : registry.label? name = some provider.label := by rw [label?, hservice]; rfl
    have hcount : (earlier.filterMap registry.label?).count provider.label = 0 := by
      rw [List.count_eq_zero]
      intro hmem
      obtain ⟨other, hother, hsame⟩ := List.mem_filterMap.mp hmem
      exact hnew (h name other _ hlabel hsame ▸ hother)
    rw [asked_askAll, Option.map_some, List.count_append, List.count_reverse, hcount, Nat.zero_add]

theorem freshLabel_not_mem (registry : ServiceRegistry) :
    registry.freshLabel ∉ registry.labels := by
  have hle : ∀ {labels : List String} {label : String}, label ∈ labels →
      label.length ≤ (labels.map String.length).foldr max 0 := by
    intro labels label hlabel
    induction labels with
    | nil => cases hlabel
    | cons first labels ih =>
      rw [List.map_cons, List.foldr_cons]
      rcases List.mem_cons.mp hlabel with rfl | hlabel
      · exact le_max_left _ _
      · exact (ih hlabel).trans (le_max_right _ _)
  intro hmem
  have hlong := hle hmem
  simp [freshLabel] at hlong

theorem mem_labels_of_label? {label : String} (h : registry.label? name = some label) :
    label ∈ registry.labels := by
  obtain ⟨provider, hservice, rfl⟩ := Option.map_eq_some_iff.mp h
  exact List.mem_append_left _
    (List.mem_map.mpr ⟨(name, provider), Entries.mem_of_get? hservice, rfl⟩)

theorem label?_register (registry : ServiceRegistry) (name : String) (service : Service)
    (other : String) :
    (registry.register name service).label? other
      = if other = name then some registry.freshLabel else registry.label? other := by
  rw [label?, register, share, Dictionary.get?_insert]
  split
  · rfl
  · rfl

/-- A new service has one name. -/
theorem IsUnshared.register (h : registry.IsUnshared) (name : String) (service : Service) :
    (registry.register name service).IsUnshared := by
  intro first second label hfirst hsecond
  rw [label?_register] at hfirst hsecond
  split at hfirst
  · next heq =>
    obtain rfl := Option.some.inj hfirst
    split at hsecond
    · next heq' => rw [heq, heq']
    · exact absurd (mem_labels_of_label? hsecond) registry.freshLabel_not_mem
  · split at hsecond
    · obtain rfl := Option.some.inj hsecond
      exact absurd (mem_labels_of_label? hfirst) registry.freshLabel_not_mem
    · exact h first second label hfirst hsecond

theorem isUnshared_empty : IsUnshared empty :=
  fun _ _ _ h => nomatch h

theorem IsUnshared.ask (h : registry.IsUnshared) (name : String) :
    (registry.ask name).2.IsUnshared := by
  intro first second label hfirst hsecond
  rw [label?, services_ask] at hfirst hsecond
  exact h first second label hfirst hsecond

end ServiceRegistry

/-- Whether a session has done nothing but ask a registry. -/
structure Session.Follows (registry : ServiceRegistry) (session : Session) : Prop where
  /-- It has asked for its dependencies, one after the other. -/
  asked : session.asked = (registry.askAll session.names).asked
  /-- What it has heard is what the services say then. -/
  heard : ∀ later name answer earlier, session.heard = later ++ (name, answer) :: earlier →
    registry.replyAfter (earlier.map (·.1)).reverse name = some answer

namespace Session

theorem follows_start (registry : ServiceRegistry) :
    Follows registry ⟨∅, [], registry.asked⟩ where
  asked := rfl
  heard later name answer earlier h := by simp at h

theorem Follows.answer_eq (h : session.Follows registry)
    (hservice : registry.services.get? name = some provider) :
    registry.replyAfter session.names name
      = some (provider.service (session.asked.count provider.label)) := by
  rw [ServiceRegistry.replyAfter_eq, hservice, h.asked]
  rfl

theorem Step.follows (hstep : Step registry.services session session')
    (h : session.Follows registry) : session'.Follows registry := by
  cases hstep with
  | @hear name provider hopen hunknown hservice =>
    constructor
    · rw [names_hear, ServiceRegistry.askAll_concat, ServiceRegistry.ask,
        ServiceRegistry.services_askAll, hservice]
      exact congrArg _ h.asked
    · intro later other answer earlier hheard
      rcases List.cons_eq_append_iff.mp hheard with ⟨-, hlast⟩ | ⟨later, -, hearlier⟩
      · obtain ⟨heq, rfl⟩ := List.cons_eq_cons.mp hlast
        obtain ⟨rfl, rfl⟩ := Prod.mk.inj heq
        exact h.answer_eq hservice
      · exact h.heard later other answer earlier hearlier

theorem Follows.of_reaches (h : session.Follows registry)
    (hreaches : ReflTransGen (Step registry.services) session session') :
    session'.Follows registry := by
  induction hreaches with
  | refl => exact h
  | tail _ hstep ih => exact hstep.follows ih

/-- Nothing is heard of a name without a service. -/
theorem Follows.exists_of_mem_names (h : session.Follows registry) (hname : name ∈ session.names) :
    ∃ provider, registry.services.get? name = some provider := by
  obtain ⟨answer, hmem⟩ := mem_names_iff.mp hname
  obtain ⟨later, earlier, hheard⟩ := List.append_of_mem hmem
  have hreply := h.heard later name answer earlier hheard
  rw [ServiceRegistry.replyAfter_eq] at hreply
  obtain ⟨provider, hservice, -⟩ := Option.map_eq_some_iff.mp hreply
  exact ⟨provider, hservice⟩

end Session

end Stencil
