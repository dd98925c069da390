import Mathlib
import Stencil.Proofs.Render.Session
import Stencil.Proofs.Unit.Findings

/-!
# What a rendering asks for

The dependencies whose values an evaluation takes are told from the expression alone, by `demands`.
Under replies that fit what a session hears, an evaluation has the value that the expression means,
it halts at the first demanded name that has no answer, and nowhere else, and it asks for the
demanded names up to that one, each once (`Expression.obtains_evaluate`). So does the run of a whole
body (`Instance.obtains_run`).
-/

namespace Stencil

/-! ## Demands -/

namespace Expression

mutual

/-- The dependencies whose values an evaluation takes, in order, if their services answer. -/
def demands (model : Value) (answer : String → Value) : Expression → List String
  | .literal _ => []
  | .path root _ => if root = modelRoot then [] else [root]
  | .coalesce operands => firstDemands model answer operands

/-- The dependencies whose values are taken to find the first operand that is not null. -/
def firstDemands (model : Value) (answer : String → Value) : List Expression → List String
  | [] => []
  | operand :: operands =>
    demands model answer operand
      ++ if (meaning model answer operand).isNull then firstDemands model answer operands else []

end

end Expression

/-- The dependencies whose values an instruction takes. -/
def Instruction.demands (model : Value) (answer : String → Value) : Instruction → List String
  | .writeLiteral _ => []
  | .write e => e.demands model answer

/-- Why a result is none. -/
def Halt.of? : Except Halt α → Option Halt
  | .ok _ => none
  | .error halt => some halt

theorem Halt.of?_eq_some_iff {result : Except Halt α} {halt : Halt} :
    of? result = some halt ↔ result = .error halt := by
  cases result <;> simp [of?]

theorem Halt.of?_eq_none_iff {result : Except Halt Unit} : of? result = none ↔ result = .ok () := by
  cases result <;> simp [of?]

/-- The names without those that have come before, one name behind others. -/
theorem eraseDups_concat (names : List String) (name : String) :
    (names ++ [name]).eraseDups
      = if name ∈ names then names.eraseDups else names.eraseDups ++ [name] := by
  rw [List.eraseDups_append, List.removeAll]
  by_cases hname : name ∈ names
  · simp [hname]
  · simp [hname, List.eraseDups_cons]

theorem eraseDups_of_nodup {names : List String} (h : names.Nodup) : names.eraseDups = names := by
  induction names using List.reverseRecOn with
  | nil => rfl
  | append_singleton names name ih =>
    obtain ⟨hnames, -, hnew⟩ := List.nodup_append'.mp h
    rw [eraseDups_concat, if_neg fun hmem => hnew hmem (List.mem_singleton_self name), ih hnames]

theorem nodup_eraseDups (names : List String) : names.eraseDups.Nodup := by
  induction names using List.reverseRecOn with
  | nil => exact List.nodup_nil
  | append_singleton names name ih =>
    rw [eraseDups_concat]
    split
    · exact ih
    · next hname =>
      have hnew : name ∉ names.eraseDups := by rwa [List.mem_eraseDups]
      rw [List.nodup_append_comm, List.singleton_append]
      exact List.nodup_cons.mpr ⟨hnew, ih⟩

/-- A new name stays right behind the names before it. -/
theorem exists_eraseDups_append_cons {front : List String} {name : String} (hnew : name ∉ front)
    (rest : List String) :
    ∃ others, (front ++ name :: rest).eraseDups = front.eraseDups ++ name :: others := by
  refine ⟨(rest.removeAll (front ++ [name])).eraseDups, ?_⟩
  rw [List.append_cons, List.eraseDups_append, eraseDups_concat, if_neg hnew, List.append_assoc,
    List.singleton_append]

theorem eraseDups_eraseDups_append (names more : List String) :
    (names.eraseDups ++ more).eraseDups = (names ++ more).eraseDups := by
  rw [List.eraseDups_append, List.eraseDups_append, eraseDups_of_nodup (nodup_eraseDups names),
    List.removeAll, List.removeAll]
  simp

namespace Replies

variable {said : Replies} {name : String} {front rest : List String}

/-- How the value for a name halts whoever takes it, unless there is one. -/
def halt? (said : Replies) (name : String) : Option Halt :=
  Halt.of? (said.result name)

theorem halt?_eq_none_iff : said.halt? name = none ↔ said.Answers name := by
  rw [halt?, answers_iff]
  cases said.result name with
  | ok value => simp [Halt.of?]
  | error halt => simp [Halt.of?]

/-- The names that are asked for when names are demanded one after the other. The first name that
has no answer is the last one that counts, and it is asked for if there is a service. -/
def asksFor (said : Replies) : List String → List String
  | [] => []
  | name :: rest =>
    match said name with
    | some (.value _) => name :: said.asksFor rest
    | some _ => [name]
    | none => []

/-- Behind names that all have an answer, asking goes on. -/
theorem asksFor_append_of_eq_none (h : front.findSome? said.halt? = none) (rest : List String) :
    said.asksFor (front ++ rest) = front ++ said.asksFor rest := by
  induction front with
  | nil => rfl
  | cons name front ih =>
    rw [List.findSome?_cons] at h
    split at h
    · cases h
    · next hanswers =>
      obtain ⟨value, hvalue⟩ := halt?_eq_none_iff.mp hanswers
      rw [List.cons_append, asksFor, hvalue, List.cons_append]
      dsimp only
      rw [ih h]

/-- Behind a name that has no answer, nothing is asked. -/
theorem asksFor_append_of_eq_some {halt : Halt} (h : front.findSome? said.halt? = some halt)
    (rest : List String) : said.asksFor (front ++ rest) = said.asksFor front := by
  induction front with
  | nil => cases h
  | cons name front ih =>
    rw [List.cons_append, asksFor, asksFor]
    rw [List.findSome?_cons, halt?, result] at h
    split
    · next value hvalue =>
      rw [hvalue] at h
      rw [ih h]
    · rfl
    · rfl

end Replies

variable {said : Replies} {around : Surroundings} {services : Dictionary Provider}
  {session session' : Session} {names : List String}

namespace Expression

mutual

/-- What an expression demands are roots of its paths. -/
theorem mem_of_mem_demands {answer : String → Value} {name : String} (e : Expression)
    (hbound : e.IsBound names) (hname : name ∈ e.demands model answer) : name ∈ names := by
  cases e with
  | literal constant =>
    rw [demands] at hname
    exact absurd hname List.not_mem_nil
  | path root steps =>
    rw [demands] at hname
    split at hname
    · exact absurd hname List.not_mem_nil
    · next hroot =>
      rw [List.mem_singleton.mp hname]
      exact (hbound _ (List.mem_singleton_self _)).resolve_left hroot
  | coalesce operands =>
    rw [demands] at hname
    exact mem_of_mem_firstDemands operands hbound hname

theorem mem_of_mem_firstDemands {answer : String → Value} {name : String}
    (operands : List Expression) (hbound : (coalesce operands).IsBound names)
    (hname : name ∈ firstDemands model answer operands) : name ∈ names := by
  cases operands with
  | nil =>
    rw [firstDemands] at hname
    exact absurd hname List.not_mem_nil
  | cons operand operands =>
    rw [firstDemands, List.mem_append] at hname
    rcases hname with hname | hname
    · exact mem_of_mem_demands operand hbound.of_cons hname
    · split at hname
      · exact mem_of_mem_firstDemands operands hbound.of_cons_rest hname
      · exact absurd hname List.not_mem_nil

end

end Expression

/-! ## Replies that fit -/

/-- Whether replies are what a session has heard, and nothing is said for a name without a
service. -/
structure Replies.Fits (said : Replies) (services : Dictionary Provider) (session : Session) :
    Prop where
  /-- What has been heard is said. -/
  heard : ∀ name answer, (name, answer) ∈ session.heard → said name = some answer
  /-- Without a service nothing is said. -/
  absent : ∀ name, services.get? name = none → said name = none

theorem Replies.Fits.of_reaches (h : said.Fits services session')
    (hreaches : Relation.ReflTransGen (Session.Step services) session session') :
    said.Fits services session where
  heard name answer hmem :=
    h.heard name answer ((Session.heard_suffix_of_reaches hreaches).subset hmem)
  absent := h.absent

/-- What comes of names being demanded in a session. -/
structure Session.Obtains {α : Type} (said : Replies) (session : Session) (demanded : List String)
    (result : Except Halt α × Session) : Prop where
  /-- It halts at the first name that has no answer, and nowhere else. -/
  halt : Halt.of? result.1 = demanded.findSome? said.halt?
  /-- The names are asked for as far as they are new, up to that one. -/
  names : result.2.names = (session.names ++ said.asksFor demanded).eraseDups

namespace Session

variable {α β : Type}

theorem IsOpen.obtains_nil (h : session.IsOpen) (value : α) :
    session.Obtains said [] (.ok value, session) where
  halt := rfl
  names := by rw [Replies.asksFor, List.append_nil, eraseDups_of_nodup h.once]

/-- Names that have answered are demanded before others. -/
theorem Obtains.trans {front rest : List String} {value : α} {result : Except Halt β × Session}
    (hfront : session.Obtains said front (.ok value, session'))
    (h : session'.Obtains said rest result) : session.Obtains said (front ++ rest) result := by
  have hanswered : front.findSome? said.halt? = none := hfront.halt.symm
  have hasked : said.asksFor front = front := by
    simpa [Replies.asksFor] using Replies.asksFor_append_of_eq_none hanswered []
  constructor
  · rw [List.findSome?_append, hanswered, Option.none_or, h.halt]
  · rw [h.names, hfront.names, hasked, eraseDups_eraseDups_append,
      Replies.asksFor_append_of_eq_none hanswered, List.append_assoc]

/-- Whatever would be demanded next, it is not when a name has no answer. -/
theorem Obtains.halted {front : List String} {halt : Halt}
    (h : session.Obtains said front ((.error halt : Except Halt α), session'))
    (rest : List String) :
    session.Obtains said (front ++ rest) ((.error halt : Except Halt β), session') := by
  have hfirst : front.findSome? said.halt? = some halt := h.halt.symm
  constructor
  · rw [List.findSome?_append, hfirst]
    rfl
  · rw [Replies.asksFor_append_of_eq_some hfirst]
    exact h.names

/-- The value of a dependency is the one that is said, and it is asked for if it is new and has a
service. -/
theorem IsOpen.obtains_serviceValue (h : session.IsOpen) {name : String}
    (hfits : said.Fits around.services (session.serviceValue around name).2) :
    (session.serviceValue around name).1 = said.result name
      ∧ session.Obtains said [name] (session.serviceValue around name) := by
  suffices hparts : (session.serviceValue around name).1 = said.result name
      ∧ (session.serviceValue around name).2.names
        = (session.names ++ said.asksFor [name]).eraseDups by
    obtain ⟨hresult, hnames⟩ := hparts
    refine ⟨hresult, ?_, hnames⟩
    rw [List.findSome?_singleton, Replies.halt?, hresult]
  cases hknown : session.known.get? name with
  | some value =>
    rw [serviceValue_of_known hknown] at hfits ⊢
    have hsaid := hfits.heard name _ ((h.known_iff name value).mp hknown)
    have hseen : name ∈ session.names := h.mem_names_iff.mpr (hknown ▸ Option.some_ne_none _)
    refine ⟨(Replies.result_of_some hsaid).symm, ?_⟩
    rw [Replies.asksFor, hsaid]
    dsimp only
    rw [Replies.asksFor, eraseDups_concat, if_pos hseen, eraseDups_of_nodup h.once]
  | none =>
    have hnew : name ∉ session.names := fun hmem => h.mem_names_iff.mp hmem hknown
    cases hservice : around.services.get? name with
    | none =>
      rw [serviceValue_of_absent hknown hservice]
      have hsaid := hfits.absent name hservice
      refine ⟨by rw [Replies.result, hsaid], ?_⟩
      rw [Replies.asksFor, hsaid, List.append_nil, eraseDups_of_nodup h.once]
    | some provider =>
      rw [serviceValue_of_unknown hknown hservice] at hfits ⊢
      have hsaid := hfits.heard name _ List.mem_cons_self
      refine ⟨(Replies.result_of_some hsaid).symm, ?_⟩
      have hasks : said.asksFor [name] = [name] := by
        rw [Replies.asksFor, hsaid]
        cases provider.service (session.asked.count provider.label) <;> rfl
      rw [names_hear, hasks, eraseDups_concat, if_neg hnew, eraseDups_of_nodup h.once]

end Session

/-! ## Evaluation -/

namespace Expression

theorem shownPart_null (steps : List Step) : shownPart .null steps = .null := by
  cases steps with
  | nil => rfl
  | cons step steps => cases step <;> rfl

/-- A path from the model shows a part of it. A model that is not set is like one that is null. -/
theorem evaluatePath_model (around : Surroundings) (session : Session) (steps : List Step) :
    evaluatePath around session modelRoot steps
      = (.ok (shownPart (around.model.getD .null) steps), session) := by
  rw [evaluatePath, if_pos rfl]
  cases around.model with
  | none =>
    rw [Option.getD_none, shownPart_null]
    rfl
  | some model => rfl

theorem session_evaluatePath {root : String} (hroot : root ≠ modelRoot) (steps : List Step) :
    (evaluatePath around session root steps).2 = (session.serviceValue around root).2 := by
  rw [evaluatePath, if_neg hroot]
  rcases session.serviceValue around root with ⟨halt | value, known⟩ <;> rfl

theorem obtains_evaluatePath (hopen : session.IsOpen) (around : Surroundings) {root : String}
    {steps : List Step}
    (hfits : said.Fits around.services (evaluatePath around session root steps).2) :
    session.Obtains said ((path root steps).demands (around.model.getD .null) said.value)
        (evaluatePath around session root steps)
      ∧ ∀ value, (evaluatePath around session root steps).1 = .ok value →
          value = (path root steps).meaning (around.model.getD .null) said.value := by
  rw [demands, meaning]
  by_cases hroot : root = modelRoot
  · subst hroot
    rw [evaluatePath_model, if_pos rfl, if_pos rfl]
    exact ⟨hopen.obtains_nil _, fun value hvalue => (Except.ok.inj hvalue).symm⟩
  · rw [session_evaluatePath hroot] at hfits
    obtain ⟨hresult, hobtains⟩ := hopen.obtains_serviceValue hfits
    rw [evaluatePath, if_neg hroot, if_neg hroot, if_neg hroot]
    rcases hvalue : session.serviceValue around root with ⟨halt | taken, known⟩
    · rw [hvalue] at hobtains
      refine ⟨⟨hobtains.halt, hobtains.names⟩, fun value heq => ?_⟩
      cases heq
    · rw [hvalue] at hobtains hresult
      refine ⟨⟨hobtains.halt, hobtains.names⟩, fun value heq => ?_⟩
      rw [Replies.value_of_result hresult.symm]
      exact (Except.ok.inj heq).symm

mutual

/-- Under replies that fit what is heard, an evaluation has the value that the expression means, and
it obtains what the expression demands. -/
theorem obtains_evaluate {session : Session} (hopen : session.IsOpen) (around : Surroundings)
    (e : Expression)
    (hfits : said.Fits around.services (e.evaluate around session).2) :
    session.Obtains said (e.demands (around.model.getD .null) said.value)
        (e.evaluate around session)
      ∧ ∀ value, (e.evaluate around session).1 = .ok value →
          value = e.meaning (around.model.getD .null) said.value := by
  cases e with
  | literal constant =>
    rw [evaluate, demands, meaning]
    exact ⟨hopen.obtains_nil _, fun value hvalue => (Except.ok.inj hvalue).symm⟩
  | path root steps =>
    rw [evaluate] at hfits ⊢
    exact obtains_evaluatePath hopen around hfits
  | coalesce operands =>
    rw [evaluate] at hfits ⊢
    rw [demands, meaning]
    exact obtains_evaluateFirst hopen around operands hfits

theorem obtains_evaluateFirst {session : Session} (hopen : session.IsOpen)
    (around : Surroundings) (operands : List Expression)
    (hfits : said.Fits around.services (evaluateFirst around session operands).2) :
    session.Obtains said (firstDemands (around.model.getD .null) said.value operands)
        (evaluateFirst around session operands)
      ∧ ∀ value, (evaluateFirst around session operands).1 = .ok value →
          value = firstMeaning (around.model.getD .null) said.value operands := by
  cases operands with
  | nil =>
    rw [evaluateFirst, firstDemands, firstMeaning]
    exact ⟨hopen.obtains_nil _, fun value hvalue => (Except.ok.inj hvalue).symm⟩
  | cons operand operands =>
    have hleads := leads_evaluate hopen around operand
    rw [firstDemands, firstMeaning]
    rw [evaluateFirst] at hfits ⊢
    rcases hfirst : evaluate around session operand with ⟨halt | first, known⟩
    · rw [hfirst] at hfits
      have hobtains := (obtains_evaluate hopen around operand (hfirst ▸ hfits)).1
      rw [hfirst] at hobtains
      refine ⟨hobtains.halted _, fun value heq => ?_⟩
      cases heq
    · rw [hfirst] at hfits hleads
      dsimp only at hfits ⊢
      have hknown : known.IsOpen := hleads.isOpen first rfl
      by_cases hnull : first.isNull = true
      · -- The operands behind the first are evaluated in the session that it leaves.
        rw [if_pos hnull] at hfits ⊢
        have hbefore := hfits.of_reaches (leads_evaluateFirst hknown around operands).reaches
        obtain ⟨hobtains, hmeans⟩ := obtains_evaluate hopen around operand (hfirst ▸ hbefore)
        obtain ⟨hrest, hvalue⟩ := obtains_evaluateFirst hknown around operands hfits
        rw [hfirst] at hobtains
        rw [← hmeans first (by rw [hfirst]), if_pos hnull, if_pos hnull]
        exact ⟨hobtains.trans hrest, hvalue⟩
      · rw [if_neg hnull] at hfits ⊢
        obtain ⟨hobtains, hmeans⟩ := obtains_evaluate hopen around operand (hfirst ▸ hfits)
        rw [hfirst] at hobtains
        rw [← hmeans first (by rw [hfirst]), if_neg hnull, if_neg hnull, List.append_nil]
        exact ⟨hobtains, fun value heq => (Except.ok.inj heq).symm⟩

end

end Expression

/-! ## Runs -/

namespace Instance

/-- Under replies that fit what is heard, a run obtains what its instructions demand, and if it
comes to its end it has written what they show. -/
theorem obtains_run (hopen : session.IsOpen) {body : List Instruction} {rendering : Rendering}
    (hfits : said.Fits services (run services body rendering session).2.2) :
    session.Obtains said
        (body.flatMap (Instruction.demands (rendering.model.getD .null) said.value))
        ((run services body rendering session).1, (run services body rendering session).2.2)
      ∧ ((run services body rendering session).1 = .ok () →
          (run services body rendering session).2.1.output
            = rendering.output
              ++ String.join
                  (body.map (Instruction.shown (rendering.model.getD .null) said.value))) := by
  induction body generalizing rendering session with
  | nil => exact ⟨hopen.obtains_nil _, fun _ => by simp [run]⟩
  | cons instruction body ih =>
    rw [List.flatMap_cons, List.map_cons, String.join_cons]
    cases instruction with
    | writeLiteral text =>
      rw [run] at hfits ⊢
      obtain ⟨hobtains, houtput⟩ := ih hopen hfits
      refine ⟨hobtains, fun hok => ?_⟩
      rw [houtput hok]
      simp [Rendering.writeLiteral, Instruction.shown, String.append_assoc]
    | write e =>
      have hleads := e.leads_evaluate hopen ⟨rendering.model, services⟩
      rw [run] at hfits ⊢
      rcases hvalue : e.evaluate ⟨rendering.model, services⟩ session with ⟨halt | value, known⟩
      · rw [hvalue] at hfits
        have hbefore : said.Fits services
            (e.evaluate ⟨rendering.model, services⟩ session).2 := hvalue ▸ hfits
        have hobtains := (e.obtains_evaluate hopen ⟨rendering.model, services⟩ hbefore).1
        rw [hvalue] at hobtains
        refine ⟨hobtains.halted _, fun hok => ?_⟩
        cases hok
      · rw [hvalue] at hfits hleads
        dsimp only at hfits ⊢
        -- The rest is run in the session that the expression leaves.
        have hknown : known.IsOpen := hleads.isOpen value rfl
        have hbefore : said.Fits services (e.evaluate ⟨rendering.model, services⟩ session).2 := by
          rw [hvalue]
          exact hfits.of_reaches (leads_run hknown services body _).reaches
        obtain ⟨hobtains, hmeans⟩ := e.obtains_evaluate hopen ⟨rendering.model, services⟩ hbefore
        obtain ⟨hrest, houtput⟩ := ih hknown hfits
        rw [hvalue] at hobtains
        refine ⟨hobtains.trans hrest, fun hok => ?_⟩
        rw [houtput hok, hmeans value (by rw [hvalue])]
        simp [Rendering.write, Rendering.writeLiteral, Instruction.shown, String.append_assoc]

end Instance

end Stencil
