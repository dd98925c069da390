import Mathlib
import Stencil.Proofs.Expression.Grammar
import Stencil.Proofs.Expression.Lexeme
import Stencil.Proofs.Render.Calls
import Stencil.Proofs.Unit.WellFormed

/-!
# Reading a dependency by its name

Which names may be declared as dependencies is decided where declarations are read, and what a name
stands for is decided where expressions are read. A name that may be declared and written always
makes an expression that is accepted. This is the path to the service, except for the words of the
literals, which may be declared all the same: then what is written is the literal, and the service
is never asked (`Draft.reads_iff_of_inject`).
-/

namespace Stencil

open Text

/-! ## Names as expressions -/

namespace Expression

/-- What a name by itself stands for. -/
def ofName (name : String) : Expression :=
  match word? name with
  | some value => .literal value
  | none => .path name []

theorem ofName_eq_path_iff {name : String} : ofName name = .path name [] ↔ word? name = none := by
  rw [ofName]
  split
  · next value hvalue => simp [hvalue]
  · next hnone => simp [hnone]

theorem ofName_eq_literal_iff {name : String} {value : Value} :
    ofName name = .literal value ↔ word? name = some value := by
  rw [ofName]
  split
  · next other hother => simp [hother]
  · next hnone => simp [hnone]

theorem isOperand_ofName (name : String) : IsOperand [.name name] (ofName name) := by
  rw [ofName]
  split
  · next value hvalue => exact isOperand_word hvalue
  · next hnone => exact isOperand_path hnone .nil

theorem parse_toList {name : String} (h : isIdentifier name.toList = true) :
    parse name.toList = .ok (ofName name) := by
  have hrow : IsRow (name.toList ++ []) [.name (String.ofList name.toList)] :=
    .lexeme (.name h) (fun c hc => nomatch hc) .nil
  rw [List.append_nil, String.ofList_toList] at hrow
  exact parse_eq_ok_iff_exists_tokens.mpr
    ⟨_, tokens_eq_ok_iff.mpr hrow, .operand (isOperand_ofName _)⟩

end Expression

/-! ## Names as services -/

variable {registry : ServiceRegistry} {name : String}

namespace Expression

/-- Whether an expression stands for a dependency: whatever an instance has run before, when the
expression has been evaluated the service has been asked for the dependency, and the value is what
it has answered. The answer is what the registry says when it is asked for the names that the
instance has asked for before. -/
def Reads (e : Expression) (name : String) : Prop :=
  ∀ (registry : ServiceRegistry) (renderer : Renderer) (inst : Instance)
    (body : List Instruction) (begun rendering : Rendering) (session : Session),
    registry.activate renderer = .ok inst → name ∈ renderer.image.dependencies →
    Instance.run inst.services body begun ⟨inst.known, inst.heard, registry.asked⟩
      = (.ok (), rendering, session) →
    ∃ later answer earlier,
      (e.evaluate ⟨rendering.model, inst.services⟩ session).2.heard
          = later ++ (name, answer) :: earlier
        ∧ registry.replyAfter (earlier.map (·.1)).reverse name = some answer
        ∧ (e.evaluate ⟨rendering.model, inst.services⟩ session).1 = answer.result name

/-- When a path from a dependency has been evaluated, the service has been asked for the dependency,
and the value is what it has answered. -/
theorem exists_heard_evaluatePath {session : Session} {services : Dictionary Provider}
    {provider : Provider} (hopen : session.IsOpen) (model : Option Value) (hname : name ≠ modelRoot)
    (hservice : services.get? name = some provider) :
    let taken := evaluatePath ⟨model, services⟩ session name []
    ∃ answer, (name, answer) ∈ taken.2.heard ∧ taken.1 = answer.result name := by
  intro taken
  dsimp only [taken]
  rw [session_evaluatePath hname, evaluatePath, if_neg hname]
  cases hknown : session.known.get? name with
  | some value =>
    rw [Session.serviceValue_of_known hknown]
    exact ⟨.value value, (hopen.known_iff name value).mp hknown, rfl⟩
  | none =>
    rw [Session.serviceValue_of_unknown hknown hservice]
    refine ⟨_, List.mem_cons_self, ?_⟩
    cases provider.service (session.asked.count provider.label) <;> rfl

theorem reads_path (hname : name ≠ modelRoot) : (path name []).Reads name := by
  intro registry renderer inst body begun rendering session hactivate hmem hrun
  obtain ⟨provider, hservice⟩ := ServiceRegistry.exists_service_of_activate hactivate hmem
  obtain rfl := ServiceRegistry.eq_of_activate hactivate
  have hleads := Instance.leads_run (Session.isOpen_start registry.asked)
    (registry.servicesOf renderer) body begun
  rw [hrun] at hleads
  have hopen : session.IsOpen := hleads.isOpen () rfl
  have hpath := leads_evaluatePath hopen ⟨rendering.model, registry.servicesOf renderer⟩ name []
  have hfollows := (Session.follows_start ⟨registry.servicesOf renderer, registry.asked⟩).of_reaches
    (hleads.reaches.trans hpath.reaches)
  obtain ⟨answer, hheard, hvalue⟩ := exists_heard_evaluatePath hopen rendering.model hname hservice
  obtain ⟨later, earlier, hsplit⟩ := List.append_of_mem hheard
  rw [evaluate]
  exact ⟨later, answer, earlier, hsplit,
    ServiceRegistry.replyAfter_eq_of_follows hfollows hsplit, hvalue⟩

/-- A literal stands for no dependency: no service is asked for it. -/
theorem not_reads_literal (value : Value) (name : String) : ¬ (literal value).Reads name := by
  intro h
  let registry : ServiceRegistry := ServiceRegistry.empty.register name (.constant .never)
  let renderer : Renderer :=
    { unit := ""
      image := { name := "", base := ⟨"", ""⟩, dependencies := [name], body := [] } }
  have hservice : registry.services.get? name
      = some ⟨ServiceRegistry.empty.freshLabel, .constant .never⟩ :=
    (Dictionary.get?_insert ..).trans (if_pos rfl)
  have hnone : registry.missing renderer = [] := by
    rw [ServiceRegistry.missing_eq_nil_iff]
    intro other hother
    rw [List.mem_singleton.mp hother, hservice]
    exact Option.some_ne_none _
  have hactivate := (registry.activate_eq renderer).trans (if_pos hnone)
  obtain ⟨later, answer, earlier, hheard, -⟩ :=
    h registry renderer _ [] .new _ _ hactivate (List.mem_singleton_self name) rfl
  rw [evaluate] at hheard
  simp at hheard

theorem reads_ofName_iff (hname : name ≠ modelRoot) :
    (ofName name).Reads name ↔ word? name = none := by
  rw [ofName]
  split
  · next value hvalue =>
    rw [hvalue]
    exact ⟨fun h => absurd h (not_reads_literal value name),
      fun h => absurd h (Option.some_ne_none _)⟩
  · next hnone => exact ⟨fun _ => hnone, fun _ => reads_path hname⟩

end Expression

/-! ## Declared names -/

namespace Unit.Draft

open Expression (word?)

variable {types : TypeTable} {draft : Draft} {line : Nat} {text : List Char}

theorem dependencies_subset_readLines (types : TypeTable) (draft : Draft) (before : Nat)
    (texts : List (List Char)) :
    draft.dependencies ⊆ (draft.readLines types before texts).dependencies := by
  induction texts generalizing draft before with
  | nil => exact List.Subset.refl _
  | cons text texts ih =>
    obtain ⟨rest, -, hextends⟩ := exists_extends_readLine types draft (before + 1) text
    exact List.Subset.trans hextends.dependencies_subset (ih ..)

theorem expressionProblems_ofName {name : String} (hmodel : name ≠ Expression.modelRoot)
    (hdeclared : name ∈ draft.dependencies) :
    expressionProblems (draft.scope types) (.ofName name) = [] := by
  rw [Expression.ofName]
  split
  · rfl
  · rw [expressionProblems, pathProblems, if_neg hmodel]
    exact if_pos hdeclared

/-- A declaration of a dependency that adds no finding declares a new name. -/
theorem of_findings_readLine_inject {name : String}
    (hline : Statement.ofLine? text = some ⟨"inject".toList, name.toList⟩)
    (h : (draft.readLine types line text).findings = draft.findings) :
    isIdentifier name.toList = true ∧ name ≠ Expression.modelRoot
      ∧ name ∈ (draft.readLine types line text).dependencies := by
  rw [readLine, hline] at h ⊢
  dsimp only at h ⊢
  have hpart : draft.part = .declarations := by
    by_contra hpart
    rw [readStatement] at h
    cases hother : draft.part with
    | declarations => exact hpart hother
    | _ =>
      rw [hother] at h
      exact findings_note_cons_ne h
  have hread : draft.readStatement types line ⟨"inject".toList, name.toList⟩
      = draft.readInjection line name.toList := by
    rw [readStatement, hpart]
    rfl
  rw [hread] at h ⊢
  obtain ⟨hidentifier, hmodel, -, heq⟩ := readInjection_of_findings h
  rw [String.ofList_toList] at hmodel heq
  rw [heq]
  exact ⟨hidentifier, hmodel, List.mem_append_right _ (List.mem_singleton_self _)⟩

/-- Every name that can be declared can be written, and reads the dependency unless it is the word
of a literal. Let a declaration add no finding. Then its name by itself is an expression, and behind
the declaration every instruction that writes it is accepted. The expression is the path from the
name, and stands for the dependency, exactly when the name is none of `true`, `false` and `null`;
otherwise it is the literal. -/
theorem reads_iff_of_inject {name : String}
    (hline : Statement.ofLine? text = some ⟨"inject".toList, name.toList⟩)
    (h : (draft.readLine types line text).findings = draft.findings) :
    ∃ e, Expression.parse name.toList = .ok e
      ∧ (∀ before texts written next,
          let later := (draft.readLine types line text).readLines types before texts
          name ∈ later.dependencies
            ∧ (later.part = .body →
              Statement.ofLine? written = some ⟨"write".toList, name.toList⟩ →
              later.readLine types next written = { later with body := later.body ++ [.write e] }))
      ∧ (e = .path name [] ↔ word? name = none)
      ∧ (∀ value, e = .literal value ↔ word? name = some value)
      ∧ (e.Reads name ↔ word? name = none) := by
  obtain ⟨hidentifier, hmodel, hdeclared⟩ := of_findings_readLine_inject hline h
  have hparse := Expression.parse_toList hidentifier
  refine ⟨.ofName name, hparse, ?_, Expression.ofName_eq_path_iff,
    fun _ => Expression.ofName_eq_literal_iff, Expression.reads_ofName_iff hmodel⟩
  intro before texts written next later
  have hlater : name ∈ later.dependencies :=
    dependencies_subset_readLines types _ before texts hdeclared
  refine ⟨hlater, fun hpart hwritten => ?_⟩
  have hread : later.readStatement types next ⟨"write".toList, name.toList⟩
      = later.readWrite types next name.toList := by
    rw [readStatement, hpart]
    rfl
  rw [readLine, hwritten]
  dsimp only
  rw [hread, readWrite, hparse]
  dsimp only
  rw [expressionProblems_ofName hmodel hlater, note_nil]

/-- Behind the declaration of a renderer, `Clock` and `true` can be declared alike. The one is read,
the other is the literal. -/
theorem exists_reads_clock :
    ∃ (draft : Draft) (clock yes : Expression), draft.part = .declarations
      ∧ (draft.readLine ∅ 4 "inject Clock".toList).findings = draft.findings
      ∧ Expression.parse "Clock".toList = .ok clock ∧ clock.Reads "Clock"
      ∧ (draft.readLine ∅ 4 "inject true".toList).findings = draft.findings
      ∧ Expression.parse "true".toList = .ok yes ∧ yes = .literal (.bool true)
      ∧ ¬ yes.Reads "true" := by
  let draft : Draft := { start [] with
    part := .declarations
    unit := "u"
    renderer := some ("View", ⟨"a", "b"⟩) }
  have hclock : (draft.readLine ∅ 4 "inject Clock".toList).findings = draft.findings := by
    decide +kernel
  have hyes : (draft.readLine ∅ 4 "inject true".toList).findings = draft.findings := by
    decide +kernel
  have hline : Statement.ofLine? "inject Clock".toList
      = some ⟨"inject".toList, "Clock".toList⟩ := by
    decide +kernel
  have hline' : Statement.ofLine? "inject true".toList
      = some ⟨"inject".toList, "true".toList⟩ := by
    decide +kernel
  obtain ⟨clock, hparse, -, -, -, hreads⟩ := reads_iff_of_inject hline hclock
  obtain ⟨yes, hparse', -, -, hliteral, hreads'⟩ := reads_iff_of_inject hline' hyes
  exact ⟨draft, clock, yes, rfl, hclock, hparse, hreads.mpr rfl, hyes, hparse',
    (hliteral _).mpr rfl, fun h => nomatch hreads'.mp h⟩

end Unit.Draft

end Stencil
