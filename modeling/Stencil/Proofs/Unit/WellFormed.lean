import Mathlib
import Stencil.Proofs.Unit.Loader

/-!
# Well-formed units

A source that is compiled without a finding has been accepted statement by statement
(`Draft.reflTransGen_accepts`), so that each of its declarations has passed its check. A compiled
unit is therefore well formed, from whatever source it comes, and a source without a renderer is
never without a finding (`isWellFormed_of_build`).
-/

namespace Stencil

/-- Whether a renderer may stand in a compiled unit: it has a proper name, its contract and its
model type are known, and it reads nothing but the model and its dependencies. -/
structure RendererImage.IsWellFormed (types : Unit.TypeTable) (image : RendererImage) : Prop
    extends image.IsBound where
  /-- The name is an identifier. -/
  name : Text.isIdentifier image.name.toList = true
  /-- The contract is a known type. -/
  contract : types.contains image.base.name = true
  /-- The model type is a known type. -/
  model : types.contains image.base.model = true

/-- Whether a unit is such as compilations make: it has a name and one well-formed renderer. -/
structure UnitImage.IsWellFormed (types : Unit.TypeTable) (image : UnitImage) : Prop where
  /-- The unit has a name. -/
  named : image.name ≠ ""
  /-- There is one renderer. -/
  single : ∃ renderer, image.types = [renderer] ∧ renderer.IsWellFormed types

namespace Unit

open Text

namespace Draft

variable {types : TypeTable} {draft extended : Draft} {line : Nat}

/-! ## Statements with which nothing is wrong -/

theorem note_nil (draft : Draft) (line : Nat) : draft.note line [] = draft := by
  rw [note, List.map_nil, List.append_nil]

theorem findings_note_eq_iff {problems : List Problem} :
    (draft.note line problems).findings = draft.findings ↔ problems = [] := by
  rw [note, List.append_right_eq_self, List.map_eq_nil_iff]

theorem findings_note_cons_ne {problem : Problem} {problems : List Problem} :
    (draft.note line (problem :: problems)).findings ≠ draft.findings :=
  fun h => List.cons_ne_nil _ _ (findings_note_eq_iff.mp h)

/-- What a statement does to a draft if nothing is wrong with it. -/
inductive Accepts (types : TypeTable) (draft : Draft) : Draft → Prop
  /-- The unit is named. -/
  | unit {name : String} (hpart : draft.part = .header) (hname : name ≠ "") :
      Accepts types draft { draft with unit := name, part := .declarations }
  /-- A renderer is bound to known types. -/
  | renderer {name : String} {base : Contract} (hpart : draft.part = .declarations)
      (hnew : draft.renderer = none) (hname : isIdentifier name.toList = true)
      (hcontract : types.contains base.name = true) (hmodel : types.contains base.model = true) :
      Accepts types draft { draft with renderer := some (name, base) }
  /-- A dependency is declared under a new name. -/
  | injection {name : String} (hpart : draft.part = .declarations)
      (hname : isIdentifier name.toList = true) (hmodel : name ≠ Expression.modelRoot)
      (hnew : name ∉ draft.dependencies) :
      Accepts types draft { draft with dependencies := draft.dependencies ++ [name] }
  /-- The instructions of a declared renderer begin. -/
  | execute (hpart : draft.part = .declarations) (hrenderer : draft.renderer ≠ none) :
      Accepts types draft { draft with part := .body }
  /-- A text is written. -/
  | literal {text : String} (hpart : draft.part = .body) :
      Accepts types draft { draft with body := draft.body ++ [.writeLiteral text] }
  /-- The value of an expression without problems is written. -/
  | write {e : Expression} (hpart : draft.part = .body)
      (hproblems : expressionProblems (draft.scope types) e = []) :
      Accepts types draft { draft with body := draft.body ++ [.write e] }
  /-- The instructions end. -/
  | done (hpart : draft.part = .body) : Accepts types draft { draft with part := .done }

theorem accepts_readUnit {rest : List Char} (hpart : draft.part = .header)
    (h : (draft.readUnit line rest).findings = draft.findings) :
    Accepts types draft (draft.readUnit line rest) := by
  rw [readUnit] at h ⊢
  have hname : rest ≠ [] := by
    have hproblems := findings_note_eq_iff.mp h
    intro hnil
    rw [hnil] at hproblems
    cases hproblems
  rw [if_neg (by simpa using hname), note_nil]
  exact .unit hpart (by simpa using hname)

theorem accepts_readRenderer {rest : List Char} (hpart : draft.part = .declarations)
    (h : (draft.readRenderer types line rest).findings = draft.findings) :
    Accepts types draft (draft.readRenderer types line rest) := by
  unfold readRenderer at h ⊢
  split at h
  · exact absurd h findings_note_cons_ne
  · next hnew =>
    rw [if_neg hnew]
    split at h
    · exact absurd h findings_note_cons_ne
    · next name contract hsplit =>
      dsimp only at h ⊢
      split at h
      · exact absurd h findings_note_cons_ne
      · next base hbase =>
        have hproblems := findings_note_eq_iff.mp h
        obtain ⟨hname, hmissing⟩ := List.append_eq_nil_iff.mp hproblems
        have hidentifier : isIdentifier (trim name) = true := by
          by_contra hnot
          rw [if_neg hnot] at hname
          cases hname
        have hknown : ∀ type ∈ [base.name, base.model], types.contains type = true := by
          rw [List.map_eq_nil_iff, List.filter_eq_nil_iff] at hmissing
          simpa using hmissing
        rw [hproblems, note_nil]
        rw [Bool.not_eq_true, Option.isSome_eq_false_iff, Option.isNone_iff_eq_none] at hnew
        exact .renderer hpart hnew (by rwa [String.toList_ofList])
          (hknown _ List.mem_cons_self) (hknown _ (by simp))

/-- A dependency that is declared without a finding is an identifier and a new name. -/
theorem readInjection_of_findings {rest : List Char}
    (h : (draft.readInjection line rest).findings = draft.findings) :
    isIdentifier rest = true ∧ String.ofList rest ≠ Expression.modelRoot
      ∧ String.ofList rest ∉ draft.dependencies
      ∧ draft.readInjection line rest
        = { draft with dependencies := draft.dependencies ++ [String.ofList rest] } := by
  unfold readInjection at h ⊢
  dsimp only at h ⊢
  split at h
  · exact absurd h findings_note_cons_ne
  · next hidentifier =>
    rw [if_neg hidentifier]
    split at h
    · exact absurd h findings_note_cons_ne
    · next htaken =>
      rw [if_neg htaken]
      rw [not_or] at htaken
      exact ⟨by simpa using hidentifier, htaken.1, htaken.2, rfl⟩

theorem accepts_readInjection {rest : List Char} (hpart : draft.part = .declarations)
    (h : (draft.readInjection line rest).findings = draft.findings) :
    Accepts types draft (draft.readInjection line rest) := by
  obtain ⟨hidentifier, hmodel, hnew, heq⟩ := readInjection_of_findings h
  rw [heq]
  exact .injection hpart (by rwa [String.toList_ofList]) hmodel hnew

theorem accepts_readExecute (hpart : draft.part = .declarations)
    (h : (draft.readExecute line).findings = draft.findings) :
    Accepts types draft (draft.readExecute line) := by
  rw [readExecute] at h ⊢
  have hrenderer : ¬ draft.renderer.isNone = true := by
    have hproblems := findings_note_eq_iff.mp h
    intro hnone
    rw [if_pos hnone] at hproblems
    cases hproblems
  rw [if_neg hrenderer, note_nil]
  exact .execute hpart (by simpa using hrenderer)

theorem accepts_readLiteral {rest : List Char} (hpart : draft.part = .body)
    (h : (draft.readLiteral line rest).findings = draft.findings) :
    Accepts types draft (draft.readLiteral line rest) := by
  unfold readLiteral at h ⊢
  split at h
  · exact .literal hpart
  · exact absurd h findings_note_cons_ne

theorem accepts_readWrite {rest : List Char} (hpart : draft.part = .body)
    (h : (draft.readWrite types line rest).findings = draft.findings) :
    Accepts types draft (draft.readWrite types line rest) := by
  unfold readWrite at h ⊢
  split at h
  · exact absurd h findings_note_cons_ne
  · next e hparse =>
    have hproblems : expressionProblems (draft.scope types) e = [] := findings_note_eq_iff.mp h
    dsimp only
    rw [hproblems, note_nil]
    exact .write hpart hproblems

/-- A statement that adds no finding is accepted. -/
theorem accepts_readStatement {statement : Statement}
    (h : (draft.readStatement types line statement).findings = draft.findings) :
    Accepts types draft (draft.readStatement types line statement) := by
  unfold readStatement at h ⊢
  dsimp only at h ⊢
  split at h
  · next hpart _ => exact accepts_readUnit hpart h
  · exact absurd h findings_note_cons_ne
  · next hpart _ => exact accepts_readRenderer hpart h
  · next hpart _ => exact accepts_readInjection hpart h
  · next hpart _ => exact accepts_readExecute hpart h
  · next hpart _ => exact accepts_readLiteral hpart h
  · next hpart _ => exact accepts_readWrite hpart h
  · next hpart _ => exact .done hpart
  · exact absurd h findings_note_cons_ne
  · exact absurd h findings_note_cons_ne

/-! ## Sources without findings -/

theorem reflTransGen_accepts_readLines {before : Nat} {texts : List (List Char)}
    (h : (draft.readLines types before texts).findings = []) :
    Relation.ReflTransGen (Accepts types) draft (draft.readLines types before texts) := by
  induction texts generalizing draft before with
  | nil => exact .refl
  | cons text texts ih =>
    refine .trans ?_ (ih h)
    -- Findings stay, so neither the line nor what was read before it has any.
    have hread : (draft.readLine types (before + 1) text).findings = [] :=
      List.prefix_nil.mp (h ▸ findings_prefix_readLines ..)
    obtain ⟨rest, -, hextends⟩ := exists_extends_readLine types draft (before + 1) text
    have hbefore : draft.findings = [] := List.prefix_nil.mp (hread ▸ hextends.findings)
    rw [readLine] at hread ⊢
    split at hread
    · exact .refl
    · exact .single (accepts_readStatement (hread.trans hbefore.symm))

/-- A source without findings is accepted from its first statement to the end of its
instructions. -/
theorem reflTransGen_accepts {source : List Char} (h : (ofSource types [] source).findings = []) :
    Relation.ReflTransGen (Accepts types) (start []) (ofSource types [] source)
      ∧ (ofSource types [] source).part = .done := by
  rw [ofSource] at h ⊢
  have hread := reflTransGen_accepts_readLines (findings_eq_nil_of_finish h)
  unfold finish at h ⊢
  split at h
  · next hpart => exact ⟨hread, hpart⟩
  · exact absurd (List.append_eq_nil_iff.mp h).2 (List.cons_ne_nil _ _)
  · exact absurd (List.append_eq_nil_iff.mp h).2 (List.cons_ne_nil _ _)
  · exact absurd (List.append_eq_nil_iff.mp h).2 (List.cons_ne_nil _ _)

/-- What statements that are accepted keep: whatever the next part of a source relies on has been
declared. -/
structure IsDeclared (types : TypeTable) (draft : Draft) : Prop where
  /-- Behind the unit statement, the unit has a name. -/
  unit : draft.part ≠ .header → draft.unit ≠ ""
  /-- A renderer has a proper name and is bound to known types. -/
  renderer : ∀ name base, draft.renderer = some (name, base) →
    isIdentifier name.toList = true ∧ types.contains base.name = true
      ∧ types.contains base.model = true
  /-- Behind the declarations, there is a renderer. -/
  declared : draft.part = .body ∨ draft.part = .done → draft.renderer ≠ none

theorem isDeclared_start (types : TypeTable) (findings : List Finding) :
    (start findings).IsDeclared types where
  unit hpart := absurd rfl hpart
  renderer _ _ heq := nomatch heq
  declared hpart := by
    rcases hpart with hpart | hpart <;> cases hpart

theorem IsDeclared.accepts (h : draft.IsDeclared types) (hstep : Accepts types draft extended) :
    extended.IsDeclared types := by
  cases hstep with
  | unit hpart hname =>
    exact
      { unit := fun _ => hname
        renderer := h.renderer
        declared := fun hlater => by rcases hlater with hlater | hlater <;> cases hlater }
  | renderer hpart hnew hname hcontract hmodel =>
    exact
      { unit := h.unit
        renderer := fun name base heq => by
          obtain ⟨rfl, rfl⟩ := Prod.mk.inj (Option.some.inj heq)
          exact ⟨hname, hcontract, hmodel⟩
        declared := fun _ => Option.some_ne_none _ }
  | injection hpart hname hmodel hnew => exact ⟨h.unit, h.renderer, h.declared⟩
  | execute hpart hrenderer =>
    exact ⟨fun _ => h.unit (by rw [hpart]; exact Part.noConfusion), h.renderer, fun _ => hrenderer⟩
  | literal hpart => exact ⟨h.unit, h.renderer, h.declared⟩
  | write hpart hproblems => exact ⟨h.unit, h.renderer, h.declared⟩
  | done hpart =>
    exact ⟨fun _ => h.unit (by rw [hpart]; exact Part.noConfusion), h.renderer,
      fun _ => h.declared (Or.inl hpart)⟩

theorem IsDeclared.of_reflTransGen (h : draft.IsDeclared types)
    (hsteps : Relation.ReflTransGen (Accepts types) draft extended) :
    extended.IsDeclared types := by
  induction hsteps with
  | refl => exact h
  | tail _ hstep ih => exact ih.accepts hstep

/-- Without a finding, the unit is named, and its renderer has a proper name and known types. -/
theorem exists_renderer_of_findings_eq_nil {source : List Char}
    (h : (ofSource types [] source).findings = []) :
    (ofSource types [] source).unit ≠ ""
      ∧ ∃ name base, (ofSource types [] source).renderer = some (name, base)
        ∧ isIdentifier name.toList = true ∧ types.contains base.name = true
        ∧ types.contains base.model = true := by
  obtain ⟨hsteps, hpart⟩ := reflTransGen_accepts h
  have hdeclared := (isDeclared_start types []).of_reflTransGen hsteps
  have hsome := hdeclared.declared (Or.inr hpart)
  obtain ⟨⟨name, base⟩, hrenderer⟩ := Option.ne_none_iff_exists'.mp hsome
  exact ⟨hdeclared.unit (by rw [hpart]; exact Part.noConfusion), name, base, hrenderer,
    hdeclared.renderer name base hrenderer⟩

/-! ## Findings of lines -/

/-- What a statement finds stands in its line. -/
theorem exists_findings_readStatement (types : TypeTable) (draft : Draft) (line : Nat)
    (statement : Statement) :
    ∃ problems : List Problem, (draft.readStatement types line statement).findings
      = draft.findings ++ problems.map (⟨some line, ·⟩) := by
  have hnone : ∃ problems : List Problem,
      draft.findings = draft.findings ++ problems.map (⟨some line, ·⟩) :=
    ⟨[], (List.append_nil _).symm⟩
  unfold readStatement
  dsimp only
  split
  · exact ⟨_, rfl⟩
  · exact ⟨_, rfl⟩
  · unfold readRenderer
    split
    · exact ⟨_, rfl⟩
    · split
      · exact ⟨_, rfl⟩
      · dsimp only
        split <;> exact ⟨_, rfl⟩
  · unfold readInjection
    dsimp only
    split
    · exact ⟨_, rfl⟩
    · split
      · exact ⟨_, rfl⟩
      · exact hnone
  · exact ⟨_, rfl⟩
  · unfold readLiteral
    split
    · exact hnone
    · exact ⟨_, rfl⟩
  · unfold readWrite
    split <;> exact ⟨_, rfl⟩
  · exact hnone
  · exact ⟨_, rfl⟩
  · exact ⟨_, rfl⟩

theorem exists_findings_readLines (types : TypeTable) (draft : Draft) (before : Nat)
    (texts : List (List Char)) :
    ∃ noted, (draft.readLines types before texts).findings = draft.findings ++ noted
      ∧ ∀ finding ∈ noted, finding.line ≠ none := by
  induction texts generalizing draft before with
  | nil => exact ⟨[], (List.append_nil _).symm, fun finding h => absurd h List.not_mem_nil⟩
  | cons text texts ih =>
    obtain ⟨noted, hnoted, hlines⟩ := ih (draft.readLine types (before + 1) text) (before + 1)
    rw [readLines, hnoted, readLine]
    split
    · exact ⟨noted, rfl, hlines⟩
    · next statement _ =>
      obtain ⟨problems, hproblems⟩ :=
        exists_findings_readStatement types draft (before + 1) statement
      rw [hproblems, List.append_assoc]
      refine ⟨_, rfl, fun finding hfinding => ?_⟩
      rcases List.mem_append.mp hfinding with hfinding | hfinding
      · obtain ⟨problem, -, rfl⟩ := List.mem_map.mp hfinding
        exact Option.some_ne_none _
      · exact hlines finding hfinding

/-- Whatever is found in a source stands in one of its lines and comes after what is wrong with the
modules. -/
theorem exists_findings_ofSource (types : TypeTable) (findings : List Finding)
    (source : List Char) :
    ∃ noted, (ofSource types findings source).findings = findings ++ noted
      ∧ ∀ finding ∈ noted, finding.line ≠ none := by
  obtain ⟨noted, hnoted, hlines⟩ :=
    exists_findings_readLines types (start findings) 0 (lines source)
  have hmissing : ∀ problem, ∃ noted, ((start findings).readLines types 0 (lines source)).findings
      ++ [⟨some (lines source).length, problem⟩] = findings ++ noted
        ∧ ∀ finding ∈ noted, finding.line ≠ none := by
    intro problem
    rw [hnoted, List.append_assoc]
    refine ⟨_, rfl, List.forall_mem_append.mpr ⟨hlines, ?_⟩⟩
    exact List.forall_mem_singleton.mpr (Option.some_ne_none _)
  rw [ofSource]
  unfold finish
  split
  · exact ⟨noted, hnoted, hlines⟩
  · exact hmissing .missingEnd
  · exact hmissing .missingExecute
  · exact hmissing .missingExecute

end Draft

/-! ## Compiled units -/

variable {source : String} {references : References}

/-- Without a finding, every module can be read. -/
theorem moduleFindings_eq_nil (h : (draftOf source references).findings = []) :
    moduleFindings (readModules references) = [] := by
  obtain ⟨noted, hnoted, -⟩ := Draft.exists_findings_ofSource (knownTypes references)
    (moduleFindings (readModules references)) source.toList
  exact (List.append_eq_nil_iff.mp (hnoted.symm.trans h)).1

theorem exists_renderer_of_draftOf (h : (draftOf source references).findings = []) :
    (draftOf source references).unit ≠ ""
      ∧ ∃ name base, (draftOf source references).renderer = some (name, base)
        ∧ isIdentifier name.toList = true ∧ (knownTypes references).contains base.name = true
        ∧ (knownTypes references).contains base.model = true := by
  have hmodules := moduleFindings_eq_nil h
  rw [draftOf, hmodules] at h ⊢
  exact Draft.exists_renderer_of_findings_eq_nil h

/-- A compilation fails with what has been found, and with nothing else: without a finding there is
a renderer. -/
theorem compile_eq_error_iff {findings : List Finding} :
    compile source references = .error findings
      ↔ findings ≠ [] ∧ (draftOf source references).findings = findings := by
  rw [compile_eq]
  by_cases hnone : (draftOf source references).findings = []
  · obtain ⟨-, name, base, hrenderer, -⟩ := exists_renderer_of_draftOf hnone
    rw [if_pos (List.isEmpty_iff.mpr hnone), Draft.image?, hrenderer, hnone]
    exact ⟨fun h => (nomatch h), fun h => absurd h.2.symm h.1⟩
  · rw [if_neg (fun h => hnone (List.isEmpty_iff.mp h)), Except.error.injEq]
    exact ⟨fun h => ⟨h ▸ hnone, h⟩, And.right⟩

/-- Whatever a source is compiled to is well formed. -/
theorem isWellFormed_of_compile {image : UnitImage} (h : compile source references = .ok image) :
    image.IsWellFormed (knownTypes references) := by
  obtain ⟨hnone, himage⟩ := compile_eq_ok_iff.mp h
  obtain ⟨hunit, name, base, hrenderer, hname, hcontract, hmodel⟩ :=
    exists_renderer_of_draftOf hnone
  have hbound := isBound_of_compile h
  rw [Draft.image?, hrenderer, Option.map_some, Option.some.injEq] at himage
  subst himage
  exact
    { named := hunit
      single := ⟨_, rfl,
        { toIsBound := hbound _ List.mem_cons_self
          name := hname
          contract := hcontract
          model := hmodel }⟩ }

/-- What is found is never that there is no renderer: a source without one has another fault. -/
theorem missingRenderer_not_mem {findings : List Finding}
    (h : compile source references = .error findings) : ⟨none, .missingRenderer⟩ ∉ findings := by
  obtain ⟨-, rfl⟩ := compile_eq_error_iff.mp h
  obtain ⟨noted, hnoted, hlines⟩ := Draft.exists_findings_ofSource (knownTypes references)
    (moduleFindings (readModules references)) source.toList
  rw [draftOf, hnoted, List.mem_append]
  rintro (hmem | hmem)
  · obtain ⟨entry, -, heq⟩ := List.mem_map.mp hmem
    cases heq
  · exact hlines _ hmem rfl

/-- Whatever source is compiled, the bytes are those of a well-formed unit: it has a name and one
renderer, whose name is an identifier, whose contract and model type are known, whose dependencies
have distinct proper names, and whose paths start at the model or at a dependency. Where no renderer
has been declared something has been found, so that a compilation never fails for want of a renderer
alone. -/
theorem isWellFormed_of_build (source : String) (references : References) :
    (∀ bytes, build source references = .ok bytes →
        ∃ image : UnitImage, bytes = image.bytes ∧ image.IsWellFormed (knownTypes references))
      ∧ ((draftOf source references).renderer = none → (draftOf source references).findings ≠ [])
      ∧ ∀ findings, compile source references = .error findings →
        findings ≠ [] ∧ ⟨none, .missingRenderer⟩ ∉ findings := by
  refine ⟨fun bytes hbuild => ?_, fun hnone hfindings => ?_, fun findings hcompile => ?_⟩
  · obtain ⟨image, hcompile, hbytes⟩ := exists_compile_of_build hbuild
    exact ⟨image, hbytes, isWellFormed_of_compile hcompile⟩
  · obtain ⟨-, name, base, hrenderer, -⟩ := exists_renderer_of_draftOf hfindings
    rw [hnone] at hrenderer
    cases hrenderer
  · exact ⟨(compile_eq_error_iff.mp hcompile).1, missingRenderer_not_mem hcompile⟩

/-- A source written by hand, with comments, blank lines and a chain in a chain, makes a well-formed
unit. One that declares no renderer has something found in it. -/
theorem exists_isWellFormed_view :
    ∃ references bytes image findings,
      build ("// view\n\tunit  u v\r\nrenderer View : a < b >\n\ninject Clock\ninject _2\nexecute\n"
          ++ "write (Clock.now ?? _2) ?? Model.x\n literal \"\\u00e9\"\n//\nend") references
        = .ok bytes
        ∧ bytes = UnitImage.bytes image ∧ image.IsWellFormed (knownTypes references)
        ∧ (draftOf "unit u\nexecute\nwrite Clock\nend" references).renderer = none
        ∧ (draftOf "unit u\nexecute\nwrite Clock\nend" references).findings ≠ []
        ∧ compile "unit u\nexecute\nwrite Clock\nend" references = .error findings
        ∧ ⟨none, .missingRenderer⟩ ∉ findings := by
  let references : References :=
    .ofList [("demo", (Module.mk "demo" [.sealed "a", .sealed "b"]).bytes)]
  let view : String :=
    "// view\n\tunit  u v\r\nrenderer View : a < b >\n\ninject Clock\ninject _2\nexecute\n"
      ++ "write (Clock.now ?? _2) ?? Model.x\n literal \"\\u00e9\"\n//\nend"
  let bare : String := "unit u\nexecute\nwrite Clock\nend"
  have hbuilt : (build view references).isOk = true := by decide +kernel
  obtain ⟨bytes, hbuild⟩ := exists_ok_of_isOk hbuilt
  obtain ⟨image, hbytes, himage⟩ := (isWellFormed_of_build view references).1 bytes hbuild
  have hrenderer : (draftOf bare references).renderer = none := by
    rw [← Option.isNone_iff_eq_none]
    decide +kernel
  obtain ⟨-, hfound, hfailed⟩ := isWellFormed_of_build bare references
  have hcompile : compile bare references = .error (draftOf bare references).findings :=
    compile_eq_error_iff.mpr ⟨hfound hrenderer, rfl⟩
  exact ⟨references, bytes, image, _, hbuild, hbytes, himage, hrenderer, hfound hrenderer, hcompile,
    (hfailed _ hcompile).2⟩

end Unit

end Stencil
