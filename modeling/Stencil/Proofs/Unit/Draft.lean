import Mathlib
import Stencil.Proofs.Text.Lines
import Stencil.Proofs.Text.Trimming
import Stencil.Proofs.Unit.Findings
import Stencil.Unit.Compiler

/-!
# Reading renderer source line by line

What one line can do to a draft is told once, by `Extends`. What follows for all lines follows from
it: findings are only ever added (`findings_prefix_readLines`), no renderer is bound to a model type
whose name holds a line feed, dependencies are distinct names, and whatever is written has been
parsed and, if nothing is found, starts at the model or at a dependency (`isWellRead_ofSource`).
-/

namespace Stencil.Unit

open Text

/-! ## Statements -/

/-- A keyword and what follows it, both without blanks around them, make a statement. -/
theorem Statement.ofLine?_eq_some {indent keyword rest : List Char} {first : Char}
    (hindent : indent.all isBlank = true) (hkeyword : keyword.all (!isBlank ·) = true)
    (hfirst : keyword.head? = some first) (hslash : first ≠ '/') (hrest : IsTrimmed rest)
    (hne : rest ≠ []) :
    ofLine? (indent ++ (keyword ++ ' ' :: rest)) = some ⟨keyword, rest⟩ := by
  rw [List.all_eq_true] at hindent hkeyword
  obtain ⟨more, rfl⟩ := List.head?_eq_some_iff.mp hfirst
  have hword : IsTrimmed (first :: more) :=
    { head := fun c hc => by simpa using hkeyword c (List.mem_of_head? hc)
      last := fun c hc => by simpa using hkeyword c (List.mem_of_getLast? hc) }
  have htrimmed : IsTrimmed (first :: more ++ ' ' :: rest) :=
    hword.append (by simp) hrest hne [' ']
  rw [ofLine?, trim_append_of_isBlank hindent, trim_eq_self htrimmed]
  split
  · next hnil => cases hnil
  · next hcons => exact absurd (List.cons.inj hcons).1 hslash
  · rw [List.takeWhile_append_of_pos hkeyword, List.dropWhile_append_of_pos hkeyword]
    have hblank : isBlank ' ' = true := by decide
    simp [hblank, trim_cons_of_isBlank hblank, trim_eq_self hrest]

theorem readLine_dropReturn (types : TypeTable) (draft : Draft) (line : Nat) (text : List Char) :
    draft.readLine types line (dropReturn text) = draft.readLine types line text := by
  rw [Draft.readLine, Draft.readLine, Statement.ofLine?, Statement.ofLine?, trim_dropReturn]

namespace Draft

/-! ## What a line does -/

theorem mem_of_mem_trim {c : Char} {text : List Char} (h : c ∈ trim text) : c ∈ text := by
  rw [trim, List.mem_reverse] at h
  have := (List.dropWhile_suffix isBlank).subset h
  rw [List.mem_reverse] at this
  exact (List.dropWhile_suffix isBlank).subset this

theorem mem_of_splitAtFirst {mark c : Char} {text front rest : List Char}
    (h : splitAtFirst mark text = some (front, rest)) (hc : c ∈ rest) : c ∈ text := by
  unfold splitAtFirst at h
  split at h
  · obtain ⟨-, rfl⟩ := Prod.mk.inj (Option.some.inj h)
    exact (List.dropWhile_suffix _).subset ((List.drop_suffix 1 _).subset hc)
  · cases h

theorem mem_of_boundContract? {c : Char} {text : List Char} {base : Contract}
    (h : boundContract? text = some base) (hc : c ∈ base.model.toList) : c ∈ text := by
  unfold boundContract? at h
  split at h
  · obtain ⟨⟨name, model⟩, hsplit, rfl⟩ := Option.map_eq_some_iff.mp h
    rw [String.toList_ofList] at hc
    exact List.mem_of_mem_dropLast (mem_of_splitAtFirst hsplit (mem_of_mem_trim hc))
  · cases h

theorem mem_of_ofLine? {c : Char} {text : List Char} {statement : Statement}
    (h : Statement.ofLine? text = some statement) (hc : c ∈ statement.rest) : c ∈ text := by
  unfold Statement.ofLine? at h
  split at h
  · cases h
  · cases h
  · obtain rfl := Option.some.inj h
    exact mem_of_mem_trim ((List.dropWhile_suffix _).subset (mem_of_mem_trim hc))

/-- What a statement with the given rest may do to a draft. -/
structure Extends (rest : List Char) (draft extended : Draft) : Prop where
  /-- Findings are added. -/
  findings : draft.findings <+: extended.findings
  /-- A renderer is bound to a name out of the statement. -/
  renderer : extended.renderer = draft.renderer
    ∨ ∃ name base, extended.renderer = some (name, base) ∧ ∀ c ∈ base.model.toList, c ∈ rest
  /-- A dependency is added under a new name. -/
  dependencies : extended.dependencies = draft.dependencies
    ∨ ∃ name, extended.dependencies = draft.dependencies ++ [name]
      ∧ isIdentifier name.toList = true ∧ name ≠ Expression.modelRoot ∧ name ∉ draft.dependencies
  /-- An instruction is added, and an expression is the one that the statement says. If nothing is
  found, it depends on what is declared. -/
  body : extended.body = draft.body
    ∨ ∃ instruction, extended.body = draft.body ++ [instruction]
      ∧ ∀ e, instruction = .write e → Expression.parse rest = .ok e
        ∧ (extended.findings = [] → e.IsBound draft.dependencies)

/-- What has been declared stays. -/
theorem Extends.dependencies_subset {rest : List Char} {draft extended : Draft}
    (h : Extends rest draft extended) : draft.dependencies ⊆ extended.dependencies := by
  rcases h.dependencies with heq | ⟨name, heq, -⟩
  · exact heq ▸ List.Subset.refl _
  · exact heq ▸ List.subset_append_left _ _

theorem extends_refl (rest : List Char) (draft : Draft) : Extends rest draft draft :=
  ⟨List.prefix_rfl, Or.inl rfl, Or.inl rfl, Or.inl rfl⟩

theorem extends_note (rest : List Char) (draft : Draft) (line : Nat) (problems : List Problem) :
    Extends rest draft (draft.note line problems) :=
  ⟨List.prefix_append _ _, Or.inl rfl, Or.inl rfl, Or.inl rfl⟩

theorem extends_readRenderer (types : TypeTable) (draft : Draft) (line : Nat) (rest : List Char) :
    Extends rest draft (draft.readRenderer types line rest) := by
  unfold readRenderer
  split
  · exact extends_note ..
  · split
    · exact extends_note ..
    · next name contract hsplit =>
      dsimp only
      split
      · exact extends_note ..
      · next base hbase =>
        exact
          { findings := List.prefix_append _ _
            renderer := Or.inr ⟨_, base, rfl, fun c hc =>
              mem_of_splitAtFirst hsplit (mem_of_mem_trim (mem_of_boundContract? hbase hc))⟩
            dependencies := Or.inl rfl
            body := Or.inl rfl }

theorem extends_readInjection (draft : Draft) (line : Nat) (rest : List Char) :
    Extends rest draft (draft.readInjection line rest) := by
  unfold readInjection
  dsimp only
  split
  · exact extends_note ..
  · next hidentifier =>
    split
    · exact extends_note ..
    · next hnew =>
      rw [not_or] at hnew
      have hname : isIdentifier (String.ofList rest).toList = true := by
        rw [String.toList_ofList]
        simpa using hidentifier
      exact
        { findings := List.prefix_rfl
          renderer := Or.inl rfl
          dependencies := Or.inr ⟨_, rfl, hname, hnew.1, hnew.2⟩
          body := Or.inl rfl }

theorem extends_readLiteral (draft : Draft) (line : Nat) (rest : List Char) :
    Extends rest draft (draft.readLiteral line rest) := by
  unfold readLiteral
  split
  · next text _ =>
    exact ⟨List.prefix_rfl, Or.inl rfl, Or.inl rfl, Or.inr ⟨_, rfl, fun e heq => nomatch heq⟩⟩
  · exact extends_note ..

theorem extends_readWrite (types : TypeTable) (draft : Draft) (line : Nat) (rest : List Char) :
    Extends rest draft (draft.readWrite types line rest) := by
  unfold readWrite
  split
  · exact extends_note ..
  · next e hparse =>
    refine ⟨List.prefix_append _ _, Or.inl rfl, Or.inl rfl, Or.inr ⟨_, rfl, ?_⟩⟩
    intro e' heq
    obtain rfl := Instruction.write.inj heq
    refine ⟨hparse, fun hnone => ?_⟩
    have hproblems : expressionProblems (draft.scope types) e = [] :=
      List.map_eq_nil_iff.mp (List.append_eq_nil_iff.mp hnone).2
    exact isBound_of_expressionProblems hproblems

theorem extends_readStatement (types : TypeTable) (draft : Draft) (line : Nat)
    (statement : Statement) :
    Extends statement.rest draft (draft.readStatement types line statement) := by
  unfold readStatement
  dsimp only
  split
  · exact ⟨List.prefix_append _ _, Or.inl rfl, Or.inl rfl, Or.inl rfl⟩
  · exact ⟨List.prefix_append _ _, Or.inl rfl, Or.inl rfl, Or.inl rfl⟩
  · exact extends_readRenderer ..
  · exact extends_readInjection ..
  · exact ⟨List.prefix_append _ _, Or.inl rfl, Or.inl rfl, Or.inl rfl⟩
  · exact extends_readLiteral ..
  · exact extends_readWrite ..
  · exact ⟨List.prefix_rfl, Or.inl rfl, Or.inl rfl, Or.inl rfl⟩
  · exact extends_note ..
  · exact extends_note ..

/-- Whatever a line does, it does with some of its characters. -/
theorem exists_extends_readLine (types : TypeTable) (draft : Draft) (line : Nat)
    (text : List Char) :
    ∃ rest, (∀ c ∈ rest, c ∈ text) ∧ Extends rest draft (draft.readLine types line text) := by
  unfold readLine
  split
  · exact ⟨[], fun c hc => absurd hc List.not_mem_nil, extends_refl ..⟩
  · next statement hstatement =>
    exact ⟨statement.rest, fun c hc => mem_of_ofLine? hstatement hc, extends_readStatement ..⟩

/-! ## What all lines do -/

/-- What has been found stays. -/
theorem findings_prefix_readLines (types : TypeTable) (draft : Draft) (before : Nat)
    (texts : List (List Char)) :
    draft.findings <+: (draft.readLines types before texts).findings := by
  induction texts generalizing draft before with
  | nil => exact List.prefix_rfl
  | cons text texts ih =>
    obtain ⟨rest, -, hextends⟩ := exists_extends_readLine types draft (before + 1) text
    exact hextends.findings.trans (ih ..)

theorem findings_eq_nil_of_finish {draft : Draft} {lineCount : Nat}
    (h : (draft.finish lineCount).findings = []) : draft.findings = [] := by
  have hprefix : draft.findings <+: (draft.finish lineCount).findings := by
    unfold finish
    split
    · exact List.prefix_rfl
    · exact List.prefix_append _ _
    · exact List.prefix_append _ _
    · exact List.prefix_append _ _
  rwa [h, List.prefix_nil] at hprefix

/-- What holds of a draft whatever lines it has been read from. -/
structure IsWellRead (draft : Draft) : Prop where
  /-- The renderer is bound to a name without a line feed. -/
  renderer : ∀ name base, draft.renderer = some (name, base) → '\n' ∉ base.model.toList
  /-- The dependencies have distinct names. -/
  distinct : draft.dependencies.Nodup
  /-- The name of a dependency is an identifier and not the name of the model. -/
  named : ∀ name ∈ draft.dependencies, isIdentifier name.toList = true ∧ name ≠ Expression.modelRoot
  /-- Every expression has been parsed. -/
  body : ∀ e, .write e ∈ draft.body → ∃ code, Expression.parse code = .ok e
  /-- If nothing is found, every expression depends on what is declared. -/
  bound : draft.findings = [] → ∀ e, .write e ∈ draft.body → e.IsBound draft.dependencies

theorem isWellRead_of_extends {rest : List Char} {draft extended : Draft}
    (hextends : Extends rest draft extended) (hrest : '\n' ∉ rest) (h : draft.IsWellRead) :
    extended.IsWellRead where
  renderer := by
    intro name base hrenderer
    rcases hextends.renderer with heq | ⟨name', base', heq, hmem⟩
    · exact h.renderer name base (heq ▸ hrenderer)
    · rw [heq, Option.some.injEq, Prod.mk.injEq] at hrenderer
      obtain ⟨-, rfl⟩ := hrenderer
      exact fun hfeed => hrest (hmem _ hfeed)
  distinct := by
    rcases hextends.dependencies with heq | ⟨name, heq, -, -, hnew⟩
    · exact heq ▸ h.distinct
    · rw [heq, List.nodup_append]
      refine ⟨h.distinct, List.nodup_singleton name, fun other hother last hlast => ?_⟩
      rw [List.mem_singleton.mp hlast]
      exact fun hsame => hnew (hsame ▸ hother)
  named := by
    intro name hname
    rcases hextends.dependencies with heq | ⟨last, heq, hidentifier, hroot, -⟩
    · exact h.named name (heq ▸ hname)
    · rw [heq, List.mem_append, List.mem_singleton] at hname
      rcases hname with hname | rfl
      · exact h.named name hname
      · exact ⟨hidentifier, hroot⟩
  body := by
    intro e he
    rcases hextends.body with heq | ⟨instruction, heq, hwritten⟩
    · exact h.body e (heq ▸ he)
    · rw [heq, List.mem_append, List.mem_singleton] at he
      rcases he with he | he
      · exact h.body e he
      · exact ⟨rest, (hwritten e he.symm).1⟩
  bound := by
    intro hnone e he
    have hbefore : draft.findings = [] := List.prefix_nil.mp (hnone ▸ hextends.findings)
    -- Dependencies are only added, so what was bound before stays bound.
    have hkept := hextends.dependencies_subset
    rcases hextends.body with heq | ⟨instruction, heq, hwritten⟩
    · exact (h.bound hbefore e (heq ▸ he)).mono hkept
    · rw [heq, List.mem_append, List.mem_singleton] at he
      rcases he with he | he
      · exact (h.bound hbefore e he).mono hkept
      · exact ((hwritten e he.symm).2 hnone).mono hkept

theorem isWellRead_readLines {types : TypeTable} {draft : Draft} {before : Nat}
    {texts : List (List Char)} (htexts : ∀ text ∈ texts, '\n' ∉ text) (h : draft.IsWellRead) :
    (draft.readLines types before texts).IsWellRead := by
  induction texts generalizing draft before with
  | nil => exact h
  | cons text texts ih =>
    rw [List.forall_mem_cons] at htexts
    obtain ⟨rest, hmem, hextends⟩ := exists_extends_readLine types draft (before + 1) text
    exact ih htexts.2 (isWellRead_of_extends hextends (fun hfeed => htexts.1 (hmem _ hfeed)) h)

theorem isWellRead_finish {draft : Draft} (lineCount : Nat) (h : draft.IsWellRead) :
    (draft.finish lineCount).IsWellRead := by
  have hnone : (draft.finish lineCount).findings = [] → draft.findings = [] :=
    findings_eq_nil_of_finish
  unfold finish at hnone ⊢
  split
  · exact h
  · next hpart =>
    rw [hpart] at hnone
    exact ⟨h.renderer, h.distinct, h.named, h.body, fun hnil => h.bound (hnone hnil)⟩
  · next hpart =>
    rw [hpart] at hnone
    exact ⟨h.renderer, h.distinct, h.named, h.body, fun hnil => h.bound (hnone hnil)⟩
  · next hpart =>
    rw [hpart] at hnone
    exact ⟨h.renderer, h.distinct, h.named, h.body, fun hnil => h.bound (hnone hnil)⟩

theorem isWellRead_ofSource (types : TypeTable) (findings : List Finding) (source : List Char) :
    (ofSource types findings source).IsWellRead := by
  have hstart : (start findings).IsWellRead :=
    { renderer := fun name base heq => nomatch heq
      distinct := List.nodup_nil
      named := fun name hname => absurd hname List.not_mem_nil
      body := fun e he => absurd he List.not_mem_nil
      bound := fun _ e he => absurd he List.not_mem_nil }
  exact isWellRead_finish _
    (isWellRead_readLines (fun text htext => not_mem_of_mem_lines htext) hstart)

end Draft

/-! ## Compilations -/

/-- The types that the modules of references define. -/
def knownTypes (references : References) : TypeTable :=
  typeTable ((readModules references).filterMap (·.2))

/-- What is read of a source that refers to modules. -/
def draftOf (source : String) (references : References) : Draft :=
  Draft.ofSource (knownTypes references) (moduleFindings (readModules references)) source.toList

theorem isWellRead_draftOf (source : String) (references : References) :
    (draftOf source references).IsWellRead :=
  Draft.isWellRead_ofSource ..

theorem compile_eq (source : String) (references : References) :
    compile source references
      = if (draftOf source references).findings.isEmpty then
          match (draftOf source references).image? with
          | some image => .ok image
          | none => .error [⟨none, .missingRenderer⟩]
        else .error (draftOf source references).findings :=
  rfl

/-- A compiled unit is that of a draft without findings. -/
theorem compile_eq_ok_iff {source : String} {references : References} {image : UnitImage} :
    compile source references = .ok image
      ↔ (draftOf source references).findings = []
        ∧ (draftOf source references).image? = some image := by
  rw [compile_eq]
  by_cases hnone : (draftOf source references).findings = []
  · rw [if_pos (List.isEmpty_iff.mpr hnone), and_iff_right hnone]
    split
    · next other hother => rw [hother, Except.ok.injEq, Option.some.injEq]
    · next hother => rw [hother]; exact ⟨fun h => (nomatch h), fun h => (nomatch h)⟩
  · rw [if_neg (fun h => hnone (List.isEmpty_iff.mp h))]
    exact ⟨fun h => (nomatch h), fun h => absurd h.1 hnone⟩

end Stencil.Unit
