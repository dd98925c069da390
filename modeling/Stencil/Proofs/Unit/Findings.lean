import Mathlib
import Stencil.Source.Text
import Stencil.Unit.Compiler

/-!
# What is wrong with a document

The findings of a document, told from its segments. Declarations and instructions stand one a line,
so every finding is known by its own segment and the number of segments of its kind before it.
-/

namespace Stencil.Expression

mutual

/-- The paths of an expression, from the left to the right. -/
def paths : Expression → List (String × List Step)
  | .path root steps => [(root, steps)]
  | .literal _ => []
  | .coalesce operands => operandPaths operands

/-- The paths of the operands of a chain. -/
def operandPaths : List Expression → List (String × List Step)
  | [] => []
  | operand :: operands => paths operand ++ operandPaths operands

end

/-- Whether every path of an expression starts at the model or at one of the given names. -/
def IsBound (names : List String) (e : Expression) : Prop :=
  ∀ path ∈ e.paths, path.1 = modelRoot ∨ path.1 ∈ names

theorem IsBound.mono {names more : List String} {e : Expression} (h : e.IsBound names)
    (hmore : names ⊆ more) : e.IsBound more :=
  fun path hpath => (h path hpath).imp id fun hmem => hmore hmem

theorem IsBound.of_cons {names : List String} {operand : Expression} {operands : List Expression}
    (h : (coalesce (operand :: operands)).IsBound names) : operand.IsBound names :=
  fun path hpath => h path (List.mem_append_left _ hpath)

theorem IsBound.of_cons_rest {names : List String} {operand : Expression}
    {operands : List Expression} (h : (coalesce (operand :: operands)).IsBound names) :
    (coalesce operands).IsBound names :=
  fun path hpath => h path (List.mem_append_right _ hpath)

end Stencil.Expression

/-- Whether a renderer needs distinct names, and all its paths start at the model or at one of
them. -/
structure Stencil.RendererImage.IsBound (image : RendererImage) : Prop where
  /-- The dependencies have distinct names. -/
  distinct : image.dependencies.Nodup
  /-- The name of a dependency is an identifier and not the name of the model. -/
  named : ∀ name ∈ image.dependencies,
    Text.isIdentifier name.toList = true ∧ name ≠ Expression.modelRoot
  /-- Every path starts at the model or at a dependency. -/
  body : ∀ e, .write e ∈ image.body → e.IsBound image.dependencies

namespace Stencil.Unit

/-! ## Paths -/

/-- The members that lead from a type to another one, and how the way to each is told. -/
inductive Leads (types : TypeTable) : String → String → List String → String → String → Prop
  /-- No member leads nowhere. -/
  | here {type walked : String} : Leads types type walked [] type walked
  /-- A member that a schema declares leads to the type of that member. -/
  | member {type walked name next last way : String} {schema : Schema} {names : List String}
      (htype : types.get? type = some schema) (hmember : schema.member name = .declared next)
      (hrest : Leads types next (walked ++ "." ++ name) names last way) :
      Leads types type walked (name :: names) last way

mutual

/-- The problems of an expression are those of its paths. -/
theorem expressionProblems_eq_flatMap (scope : Scope) (e : Expression) :
    expressionProblems scope e = e.paths.flatMap fun path => pathProblems scope path.1 path.2 := by
  cases e with
  | path root steps => simp [expressionProblems, Expression.paths]
  | literal value => rfl
  | coalesce operands =>
    rw [expressionProblems, Expression.paths]
    exact operandProblems_eq_flatMap scope operands

theorem operandProblems_eq_flatMap (scope : Scope) (operands : List Expression) :
    operandProblems scope operands
      = (Expression.operandPaths operands).flatMap fun path =>
          pathProblems scope path.1 path.2 := by
  cases operands with
  | nil => rfl
  | cons operand operands =>
    rw [operandProblems, Expression.operandPaths, List.flatMap_append,
      expressionProblems_eq_flatMap scope operand, operandProblems_eq_flatMap scope operands]

end

/-- An expression without problems starts every path at the model or at a declared dependency. -/
theorem isBound_of_expressionProblems {scope : Scope} {e : Expression}
    (h : expressionProblems scope e = []) : e.IsBound scope.dependencies := by
  intro path hpath
  rw [expressionProblems_eq_flatMap, List.flatMap_eq_nil_iff] at h
  have hproblems := h path hpath
  rw [pathProblems] at hproblems
  by_cases hroot : path.1 = Expression.modelRoot
  · exact Or.inl hroot
  · rw [if_neg hroot] at hproblems
    split at hproblems
    · next hmem => exact Or.inr hmem
    · cases hproblems

/-! ## Declarations -/

/-- The findings of the declarations of dependencies from the given line on. -/
def injectionFindings (line : Nat) (names : List String) : List Finding :=
  (names.zipIdx line).flatMap fun (name, line) =>
    if name = Expression.modelRoot then [⟨some line, .repeatedDependency name⟩] else []

theorem injectionFindings_cons (line : Nat) (name : String) (names : List String) :
    injectionFindings line (name :: names)
      = (if name = Expression.modelRoot then [⟨some line, .repeatedDependency name⟩] else [])
        ++ injectionFindings (line + 1) names := by
  rw [injectionFindings, List.zipIdx_cons, List.flatMap_cons]
  rfl

theorem not_mem_of_injectionFindings {line : Nat} {names : List String}
    (h : injectionFindings line names = []) : Expression.modelRoot ∉ names := by
  induction names generalizing line with
  | nil => exact List.not_mem_nil
  | cons name names ih =>
    rw [injectionFindings_cons, List.append_eq_nil_iff] at h
    intro hmem
    rcases List.mem_cons.mp hmem with rfl | hmem
    · rw [if_pos rfl] at h
      cases h.1
    · exact ih h.2 hmem

/-- The findings of the declarations of a source. -/
def declarationFindings (types : TypeTable) (name : String) (names : List String) :
    List Finding :=
  (([baseContract, name].filter (!types.contains ·)).map fun type =>
      (⟨some 3, .missingType type⟩ : Finding))
    ++ injectionFindings 4 names

/-! ## Instructions -/

end Stencil.Unit

namespace Stencil.Markup.Segment

/-- Whether a segment makes an instruction. -/
def isInstruction : Segment → Bool
  | .literal _ | .expression _ => true
  | _ => false

end Stencil.Markup.Segment

namespace Stencil.Unit

open Markup (Segment)
open Source

/-- What is wrong with a segment: an expression that is none, or the paths of one. -/
def segmentProblems (scope : Scope) : Segment → List Problem
  | .expression code =>
    match Expression.parse (foldLines code).toList with
    | .error cause => [.badExpression (foldLines code) cause]
    | .ok e => e.paths.flatMap fun path => pathProblems scope path.1 path.2
  | _ => []

/-- The findings of instructions, one instruction a line from the given line on. -/
def instructionFindings (scope : Scope) (line : Nat) (segments : List Segment) : List Finding :=
  ((segments.filter Segment.isInstruction).zipIdx line).flatMap fun (segment, line) =>
    (segmentProblems scope segment).map (⟨some line, ·⟩)

theorem instructionFindings_cons_of_isInstruction (scope : Scope) (line : Nat) {segment : Segment}
    (h : segment.isInstruction = true) (segments : List Segment) :
    instructionFindings scope line (segment :: segments)
      = (segmentProblems scope segment).map (⟨some line, ·⟩)
        ++ instructionFindings scope (line + 1) segments := by
  rw [instructionFindings, List.filter_cons_of_pos h, List.zipIdx_cons, List.flatMap_cons]
  rfl

theorem instructionFindings_cons_of_not (scope : Scope) (line : Nat) {segment : Segment}
    (h : segment.isInstruction = false) (segments : List Segment) :
    instructionFindings scope line (segment :: segments)
      = instructionFindings scope line segments := by
  rw [instructionFindings, List.filter_cons_of_neg (by rw [h]; exact Bool.false_ne_true)]
  rfl

theorem segmentProblems_eq_nil_of_mem {scope : Scope} {line : Nat} {segments : List Segment}
    (h : instructionFindings scope line segments = []) {segment : Segment}
    (hmem : segment ∈ segments) : segmentProblems scope segment = [] := by
  induction segments generalizing line with
  | nil => exact absurd hmem List.not_mem_nil
  | cons first segments ih =>
    cases hfirst : first.isInstruction with
    | true =>
      rw [instructionFindings_cons_of_isInstruction _ _ hfirst, List.append_eq_nil_iff,
        List.map_eq_nil_iff] at h
      rcases List.mem_cons.mp hmem with rfl | hmem
      · exact h.1
      · exact ih h.2 hmem
    | false =>
      rw [instructionFindings_cons_of_not _ _ hfirst] at h
      rcases List.mem_cons.mp hmem with rfl | hmem
      · cases segment with
        | inherits contract model => rfl
        | inject name => rfl
        | literal text => rfl
        | expression code => cases hfirst
      · exact ih h hmem

/-! ## Documents -/

/-- The findings of modules that cannot be read, in the order of their names. -/
def referenceFindings (references : References) : List Finding :=
  (references.entries.filter fun entry => (Module.ofBytes? entry.2).isNone).map fun entry =>
    ⟨none, .unreadableModule entry.1⟩

theorem moduleFindings_readModules (references : References) :
    moduleFindings (readModules references) = referenceFindings references := by
  rw [moduleFindings, readModules, List.filter_map, List.map_map]
  rfl

/-- What the expressions of segments are checked against, with a model type of the given name. -/
def segmentScope (types : TypeTable) (name : String) (segments : List Segment) : Scope where
  types
  model := some name
  dependencies := (segments.filterMap Segment.injection?).filter (· ≠ Expression.modelRoot)

/-- What is wrong with segments that are bound to the named model type and with the modules that
they refer to. -/
def segmentFindings (references : References) (name : String) (segments : List Segment) :
    List Finding :=
  let types := typeTable ((readModules references).filterMap (·.2))
  let names := segments.filterMap Segment.injection?
  referenceFindings references
    ++ (declarationFindings types name names
      ++ instructionFindings (segmentScope types name segments) (names.length + 5) segments)

end Stencil.Unit
