import Mathlib
import Stencil.Proofs.Expression.Folding
import Stencil.Proofs.Markup.Document
import Stencil.Proofs.Unit.Findings
import Stencil.Proofs.Unit.Lines

/-!
# Compiling generated source

The source of a document is read back line by line. As long as every row of it is one line, the
draft it is read into holds the instructions and the findings of the segments, one after the other
(`ofSource_generate`). Only an expression that escapes a line feed breaks a row of instructions, and
what is left of it in its first line is no expression (`not_escapesFeed_of_ofSource`).
-/

namespace Stencil.Unit

open Markup (Segment Document IsBody Quoting)
open Source
open Text

/-! ## Rows of text -/

/-- The lines of rows of text, each of which is ended by a line feed. -/
def rowLines (rows : List (List Char)) : List (List Char) :=
  rows.flatMap fun row => lines (row ++ ['\n'])

theorem lines_generate {document : Document} {source : String}
    (h : generate document = .ok source) :
    lines source.toList = rowLines ((sourceLines document).map String.toList) := by
  unfold generate at h
  split at h
  · cases h
  · rw [← Except.ok.inj h, String.toList_join, rowLines, ← lines_flatMap]
    simp [List.flatMap_map]

theorem readLines_rowLines_cons (types : TypeTable) (draft : Draft) (before : Nat) {row : List Char}
    (h : '\n' ∉ row) (rows : List (List Char)) :
    draft.readLines types before (rowLines (row :: rows))
      = (draft.readLine types (before + 1) row).readLines types (before + 1) (rowLines rows) := by
  rw [rowLines, List.flatMap_cons, lines_of_not_mem h]
  rw [List.cons_append, Draft.readLines, readLine_dropReturn]
  rfl

/-! ## Declarations -/

theorem not_mem_injection {name : String} (h : isIdentifier name.toList = true) :
    '\n' ∉ s!"inject {name}".toList := by
  rw [Draft.toList_injection]
  intro hmem
  have hname : '\n' ∈ name.toList := by simpa using hmem
  have := isBlank_of_continuesIdentifier (continuesIdentifier_of_isIdentifier h _ hname)
  exact absurd this (by decide)

theorem readLines_injections (types : TypeTable) {draft : Draft} {before : Nat}
    {names : List String} (rows : List (List Char)) (hpart : draft.part = .declarations)
    (hnames : ∀ name ∈ names, isIdentifier name.toList = true) (hnodup : names.Nodup)
    (hnew : ∀ name ∈ names, name ∉ draft.dependencies) :
    draft.readLines types before
        (rowLines ((names.map fun name => s!"inject {name}".toList) ++ rows))
      = ({ draft with
            dependencies := draft.dependencies ++ names.filter (· ≠ Expression.modelRoot)
            findings := draft.findings ++ injectionFindings (before + 1) names } : Draft).readLines
          types (before + names.length) (rowLines rows) := by
  induction names generalizing draft before with
  | nil => simp [injectionFindings]
  | cons name names ih =>
    rw [List.forall_mem_cons] at hnames hnew
    rw [List.nodup_cons] at hnodup
    rw [List.map_cons, List.cons_append, readLines_rowLines_cons _ _ _ (not_mem_injection hnames.1),
      Draft.readLine_injection hpart hnames.1, injectionFindings_cons]
    by_cases hroot : name = Expression.modelRoot
    · -- The name of the model is noted and not declared again.
      have hnoted : (draft.note (before + 1) [.repeatedDependency name]).part = .declarations :=
        hpart
      rw [if_pos (Or.inl hroot), if_pos hroot, ih hnoted hnames.2 hnodup.2 hnew.2]
      simp [Draft.note, hroot, Nat.add_assoc, Nat.add_comm 1]
    · have hadded : ({ draft with dependencies := draft.dependencies ++ [name] } : Draft).part
          = .declarations := hpart
      have hmore : ∀ other ∈ names, other ∉ draft.dependencies ++ [name] := by
        intro other hother hmem
        rcases List.mem_append.mp hmem with hmem | hmem
        · exact hnew.2 other hother hmem
        · exact hnodup.1 (List.mem_singleton.mp hmem ▸ hother)
      rw [if_neg (not_or.mpr ⟨hroot, hnew.1⟩), if_neg hroot, ih hadded hnames.2 hnodup.2 hmore]
      simp [hroot, Nat.add_assoc, Nat.add_comm 1]

/-! ## Instructions -/

end Stencil.Unit

namespace Stencil.Markup.Segment

open Source

/-- The instruction that a segment makes, if its expression is one. -/
def instructions : Segment → List Instruction
  | .literal text => [.writeLiteral text]
  | .expression code =>
    match Expression.parse code.toList with
    | .ok e => [.write e]
    | .error _ => []
  | _ => []

end Stencil.Markup.Segment

namespace Stencil.Unit

open Markup (Segment Document IsBody Quoting)
open Source
open Text

/-- The draft behind the instruction of a segment. -/
def Draft.withSegment (types : TypeTable) (draft : Draft) (line : Nat) (segment : Segment) :
    Draft :=
  { draft with
    body := draft.body ++ segment.instructions
    findings := draft.findings
      ++ (segmentProblems (draft.scope types) segment).map (⟨some line, ·⟩) }

/-- The code of an expression is read the same with and without its lines folded. -/
theorem readWrite_fold (types : TypeTable) (draft : Draft) (line : Nat) (code : String) :
    draft.readWrite types line (fold .outside code.toList)
      = draft.withSegment types line (.expression code) := by
  -- Both texts are read as the same expression, or neither is one.
  have hparse := Expression.parse_fold code.toList
  have hlist : (foldLines code).toList = fold .outside code.toList := String.toList_ofList
  rw [Draft.readWrite, Draft.withSegment, segmentProblems, Segment.instructions, hlist]
  cases hfold : Expression.parse (fold .outside code.toList) with
  | error cause =>
    rw [hfold] at hparse
    cases hcode : Expression.parse code.toList with
    | error cause' => simp [Draft.note, foldLines]
    | ok e => rw [hcode] at hparse; cases hparse
  | ok e =>
    rw [hfold] at hparse
    cases hcode : Expression.parse code.toList with
    | error cause' => rw [hcode] at hparse; cases hparse
    | ok e' =>
      rw [hcode] at hparse
      cases hparse
      simp [Draft.note, expressionProblems_eq_flatMap]

theorem isInstruction_eq_isSome (segment : Segment) :
    segment.isInstruction = (instruction? segment).isSome := by
  cases segment <;> rfl

/-- Only a line feed that an expression escapes breaks the row of an instruction. -/
theorem exists_escapesFeed_of_mem {segment : Segment} {row : String}
    (hrow : instruction? segment = some row) (hmem : '\n' ∈ row.toList) :
    ∃ code, segment = .expression code ∧ EscapesFeed .outside code.toList := by
  cases segment with
  | inherits contract model => cases hrow
  | inject name => cases hrow
  | literal text =>
    obtain rfl : "    literal " ++ jsonString text = row := Option.some.inj hrow
    exact absurd hmem (Draft.not_mem_literal text)
  | expression code =>
    obtain rfl : "    write " ++ foldLines code = row := Option.some.inj hrow
    by_contra hnone
    exact Draft.not_mem_write (fun hescapes => hnone ⟨code, rfl, hescapes⟩) hmem

/-- The row of an instruction is read back as the segment it was made from. -/
theorem readLine_instruction (types : TypeTable) {draft : Draft} (line : Nat) {segment : Segment}
    {row : String} (hpart : draft.part = .body) (hproper : segment.IsProper)
    (hrow : instruction? segment = some row) :
    draft.readLine types line row.toList = draft.withSegment types line segment := by
  cases segment with
  | inherits contract model => cases hrow
  | inject name => cases hrow
  | literal text =>
    obtain rfl : "    literal " ++ jsonString text = row := Option.some.inj hrow
    rw [Draft.readLine_literal text hpart]
    simp [Draft.withSegment, Segment.instructions, segmentProblems]
  | expression code =>
    obtain rfl : "    write " ++ foldLines code = row := Option.some.inj hrow
    obtain ⟨hne, htrimmed⟩ := hproper
    rw [Draft.toList_write, Draft.readLine_write hpart (isTrimmed_fold htrimmed) (fold_ne_nil hne),
      readWrite_fold]

theorem readLines_instructions (types : TypeTable) {draft : Draft} {before : Nat}
    {segments : List Segment} (rows : List (List Char)) (hpart : draft.part = .body)
    (hproper : ∀ segment ∈ segments, segment.IsProper)
    (hfold : ∀ code, .expression code ∈ segments → ¬ EscapesFeed .outside code.toList) :
    draft.readLines types before
        (rowLines ((segments.filterMap instruction?).map String.toList ++ rows))
      = ({ draft with
            body := draft.body ++ segments.flatMap Segment.instructions
            findings :=
              draft.findings ++ instructionFindings (draft.scope types) (before + 1) segments } :
          Draft).readLines types (before + (segments.filter Segment.isInstruction).length)
            (rowLines rows) := by
  induction segments generalizing draft before with
  | nil => simp [instructionFindings]
  | cons segment segments ih =>
    rw [List.forall_mem_cons] at hproper
    have hmore : ∀ code, .expression code ∈ segments → ¬ EscapesFeed .outside code.toList :=
      fun code hcode => hfold code (List.mem_cons_of_mem _ hcode)
    have hinstruction := isInstruction_eq_isSome segment
    cases hrow : instruction? segment with
    | none =>
      rw [hrow] at hinstruction
      have hnone : segment.instructions = [] := by
        cases segment with
        | inherits contract model => rfl
        | inject name => rfl
        | literal text => cases hrow
        | expression code => cases hrow
      rw [List.filterMap_cons_none hrow, instructionFindings_cons_of_not _ _ hinstruction,
        ih hpart hproper.2 hmore, List.flatMap_cons, hnone, List.nil_append,
        List.filter_cons_of_neg (by simp [hinstruction])]
    | some row =>
      rw [hrow] at hinstruction
      -- The row is one line, because no expression escapes a line feed.
      have hline : '\n' ∉ row.toList := by
        intro hmem
        obtain ⟨code, rfl, hescapes⟩ := exists_escapesFeed_of_mem hrow hmem
        exact hfold code List.mem_cons_self hescapes
      have hadded : (draft.withSegment types (before + 1) segment).part = .body := hpart
      rw [List.filterMap_cons_some hrow, List.map_cons, List.cons_append,
        readLines_rowLines_cons _ _ _ hline, readLine_instruction types _ hpart hproper.1 hrow,
        ih hadded hproper.2 hmore, instructionFindings_cons_of_isInstruction _ _ hinstruction,
        List.filter_cons_of_pos hinstruction]
      simp [Draft.withSegment, Draft.scope, Nat.add_assoc, Nat.add_comm 1]

/-! ## Whole sources -/

theorem filterMap_declaration? {body : List Segment}
    (h : ∀ segment ∈ body, segment.IsProper) :
    body.filterMap declaration?
      = (body.filterMap Segment.injection?).map fun name => s!"inject {name}" := by
  induction body with
  | nil => rfl
  | cons segment body ih =>
    rw [List.forall_mem_cons] at h
    cases segment with
    | inherits contract model => exact absurd h.1 id
    | inject name => exact congrArg (s!"inject {name}" :: ·) (ih h.2)
    | literal text => exact ih h.2
    | expression code => exact ih h.2

/-- The rows of the source of a document. -/
theorem sourceLines_eq {model : ModelType} {name : String} {body : List Segment}
    (h : ∀ segment ∈ body, segment.IsProper) :
    (sourceLines ⟨model, .inherits baseContract name :: body⟩).map String.toList
      = header.toList :: s!"unit {unitName}".toList
        :: s!"renderer {rendererName} : {baseContract}<{name}>".toList
        :: (((body.filterMap Segment.injection?).map fun name => s!"inject {name}".toList)
          ++ "execute".toList :: ((body.filterMap instruction?).map String.toList
            ++ ["end".toList])) := by
  have hdeclarations : (Segment.inherits baseContract name :: body).filterMap declaration?
      = s!"renderer {rendererName} : {baseContract}<{name}>" :: body.filterMap declaration? := rfl
  have hinstructions : (Segment.inherits baseContract name :: body).filterMap instruction?
      = body.filterMap instruction? := rfl
  rw [sourceLines, hdeclarations, hinstructions, filterMap_declaration? h]
  simp

/-- The draft behind the declarations of a source. -/
def Draft.ofDeclarations (types : TypeTable) (findings : List Finding) (name : String)
    (names : List String) : Draft where
  part := .body
  unit := unitName
  renderer := some (rendererName, ⟨baseContract, name⟩)
  dependencies := names.filter (· ≠ Expression.modelRoot)
  body := []
  findings := findings ++ declarationFindings types name names

theorem readLines_declarations (types : TypeTable) (findings : List Finding) {name : String}
    {body : List Segment} (rows : List (List Char)) (htrimmed : IsTrimmed name.toList)
    (hline : '\n' ∉ name.toList) (hbody : IsBody body) :
    let names := body.filterMap Segment.injection?
    (Draft.start findings).readLines types 0
        (rowLines (header.toList :: s!"unit {unitName}".toList
          :: s!"renderer {rendererName} : {baseContract}<{name}>".toList
          :: ((names.map fun name => s!"inject {name}".toList) ++ "execute".toList :: rows)))
      = (Draft.ofDeclarations types findings name names).readLines types (names.length + 4)
          (rowLines rows) := by
  intro names
  have hrenderer : '\n' ∉ s!"renderer {rendererName} : {baseContract}<{name}>".toList := by
    rw [Draft.toList_renderer]
    have hcontract : '\n' ∉ baseContract.toList := by decide
    have hname : '\n' ∉ rendererName.toList := by decide
    simp [Draft.declarationText, hcontract, hname, hline]
  rw [readLines_rowLines_cons _ _ _ (by decide), Draft.readLine_header,
    readLines_rowLines_cons _ _ _ (by decide), Draft.readLine_unit rfl,
    readLines_rowLines_cons _ _ _ hrenderer, Draft.readLine_renderer rfl rfl htrimmed,
    readLines_injections _ _ rfl (fun _ h => hbody.isIdentifier_of_mem h) hbody.distinct
      (fun _ _ => List.not_mem_nil),
    readLines_rowLines_cons _ _ _ (by decide), Draft.readLine_execute rfl rfl]
  have hcount : 0 + 1 + 1 + 1 + names.length + 1 = names.length + 4 := by omega
  rw [hcount]
  simp only [Draft.ofDeclarations, declarationFindings, Draft.note, Draft.start, List.nil_append,
    List.map_map, List.append_assoc]
  rfl

/-- The draft behind the source of segments that are bound to the named model type. -/
def Draft.ofSegments (types : TypeTable) (findings : List Finding) (name : String)
    (segments : List Segment) : Draft :=
  let names := segments.filterMap Segment.injection?
  { part := .done
    unit := unitName
    renderer := some (rendererName, ⟨baseContract, name⟩)
    dependencies := names.filter (· ≠ Expression.modelRoot)
    body := segments.flatMap Segment.instructions
    findings := findings ++ (declarationFindings types name names
      ++ instructionFindings (segmentScope types name segments) (names.length + 5) segments) }

/-- The draft that the source of a document is read into, as long as every row of it is one line. -/
theorem ofSource_generate (types : TypeTable) (findings : List Finding) {model : ModelType}
    {name source : String} {body : List Segment}
    (hgenerate : generate ⟨model, .inherits baseContract name :: body⟩ = .ok source)
    (htrimmed : IsTrimmed name.toList) (hline : '\n' ∉ name.toList) (hbody : IsBody body)
    (hfold : ∀ code, .expression code ∈ body → ¬ EscapesFeed .outside code.toList) :
    Draft.ofSource types findings source.toList = Draft.ofSegments types findings name body := by
  have hend : '\n' ∉ "end".toList := by decide
  rw [Draft.ofSource, lines_generate hgenerate, sourceLines_eq hbody.proper,
    readLines_declarations types findings _ htrimmed hline hbody,
    readLines_instructions types _ rfl hbody.proper hfold, readLines_rowLines_cons _ _ _ hend,
    Draft.readLine_end rfl, Draft.ofSegments, ← List.append_assoc]
  rfl

/-! ## Rows of several lines -/

/-- The first line of an expression that escapes a line feed is no expression. -/
theorem exists_readLine_of_escapesFeed (types : TypeTable) {draft : Draft} (line : Nat)
    {code : String} (hpart : draft.part = .body) (htrimmed : IsTrimmed code.toList)
    (hescapes : EscapesFeed .outside code.toList) :
    ∃ first rest, lines (("    write " ++ foldLines code).toList ++ ['\n']) = first :: rest
      ∧ (draft.readLine types line first).findings ≠ [] := by
  -- Up to its first line feed the folded code is a string that has not ended.
  obtain ⟨before, rest, hfold, hfirst⟩ := List.eq_append_cons_of_mem (mem_fold_iff.mpr hescapes)
  have hescaped := after_eq_escaped hfold hfirst
  have hne : before ≠ [] := by
    rintro rfl
    cases hescaped
  have hbefore : IsTrimmed before :=
    { head := fun c hc => by
        refine (isTrimmed_fold htrimmed).head c ?_
        rw [hfold, List.head?_append, hc]
        rfl
      last := fun c hc => by
        rw [Quoting.getLast?_of_after_eq_escaped hescaped] at hc
        obtain rfl := Option.some.inj hc
        decide }
  have hopen : Quoting.outside.after before ≠ .outside := by
    rw [hescaped]
    decide
  obtain ⟨cause, hcause⟩ := Expression.exists_parse_error hopen
  have hrow : ("    write " ++ foldLines code).toList ++ ['\n']
      = "    ".toList ++ ("write".toList ++ ' ' :: before) ++ '\n' :: (rest ++ ['\n']) := by
    rw [Draft.toList_write, hfold]
    simp
  have hpre : '\n' ∉ "    ".toList ++ ("write".toList ++ ' ' :: before) := by
    simpa using hfirst
  refine ⟨_, _, by rw [hrow, lines_of_not_mem hpre], ?_⟩
  rw [readLine_dropReturn, Draft.readLine_write hpart hbefore hne, Draft.readWrite, hcause]
  simp [Draft.note]

/-- A source in which an expression escapes a line feed is faulty. -/
theorem findings_ne_nil_of_escapesFeed (types : TypeTable) {draft : Draft} {before : Nat}
    {segments : List Segment} (rows : List (List Char)) (hpart : draft.part = .body)
    (hproper : ∀ segment ∈ segments, segment.IsProper) {code : String}
    (hcode : .expression code ∈ segments) (hescapes : EscapesFeed .outside code.toList) :
    (draft.readLines types before
      (rowLines ((segments.filterMap instruction?).map String.toList ++ rows))).findings ≠ [] := by
  induction segments generalizing draft before with
  | nil => exact absurd hcode List.not_mem_nil
  | cons segment segments ih =>
    rw [List.forall_mem_cons] at hproper
    cases hrow : instruction? segment with
    | none =>
      have hrest : .expression code ∈ segments := by
        rcases List.mem_cons.mp hcode with rfl | hcode
        · cases hrow
        · exact hcode
      rw [List.filterMap_cons_none hrow]
      exact ih hpart hproper.2 hrest
    | some row =>
      rw [List.filterMap_cons_some hrow, List.map_cons, List.cons_append]
      by_cases hline : '\n' ∈ row.toList
      · -- The row is cut in two, and what is found in its first line stays.
        obtain ⟨first, rfl, hfirst⟩ := exists_escapesFeed_of_mem hrow hline
        obtain rfl : "    write " ++ foldLines first = row := Option.some.inj hrow
        obtain ⟨line, more, hlines, hfindings⟩ :=
          exists_readLine_of_escapesFeed types (before + 1) hpart hproper.1.2 hfirst
        rw [rowLines, List.flatMap_cons, hlines, List.cons_append, Draft.readLines]
        intro hnil
        have hprefix := Draft.findings_prefix_readLines types
          (draft.readLine types (before + 1) line) (before + 1) (more ++ rowLines
            ((segments.filterMap instruction?).map String.toList ++ rows))
        rw [rowLines, hnil] at hprefix
        exact hfindings (List.prefix_nil.mp hprefix)
      · -- The row is one line, so the line feed is escaped in another segment.
        have hrest : .expression code ∈ segments := by
          rcases List.mem_cons.mp hcode with rfl | hcode
          · obtain rfl : "    write " ++ foldLines code = row := Option.some.inj hrow
            have hmem := mem_fold_iff.mpr hescapes
            rw [Draft.toList_write] at hline
            simp [hmem] at hline
          · exact hcode
        have hadded : (draft.withSegment types (before + 1) segment).part = .body := hpart
        rw [readLines_rowLines_cons _ _ _ hline, readLine_instruction types _ hpart hproper.1 hrow]
        exact ih hadded hproper.2 hrest

/-- No expression of a document escapes a line feed if nothing is wrong with its source. -/
theorem not_escapesFeed_of_ofSource {types : TypeTable} {findings : List Finding}
    {model : ModelType} {name source : String} {body : List Segment}
    (hgenerate : generate ⟨model, .inherits baseContract name :: body⟩ = .ok source)
    (htrimmed : IsTrimmed name.toList) (hline : '\n' ∉ name.toList) (hbody : IsBody body)
    (hnone : (Draft.ofSource types findings source.toList).findings = []) {code : String}
    (hcode : .expression code ∈ body) : ¬ EscapesFeed .outside code.toList := by
  intro hescapes
  rw [Draft.ofSource, lines_generate hgenerate, sourceLines_eq hbody.proper,
    readLines_declarations types findings _ htrimmed hline hbody] at hnone
  exact findings_ne_nil_of_escapesFeed types _ rfl hbody.proper hcode hescapes
    (Draft.findings_eq_nil_of_finish hnone)

end Stencil.Unit
