import Mathlib
import Stencil.Proofs.Unit.Compiler

/-!
# One line a construct

The source of a template is meant to have one line for each of its constructs. Its rows are cut into
lines at line feeds, so that holds exactly when no row has a line feed of its own
(`lines_eq_constructLines_iff`). Literal texts and dependencies never bring one in. The name of a
model type may, and so does an expression with a line feed that a string escapes, which folding
leaves as it is.
-/

namespace Stencil.Source

open Markup (Segment Document IsBody)
open Text
open Stencil.Unit (rowLines Draft exists_escapesFeed_of_mem)

/-! ## Rows and lines -/

theorem length_linesFrom_concat (started text : List Char) :
    (linesFrom started (text ++ ['\n'])).length = text.count '\n' + 1 := by
  induction text generalizing started with
  | nil => rfl
  | cons c text ih =>
    rw [List.cons_append, linesFrom]
    by_cases hc : c = '\n'
    · rw [if_pos hc, List.length_cons, ih, hc, List.count_cons_self]
    · rw [if_neg hc, ih, List.count_cons_of_ne hc]

/-- A row has one line more than it has line feeds. -/
theorem length_lines_concat (row : List Char) :
    (lines (row ++ ['\n'])).length = row.count '\n' + 1 :=
  length_linesFrom_concat [] row

theorem rowLines_cons (row : List Char) (rows : List (List Char)) :
    rowLines (row :: rows) = lines (row ++ ['\n']) ++ rowLines rows :=
  List.flatMap_cons

theorem length_le_rowLines (rows : List (List Char)) : rows.length ≤ (rowLines rows).length := by
  induction rows with
  | nil => exact Nat.zero_le _
  | cons row rows ih =>
    rw [rowLines_cons, List.length_append, length_lines_concat, List.length_cons]
    omega

/-- A line feed in a row makes more lines than rows. -/
theorem length_lt_rowLines {rows : List (List Char)} {row : List Char} (hmem : row ∈ rows)
    (hfeed : '\n' ∈ row) : rows.length < (rowLines rows).length := by
  induction rows with
  | nil => exact absurd hmem List.not_mem_nil
  | cons first rows ih =>
    rw [rowLines_cons, List.length_append, length_lines_concat, List.length_cons]
    rcases List.mem_cons.mp hmem with rfl | hmem
    · have hrest := length_le_rowLines rows
      have hcount := List.count_pos_iff.mpr hfeed
      omega
    · have hrest := ih hmem
      omega

/-- Rows without a line feed are lines, as long as none of them ends with half of a line break. -/
theorem rowLines_eq_self {rows : List (List Char)} (hfeed : ∀ row ∈ rows, '\n' ∉ row)
    (hreturn : ∀ row ∈ rows, row.getLast? ≠ some '\r') : rowLines rows = rows := by
  induction rows with
  | nil => rfl
  | cons row rows ih =>
    rw [List.forall_mem_cons] at hfeed hreturn
    rw [rowLines_cons, lines_of_not_mem hfeed.1, dropReturn, if_neg hreturn.1,
      ih hfeed.2 hreturn.2]
    rfl

/-! ## The rows of a document -/

/-- The lines that the constructs of segments take in a source: a header, the unit, the renderer,
one line a dependency, and between `execute` and `end` one line a literal or an expression. -/
def constructLines (name : String) (segments : List Segment) : List String :=
  [header, s!"unit {unitName}", s!"renderer {rendererName} : {baseContract}<{name}>"]
    ++ (segments.filterMap Segment.injection?).map (fun dependency => s!"inject {dependency}")
    ++ ["execute"]
    ++ segments.filterMap instruction?
    ++ ["end"]

/-- What keeps every construct of a document on one line. -/
structure KeepsLines (document : Document) : Prop where
  /-- The name of the model type has no line feed. -/
  name : ∀ name, document.model.sourceName = .ok name → '\n' ∉ name.toList
  /-- No string of an expression escapes a line feed. -/
  code : ∀ code, .expression code ∈ document.segments → ¬ EscapesFeed .outside code.toList

theorem map_constructLines (name : String) (segments : List Segment) :
    (constructLines name segments).map String.toList
      = header.toList :: s!"unit {unitName}".toList
        :: s!"renderer {rendererName} : {baseContract}<{name}>".toList
        :: (((segments.filterMap Segment.injection?).map fun name => s!"inject {name}".toList)
          ++ "execute".toList :: ((segments.filterMap instruction?).map String.toList
            ++ ["end".toList])) := by
  simp [constructLines, Function.comp_def]

/-- The rows of a source are fixed, declare the renderer or a dependency, or make an instruction. -/
theorem forall_mem_constructLines {name : String} {segments : List Segment} {p : String → Prop} :
    (∀ row ∈ constructLines name segments, p row)
      ↔ (∀ row ∈ [header, s!"unit {unitName}", "execute", "end"], p row)
        ∧ p s!"renderer {rendererName} : {baseContract}<{name}>"
        ∧ (∀ dependency ∈ segments.filterMap Segment.injection?, p s!"inject {dependency}")
        ∧ ∀ segment ∈ segments, ∀ row, instruction? segment = some row → p row := by
  have hinstructions : (∀ row ∈ segments.filterMap instruction?, p row)
      ↔ ∀ segment ∈ segments, ∀ row, instruction? segment = some row → p row := by
    simp only [List.mem_filterMap, forall_exists_index, and_imp]
    exact ⟨fun h segment hmem row hrow => h row segment hmem hrow,
      fun h row segment hmem hrow => h segment hmem row hrow⟩
  simp only [constructLines, List.forall_mem_append, List.forall_mem_map, List.forall_mem_cons,
    hinstructions]
  tauto

/-! ## What stands in the rows -/

theorem not_mem_renderer_iff (name : String) :
    '\n' ∉ s!"renderer {rendererName} : {baseContract}<{name}>".toList ↔ '\n' ∉ name.toList := by
  have hcontract : '\n' ∉ baseContract.toList := by decide
  have hname : '\n' ∉ rendererName.toList := by decide
  rw [Draft.toList_renderer]
  simp [Draft.declarationText, hcontract, hname]

/-- Of the instructions, only an expression that escapes a line feed has one in its row. -/
theorem not_mem_instruction_iff {segment : Segment} {row : String}
    (hrow : instruction? segment = some row) :
    '\n' ∉ row.toList
      ↔ ∀ code, segment = .expression code → ¬ EscapesFeed .outside code.toList := by
  constructor
  · rintro hfeed code rfl hescapes
    obtain rfl : "    write " ++ foldLines code = row := Option.some.inj hrow
    rw [Draft.toList_write] at hfeed
    exact hfeed (by simp [mem_fold_iff.mpr hescapes])
  · intro hnone hfeed
    obtain ⟨code, rfl, hescapes⟩ := exists_escapesFeed_of_mem hrow hfeed
    exact hnone code rfl hescapes

/-- A row that ends with a text whose end is no blank does not end with half of a line break. -/
theorem getLast?_ne_return (indent keyword : List Char) {rest : List Char} (hrest : IsTrimmed rest)
    (hne : rest ≠ []) : (indent ++ (keyword ++ ' ' :: rest)).getLast? ≠ some '\r' := by
  intro hlast
  rw [List.getLast?_append_of_ne_nil _ (by simp), List.getLast?_append_of_ne_nil _ (by simp),
    List.getLast?_cons_of_ne_nil hne] at hlast
  exact absurd (hrest.last _ hlast) (by decide)

theorem getLast?_instruction_ne_return {segment : Segment} {row : String}
    (hproper : segment.IsProper) (hrow : instruction? segment = some row) :
    row.toList.getLast? ≠ some '\r' := by
  cases segment with
  | inherits contract model => cases hrow
  | inject name => cases hrow
  | literal text =>
    obtain rfl : "    literal " ++ jsonString text = row := Option.some.inj hrow
    rw [Draft.toList_literal]
    exact getLast?_ne_return _ _ (Draft.isTrimmed_stringChars _) (by simp [Json.stringChars])
  | expression code =>
    obtain rfl : "    write " ++ foldLines code = row := Option.some.inj hrow
    rw [Draft.toList_write]
    exact getLast?_ne_return _ _ (isTrimmed_fold hproper.2) (fold_ne_nil hproper.1)

variable {model : ModelType} {name : String} {body : List Segment}

/-- No row of a document ends with a carriage return, which a line break would swallow. -/
theorem getLast?_constructLines_ne_return (hbody : IsBody body) :
    ∀ row ∈ constructLines name body, row.toList.getLast? ≠ some '\r' := by
  refine forall_mem_constructLines.mpr ⟨by decide, ?_, ?_, ?_⟩
  · rw [Draft.toList_renderer]
    exact getLast?_ne_return _ _ (Draft.isTrimmed_declarationText name)
      (by simp [Draft.declarationText])
  · intro dependency hdependency
    have hidentifier := hbody.isIdentifier_of_mem hdependency
    rw [Draft.toList_injection]
    exact getLast?_ne_return _ _ (isTrimmed_of_isIdentifier hidentifier)
      (ne_nil_of_isIdentifier hidentifier)
  · intro segment hsegment row hrow
    exact getLast?_instruction_ne_return (hbody.proper segment hsegment) hrow

/-- The rows of a document are lines exactly when nothing in the document breaks one. -/
theorem forall_not_mem_constructLines_iff (hname : model.sourceName = .ok name)
    (hbody : IsBody body) :
    (∀ row ∈ constructLines name body, '\n' ∉ row.toList)
      ↔ KeepsLines ⟨model, .inherits baseContract name :: body⟩ := by
  rw [forall_mem_constructLines, not_mem_renderer_iff]
  constructor
  · rintro ⟨-, hline, -, hinstructions⟩
    exact
      { name := fun name' hname' => Except.ok.inj (hname.symm.trans hname') ▸ hline
        code := fun code hcode => by
          have hmem : .expression code ∈ body :=
            (List.mem_cons.mp hcode).resolve_left Segment.noConfusion
          exact (not_mem_instruction_iff rfl).mp (hinstructions _ hmem _ rfl) code rfl }
  · intro h
    refine ⟨by decide, h.name name hname, ?_, ?_⟩
    · intro dependency hdependency
      exact Unit.not_mem_injection (hbody.isIdentifier_of_mem hdependency)
    · intro segment hsegment row hrow
      refine (not_mem_instruction_iff hrow).mpr ?_
      rintro code rfl
      exact h.code code (List.mem_cons_of_mem _ hsegment)

/-! ## Lines of sources -/

theorem lines_eq_rowLines {source : String} (hbody : IsBody body)
    (hgenerate : generate ⟨model, .inherits baseContract name :: body⟩ = .ok source) :
    lines source.toList = rowLines ((constructLines name body).map String.toList) := by
  rw [Unit.lines_generate hgenerate, Unit.sourceLines_eq hbody.proper, map_constructLines]

/-- The source of a template has one line a construct, unless a line feed in the name of its model
type or behind a backslash in a string of one of its expressions adds a line. -/
theorem lines_eq_constructLines_iff {text source : String} {document : Document}
    (hparse : Document.parse text model = .ok document)
    (hgenerate : generate document = .ok source) :
    ∃ name, model.sourceName = .ok name
      ∧ (lines source.toList = (constructLines name document.segments).map String.toList
          ↔ KeepsLines document)
      ∧ (¬ KeepsLines document →
          (constructLines name document.segments).length < (lines source.toList).length) := by
  obtain ⟨name, body, hname, rfl, hbody⟩ := Document.exists_isBody_of_parse hparse
  have hsegments : constructLines name (.inherits baseContract name :: body)
      = constructLines name body := rfl
  have hkeeps := forall_not_mem_constructLines_iff hname hbody
  have hmore : ¬ KeepsLines ⟨model, .inherits baseContract name :: body⟩ →
      (constructLines name body).length < (lines source.toList).length := by
    intro hnot
    obtain ⟨row, hrow, hfeed⟩ : ∃ row ∈ constructLines name body, '\n' ∈ row.toList := by
      by_contra hnone
      exact hnot (hkeeps.mp fun row hrow hfeed => hnone ⟨row, hrow, hfeed⟩)
    have hlt := length_lt_rowLines (List.mem_map_of_mem hrow) hfeed
    rwa [← lines_eq_rowLines hbody hgenerate, List.length_map] at hlt
  refine ⟨name, hname, ⟨?_, ?_⟩, hmore⟩
  · intro heq
    by_contra hnot
    have hlt := hmore hnot
    rw [heq, hsegments, List.length_map] at hlt
    exact lt_irrefl _ hlt
  · intro h
    rw [lines_eq_rowLines hbody hgenerate, hsegments]
    exact rowLines_eq_self (List.forall_mem_map.mpr (hkeeps.mpr h))
      (List.forall_mem_map.mpr (getLast?_constructLines_ne_return hbody))

/-- An expression of one string, in which a backslash stands before a line feed, takes two lines. -/
theorem exists_lines_escaped_feed :
    ∃ document source,
      Document.parse "@(\"a\\\nb\")" (.ofTypeName "demo::Person") = .ok document
        ∧ generate document = .ok source
        ∧ constructLines "demo.Person" document.segments
          = [header, "unit quill.generated",
              "renderer Template : quill.templating.TemplateBase<demo.Person>", "execute",
              "    write \"a\\\nb\"", "end"]
        ∧ 6 < (lines source.toList).length := by
  let segments : List Segment := [.inherits baseContract "demo.Person", .expression "\"a\\\nb\""]
  have hparse : Document.parse "@(\"a\\\nb\")" (.ofTypeName "demo::Person")
      = .ok ⟨.ofTypeName "demo::Person", segments⟩ := by
    decide +kernel
  have hname : (ModelType.ofTypeName "demo::Person").sourceName = .ok "demo.Person" := by
    decide
  have hgenerate : generate ⟨.ofTypeName "demo::Person", segments⟩ = .ok _ :=
    Unit.generate_eq_ok hname
  obtain ⟨name, hname', -, hmore⟩ := lines_eq_constructLines_iff hparse hgenerate
  obtain rfl := Except.ok.inj (hname.symm.trans hname')
  have hnot : ¬ KeepsLines ⟨.ofTypeName "demo::Person", segments⟩ := by
    intro h
    refine h.code "\"a\\\nb\"" (by simp [segments]) ?_
    rw [← mem_fold_iff]
    decide
  exact ⟨_, _, hparse, hgenerate, by decide, hmore hnot⟩

end Stencil.Source
