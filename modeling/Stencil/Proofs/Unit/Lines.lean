import Mathlib
import Stencil.Proofs.Json.ReadBack
import Stencil.Proofs.Source.Folding
import Stencil.Proofs.Unit.Draft
import Stencil.Source.Text

/-!
# The lines of generated source

What each line that is generated for a document does to the draft it is read into. The lines of
declarations and instructions come back as the statements they were made from, whatever stands in
them, as long as they are lines at all.
-/

namespace Stencil.Unit

open Source
open Text

/-! ## One line of each kind -/

namespace Draft

variable {types : TypeTable} {draft : Draft} {line : Nat}

theorem readLine_of_statement {text keyword rest : List Char}
    (h : Statement.ofLine? text = some ⟨keyword, rest⟩) :
    draft.readLine types line text = draft.readStatement types line ⟨keyword, rest⟩ := by
  rw [readLine, h]

theorem readLine_header : draft.readLine types line header.toList = draft := by
  have h : Statement.ofLine? header.toList = none := by decide
  rw [readLine, h]

theorem readLine_unit (h : draft.part = .header) :
    draft.readLine types line s!"unit {unitName}".toList
      = { draft with unit := unitName, part := .declarations } := by
  have hstatement : Statement.ofLine? s!"unit {unitName}".toList
      = some ⟨"unit".toList, unitName.toList⟩ := by decide
  rw [readLine_of_statement hstatement]
  simp [readStatement, h, readUnit, note, unitName]

theorem splitAtFirst_append {mark : Char} {front : List Char} (h : mark ∉ front)
    (rest : List Char) : splitAtFirst mark (front ++ mark :: rest) = some (front, rest) := by
  have hfront : ∀ c ∈ front, (c != mark) = true := by
    intro c hc
    rw [bne_iff_ne]
    rintro rfl
    exact h hc
  rw [splitAtFirst, if_pos (by simp), List.takeWhile_append_of_pos hfront,
    List.dropWhile_append_of_pos hfront]
  simp

theorem boundContract?_eq_some {contract name : List Char} (hcontract : IsTrimmed contract)
    (hmark : '<' ∉ contract) (hname : IsTrimmed name) :
    boundContract? (contract ++ '<' :: name ++ ['>'])
      = some ⟨String.ofList contract, String.ofList name⟩ := by
  rw [boundContract?, if_pos List.getLast?_concat, List.dropLast_concat,
    splitAtFirst_append hmark, Option.map_some]
  simp only [trim_eq_self hcontract, trim_eq_self hname]

/-- What the declaration of a generated renderer says behind its keyword. -/
def declarationText (name : String) : List Char :=
  rendererName.toList ++ ([' ', ':', ' '] ++ (baseContract.toList ++ '<' :: name.toList ++ ['>']))

theorem toList_renderer (name : String) :
    s!"renderer {rendererName} : {baseContract}<{name}>".toList
      = [] ++ ("renderer".toList ++ ' ' :: declarationText name) := by
  simp [String.toList_append, toString, declarationText, rendererName, baseContract]

theorem isIdentifier_rendererName : isIdentifier rendererName.toList = true := by
  decide

theorem isTrimmed_baseContract : IsTrimmed baseContract.toList := by
  have hends : baseContract.toList
      = 'q' :: (baseContract.toList.drop 1).dropLast
        ++ [baseContract.toList.getLast (by decide)] := by
    decide
  exact isTrimmed_of_ends (by decide) (by decide) hends

theorem isTrimmed_boundContract (name : String) :
    IsTrimmed (baseContract.toList ++ '<' :: name.toList ++ ['>']) :=
  isTrimmed_of_ends (c := 'q') (by decide) (by decide) rfl

theorem isTrimmed_declarationText (name : String) : IsTrimmed (declarationText name) :=
  (isTrimmed_of_isIdentifier isIdentifier_rendererName).append (by decide)
    (isTrimmed_boundContract name) (by simp) [' ', ':', ' ']

theorem readRenderer_declarationText {name : String} (hnone : draft.renderer = none)
    (hname : IsTrimmed name.toList) :
    draft.readRenderer types line (declarationText name)
      = { draft.note line (([baseContract, name].filter (!types.contains ·)).map .missingType) with
          renderer := some (rendererName, ⟨baseContract, name⟩) } := by
  have hsplit : splitAtFirst ':' (declarationText name) = some (rendererName.toList ++ [' '],
      ' ' :: (baseContract.toList ++ '<' :: name.toList ++ ['>'])) := by
    have hmark : ':' ∉ rendererName.toList ++ [' '] := by decide
    exact splitAtFirst_append hmark _
  have hbase : boundContract? (trim (' ' :: (baseContract.toList ++ '<' :: name.toList ++ ['>'])))
      = some ⟨baseContract, name⟩ := by
    rw [trim_cons_of_isBlank (by decide), trim_eq_self (isTrimmed_boundContract name),
      boundContract?_eq_some isTrimmed_baseContract (by decide) hname, String.ofList_toList,
      String.ofList_toList]
  have htrim : trim (rendererName.toList ++ [' ']) = rendererName.toList := by
    rw [trim_concat_of_isBlank (by decide),
      trim_eq_self (isTrimmed_of_isIdentifier isIdentifier_rendererName)]
  rw [readRenderer, hnone, if_neg (by decide), hsplit]
  dsimp only
  rw [htrim, hbase, isIdentifier_rendererName, if_pos rfl, String.ofList_toList]
  rfl

theorem readLine_renderer {name : String} (h : draft.part = .declarations)
    (hnone : draft.renderer = none) (hname : IsTrimmed name.toList) :
    draft.readLine types line s!"renderer {rendererName} : {baseContract}<{name}>".toList
      = { draft.note line (([baseContract, name].filter (!types.contains ·)).map .missingType) with
          renderer := some (rendererName, ⟨baseContract, name⟩) } := by
  have hstatement : Statement.ofLine? s!"renderer {rendererName} : {baseContract}<{name}>".toList
      = some ⟨"renderer".toList, declarationText name⟩ := by
    rw [toList_renderer]
    exact Statement.ofLine?_eq_some rfl rfl rfl (by decide)
      (isTrimmed_declarationText name) (by simp [declarationText])
  rw [readLine_of_statement hstatement, ← readRenderer_declarationText hnone hname]
  simp [readStatement, h]

theorem readLine_execute (h : draft.part = .declarations) (hrenderer : draft.renderer.isSome) :
    draft.readLine types line "execute".toList = { draft with part := .body } := by
  have hstatement : Statement.ofLine? "execute".toList = some ⟨"execute".toList, []⟩ := by
    decide
  rw [readLine_of_statement hstatement]
  simp [readStatement, h, readExecute, Option.isNone_eq_false_iff.mpr hrenderer, note]

theorem readLine_end (h : draft.part = .body) :
    draft.readLine types line "end".toList = { draft with part := .done } := by
  have hstatement : Statement.ofLine? "end".toList = some ⟨"end".toList, []⟩ := by
    decide
  rw [readLine_of_statement hstatement]
  simp [readStatement, h]

theorem toList_injection (name : String) :
    s!"inject {name}".toList = [] ++ ("inject".toList ++ ' ' :: name.toList) := by
  simp [String.toList_append, toString]

theorem readLine_injection {name : String} (h : draft.part = .declarations)
    (hname : isIdentifier name.toList = true) :
    draft.readLine types line s!"inject {name}".toList
      = if name = Expression.modelRoot ∨ name ∈ draft.dependencies then
          draft.note line [.repeatedDependency name]
        else { draft with dependencies := draft.dependencies ++ [name] } := by
  have hstatement : Statement.ofLine? s!"inject {name}".toList
      = some ⟨"inject".toList, name.toList⟩ := by
    rw [toList_injection]
    exact Statement.ofLine?_eq_some rfl rfl rfl (by decide)
      (isTrimmed_of_isIdentifier hname) (ne_nil_of_isIdentifier hname)
  rw [readLine_of_statement hstatement]
  simp [readStatement, h, readInjection, hname]

theorem toList_literal (text : String) :
    ("    literal " ++ jsonString text).toList
      = "    ".toList ++ ("literal".toList ++ ' ' :: Json.stringChars text.toList) := by
  simp [String.toList_append, jsonString]

theorem not_mem_literal (text : String) : '\n' ∉ ("    literal " ++ jsonString text).toList := by
  rw [toList_literal]
  simpa using Json.not_mem_stringChars text.toList

theorem isTrimmed_stringChars (text : List Char) : IsTrimmed (Json.stringChars text) :=
  isTrimmed_of_ends (by decide) (by decide) rfl

theorem run_stringChars (text : String) :
    Decoder.text.run (Json.stringChars text.toList) = some text := by
  have hread := Json.read_chars (.string text)
  rw [Json.chars] at hread
  rw [Decoder.run, hread]
  rfl

theorem readLine_literal (text : String) (h : draft.part = .body) :
    draft.readLine types line ("    literal " ++ jsonString text).toList
      = { draft with body := draft.body ++ [.writeLiteral text] } := by
  have hstatement : Statement.ofLine? ("    literal " ++ jsonString text).toList
      = some ⟨"literal".toList, Json.stringChars text.toList⟩ := by
    rw [toList_literal]
    exact Statement.ofLine?_eq_some rfl rfl rfl (by decide)
      (isTrimmed_stringChars _) (by simp [Json.stringChars])
  rw [readLine_of_statement hstatement]
  simp [readStatement, h, readLiteral, run_stringChars]

theorem toList_write (code : String) :
    ("    write " ++ foldLines code).toList
      = "    ".toList ++ ("write".toList ++ ' ' :: fold .outside code.toList) := by
  simp [String.toList_append, foldLines]

theorem not_mem_write {code : String} (h : ¬ EscapesFeed .outside code.toList) :
    '\n' ∉ ("    write " ++ foldLines code).toList := by
  rw [toList_write]
  simpa [mem_fold_iff] using h

theorem readLine_write {rest : List Char} (h : draft.part = .body) (hrest : IsTrimmed rest)
    (hne : rest ≠ []) :
    draft.readLine types line ("    ".toList ++ ("write".toList ++ ' ' :: rest))
      = draft.readWrite types line rest := by
  have hstatement : Statement.ofLine? ("    ".toList ++ ("write".toList ++ ' ' :: rest))
      = some ⟨"write".toList, rest⟩ :=
    Statement.ofLine?_eq_some rfl rfl rfl (by decide) hrest hne
  rw [readLine_of_statement hstatement]
  simp [readStatement, h]

end Draft

end Stencil.Unit
