import Mathlib
import Stencil.Proofs.Unit.TypeTable
import Stencil.Proofs.Unit.WellFormed

/-!
# Compiling with less known of the types

The members on a path are followed as far as the types are known. A table that seals some schemas or
lacks some types ends this sooner, so that it finds less wrong with a path. Two compilations of one
source under two such tables go line by line through drafts that differ in nothing but findings
(`Draft.Trails`), as long as the types that the renderer is bound to stay known. So what the second
one finds is found by the first one too, in the same order, and if that finds nothing they make the
same unit (`diagnostics_sublist_of_thins`).
-/

namespace Stencil.Unit

open Text

variable {keep : List String} {types fewer : TypeTable} {source : String}
  {references others : References}

/-! ## Tables -/

/-- What a table may know less of one type than another table. -/
inductive ThinsAt (keep : List String) (types fewer : TypeTable) (type : String) : Prop
  /-- It knows the same. -/
  | same (h : fewer.get? type = types.get? type)
  /-- It knows the type, but none of its members. -/
  | sealed {schema : Schema} (htype : types.get? type = some schema)
      (h : fewer.get? type = some { schema with members := none })
  /-- It does not know the type, which is none of those to be kept. -/
  | dropped (hkeep : type ∉ keep) (h : fewer.get? type = none)

/-- Whether a table differs from another one only in sealed schemas and in types that it lacks, and
lacks none of the types to be kept. -/
def Thins (keep : List String) (types fewer : TypeTable) : Prop :=
  ∀ type, ThinsAt keep types fewer type

theorem Thins.contains_eq (h : Thins keep types fewer) {type : String} (hkeep : type ∈ keep) :
    fewer.contains type = types.contains type := by
  rw [Dictionary.contains, Dictionary.contains]
  cases h type with
  | same heq => rw [heq]
  | sealed htype heq => rw [heq, htype, Option.isSome_some, Option.isSome_some]
  | dropped hnot heq => exact absurd hkeep hnot

/-! ## Paths -/

/-- Both tables lead along the same types until one of them knows no further. -/
theorem memberProblems_sublist (h : Thins keep types fewer) (type walked : String)
    (steps : List Step) :
    (memberProblems fewer type walked steps).Sublist (memberProblems types type walked steps) := by
  induction steps generalizing type walked with
  | nil => exact List.nil_sublist _
  | cons step steps ih =>
    cases step with
    | key name => exact List.nil_sublist _
    | index position => exact List.nil_sublist _
    | member name =>
      rw [memberProblems]
      cases h type with
      | same heq =>
        rw [memberProblems, heq]
        split
        · exact List.Sublist.refl _
        · split
          · exact List.Sublist.refl _
          · exact List.Sublist.refl _
          · exact ih ..
      | sealed htype heq =>
        rw [heq]
        exact List.nil_sublist _
      | dropped hnot heq =>
        rw [heq]
        exact List.nil_sublist _

theorem expressionProblems_sublist (h : Thins keep types fewer) (draft : Draft) (e : Expression) :
    (expressionProblems (draft.scope fewer) e).Sublist
      (expressionProblems (draft.scope types) e) := by
  rw [expressionProblems_eq_flatMap, expressionProblems_eq_flatMap]
  apply List.Sublist.flatMap_right
  rintro ⟨root, steps⟩ -
  rw [pathProblems, pathProblems, Draft.scope, Draft.scope]
  dsimp only
  split
  · split
    · exact memberProblems_sublist h ..
    · exact List.Sublist.refl _
  · exact List.Sublist.refl _

/-! ## Declared contracts -/

/-- The contract of a renderer declaration. -/
def Statement.contract? (statement : Statement) : Option Contract :=
  if String.ofList statement.keyword = "renderer" then
    (Draft.splitAtFirst ':' statement.rest).bind fun (_, contract) =>
      Draft.boundContract? (trim contract)
  else none

/-- The types that are named as contract or as model type in renderer declarations of a source. -/
def boundTypes (source : String) : List String :=
  (((lines source.toList).filterMap Statement.ofLine?).filterMap Statement.contract?).flatMap
    fun base => [base.name, base.model]

theorem mem_boundTypes {text : List Char} {statement : Statement} {base : Contract}
    (htext : text ∈ lines source.toList) (hstatement : Statement.ofLine? text = some statement)
    (hbase : statement.contract? = some base) :
    base.name ∈ boundTypes source ∧ base.model ∈ boundTypes source := by
  have hmem : base ∈ ((lines source.toList).filterMap Statement.ofLine?).filterMap
      Statement.contract? :=
    List.mem_filterMap.mpr ⟨statement, List.mem_filterMap.mpr ⟨text, htext, hstatement⟩, hbase⟩
  exact ⟨List.mem_flatMap.mpr ⟨base, hmem, List.mem_cons_self⟩,
    List.mem_flatMap.mpr ⟨base, hmem, List.mem_cons_of_mem _ List.mem_cons_self⟩⟩

/-! ## Drafts -/

namespace Draft

variable {draft other : Draft} {line : Nat}

/-- Whether a draft is another one with some of its findings. -/
def Trails (draft other : Draft) : Prop :=
  ∃ findings, findings.Sublist draft.findings ∧ other = { draft with findings }

theorem trails_refl (draft : Draft) : Trails draft draft :=
  ⟨draft.findings, List.Sublist.refl _, rfl⟩

theorem Trails.note (h : Trails draft other) (line : Nat) {problems fewerProblems : List Problem}
    (hproblems : fewerProblems.Sublist problems) :
    Trails (draft.note line problems) (other.note line fewerProblems) := by
  obtain ⟨findings, hfindings, rfl⟩ := h
  exact ⟨_, hfindings.append (hproblems.map _), rfl⟩

theorem Trails.readUnit (h : Trails draft other) (rest : List Char) :
    Trails (draft.readUnit line rest) (other.readUnit line rest) := by
  obtain ⟨findings, hfindings, rfl⟩ := h
  exact ⟨_, hfindings.append_right _, rfl⟩

theorem Trails.readRenderer (hthins : Thins keep types fewer) (h : Trails draft other)
    {statement : Statement} (hkeyword : String.ofList statement.keyword = "renderer")
    (hkeep : ∀ base, statement.contract? = some base → base.name ∈ keep ∧ base.model ∈ keep) :
    Trails (draft.readRenderer types line statement.rest)
      (other.readRenderer fewer line statement.rest) := by
  obtain ⟨findings, hfindings, rfl⟩ := h
  rw [Draft.readRenderer, Draft.readRenderer]
  dsimp only
  split
  · exact ⟨_, hfindings.append_right _, rfl⟩
  · split
    · exact ⟨_, hfindings.append_right _, rfl⟩
    · next name contract hsplit =>
      split
      · exact ⟨_, hfindings.append_right _, rfl⟩
      · next base hbase =>
        have hcontract : statement.contract? = some base := by
          rw [Statement.contract?, if_pos hkeyword, hsplit]
          exact hbase
        obtain ⟨hname, hmodel⟩ := hkeep base hcontract
        have hmissing : [base.name, base.model].filter (!fewer.contains ·)
            = [base.name, base.model].filter (!types.contains ·) := by
          apply List.filter_congr
          simp [hthins.contains_eq hname, hthins.contains_eq hmodel]
        rw [hmissing]
        exact ⟨_, hfindings.append_right _, rfl⟩

theorem Trails.readInjection (h : Trails draft other) (rest : List Char) :
    Trails (draft.readInjection line rest) (other.readInjection line rest) := by
  obtain ⟨findings, hfindings, rfl⟩ := h
  rw [Draft.readInjection, Draft.readInjection]
  dsimp only
  split
  · exact ⟨_, hfindings.append_right _, rfl⟩
  · split
    · exact ⟨_, hfindings.append_right _, rfl⟩
    · exact ⟨_, hfindings, rfl⟩

theorem Trails.readExecute (h : Trails draft other) :
    Trails (draft.readExecute line) (other.readExecute line) := by
  obtain ⟨findings, hfindings, rfl⟩ := h
  exact ⟨_, hfindings.append_right _, rfl⟩

theorem Trails.readLiteral (h : Trails draft other) (rest : List Char) :
    Trails (draft.readLiteral line rest) (other.readLiteral line rest) := by
  obtain ⟨findings, hfindings, rfl⟩ := h
  rw [Draft.readLiteral, Draft.readLiteral]
  split
  · exact ⟨_, hfindings, rfl⟩
  · exact ⟨_, hfindings.append_right _, rfl⟩

theorem Trails.readWrite (hthins : Thins keep types fewer) (h : Trails draft other)
    (rest : List Char) :
    Trails (draft.readWrite types line rest) (other.readWrite fewer line rest) := by
  obtain ⟨findings, hfindings, rfl⟩ := h
  rw [Draft.readWrite, Draft.readWrite]
  split
  · exact ⟨_, hfindings.append_right _, rfl⟩
  · next e _ =>
    exact ⟨_, hfindings.append ((expressionProblems_sublist hthins draft e).map _), rfl⟩

/-- No statement makes the drafts differ in more than findings. -/
theorem Trails.readStatement (hthins : Thins keep types fewer) (h : Trails draft other)
    {statement : Statement}
    (hkeep : ∀ base, statement.contract? = some base → base.name ∈ keep ∧ base.model ∈ keep) :
    Trails (draft.readStatement types line statement)
      (other.readStatement fewer line statement) := by
  have hpart : other.part = draft.part := by
    obtain ⟨findings, -, rfl⟩ := h
    rfl
  rw [Draft.readStatement, Draft.readStatement, hpart]
  dsimp only
  split
  · exact h.readUnit _
  · obtain ⟨findings, hfindings, rfl⟩ := h
    exact ⟨_, hfindings.append_right _, rfl⟩
  · next hkeyword => exact h.readRenderer hthins hkeyword hkeep
  · exact h.readInjection _
  · exact h.readExecute
  · exact h.readLiteral _
  · exact h.readWrite hthins _
  · obtain ⟨findings, hfindings, rfl⟩ := h
    exact ⟨_, hfindings, rfl⟩
  · exact h.note _ (List.Sublist.refl _)
  · exact h.note _ (List.Sublist.refl _)

theorem Trails.readLine (hthins : Thins keep types fewer) (h : Trails draft other)
    {text : List Char}
    (hkeep : ∀ statement base, Statement.ofLine? text = some statement →
      statement.contract? = some base → base.name ∈ keep ∧ base.model ∈ keep) :
    Trails (draft.readLine types line text) (other.readLine fewer line text) := by
  rw [Draft.readLine, Draft.readLine]
  split
  · exact h
  · next statement hstatement =>
    exact h.readStatement hthins fun base => hkeep statement base hstatement

theorem Trails.readLines (hthins : Thins keep types fewer) (h : Trails draft other)
    {before : Nat} {texts : List (List Char)}
    (hkeep : ∀ text ∈ texts, ∀ statement base, Statement.ofLine? text = some statement →
      statement.contract? = some base → base.name ∈ keep ∧ base.model ∈ keep) :
    Trails (draft.readLines types before texts) (other.readLines fewer before texts) := by
  induction texts generalizing draft other before with
  | nil => exact h
  | cons text texts ih =>
    rw [List.forall_mem_cons] at hkeep
    exact ih (h.readLine hthins hkeep.1) hkeep.2

theorem Trails.finish (h : Trails draft other) (lineCount : Nat) :
    Trails (draft.finish lineCount) (other.finish lineCount) := by
  have hpart : other.part = draft.part := by
    obtain ⟨findings, -, rfl⟩ := h
    rfl
  rw [Draft.finish, Draft.finish, hpart]
  split
  · exact h
  · exact h.note _ (List.Sublist.refl _)
  · exact h.note _ (List.Sublist.refl _)
  · exact h.note _ (List.Sublist.refl _)

theorem trails_ofSource (hthins : Thins (boundTypes source) types fewer)
    (findings : List Finding) :
    Trails (ofSource types findings source.toList) (ofSource fewer findings source.toList) := by
  rw [ofSource, ofSource]
  exact ((trails_refl _).readLines hthins fun text htext statement base hstatement hbase =>
    mem_boundTypes htext hstatement hbase).finish _

end Draft

/-! ## Compilations -/

/-- Whether all references are modules that can be read. -/
def AreReadable (references : References) : Prop :=
  ∀ entry ∈ references.entries, (Module.ofBytes? entry.2).isSome = true

/-- The diagnostics that a result comes with. -/
def diagnosticsOf : Except Error ByteArray → List Diagnostic
  | .error (.compilation diagnostics) => diagnostics
  | _ => []

theorem diagnosticsOf_build (source : String) (references : References) :
    diagnosticsOf (build source references)
      = (draftOf source references).findings.map Finding.diagnostic := by
  rw [build]
  split
  · next image hcompile =>
    rw [(compile_eq_ok_iff.mp hcompile).1]
    rfl
  · next findings hcompile =>
    rw [(compile_eq_error_iff.mp hcompile).2]
    rfl

theorem moduleFindings_of_areReadable (h : AreReadable references) :
    moduleFindings (readModules references) = [] := by
  rw [moduleFindings_readModules, referenceFindings, List.map_eq_nil_iff, List.filter_eq_nil_iff]
  intro entry hentry
  rw [Option.isNone_iff_eq_none, ← Option.not_isSome_iff_eq_none, not_not]
  exact h entry hentry

theorem trails_draftOf (hreadable : AreReadable references) (hothers : AreReadable others)
    (hthins : Thins (boundTypes source) (knownTypes references) (knownTypes others)) :
    (draftOf source references).Trails (draftOf source others) := by
  rw [draftOf, draftOf, moduleFindings_of_areReadable hreadable,
    moduleFindings_of_areReadable hothers]
  exact Draft.trails_ofSource hthins []

/-- To know less of the types never adds diagnostics. Let modules seal some types that others
describe and lack some types that others define, but none that a renderer declaration of the source
names. Compiled against them, a source has some of the diagnostics that it has against the others,
in the same order, and it makes the same unit if it makes one against the others. -/
theorem diagnostics_sublist_of_thins (hreadable : AreReadable references)
    (hothers : AreReadable others)
    (hthins : Thins (boundTypes source) (knownTypes references) (knownTypes others)) :
    (diagnosticsOf (build source others)).Sublist (diagnosticsOf (build source references))
      ∧ ∀ bytes, build source references = .ok bytes → build source others = .ok bytes := by
  obtain ⟨findings, hfindings, heq⟩ := trails_draftOf hreadable hothers hthins
  refine ⟨?_, fun bytes hbuild => ?_⟩
  · rw [diagnosticsOf_build, diagnosticsOf_build, heq]
    exact hfindings.map _
  · obtain ⟨image, hcompile, rfl⟩ := exists_compile_of_build hbuild
    obtain ⟨hnone, himage⟩ := compile_eq_ok_iff.mp hcompile
    rw [hnone, List.sublist_nil] at hfindings
    have hcompiled : compile source others = .ok image :=
      compile_eq_ok_iff.mpr ⟨by rw [heq]; exact hfindings, by rw [heq]; exact himage⟩
    rw [build, hcompiled]

/-- Two modules define a person who may have a boss, where the second one seals addresses and does
not define texts. Of three faults, the one that the persons alone show is found with both. -/
theorem exists_diagnostics_sublist :
    ∃ source references others,
      (diagnosticsOf (build source others)).Sublist (diagnosticsOf (build source references))
        ∧ (diagnosticsOf (build source references)).map (·.line) = [some 4, some 5, some 6]
        ∧ (diagnosticsOf (build source others)).map (·.line) = [some 5] := by
  let person : Schema := ⟨"Person",
    some (.ofList [("boss", "Person"), ("home", "Address"), ("name", "string")])⟩
  let address : Schema := ⟨"Address", some (.ofList [("city", "string")])⟩
  let known : Module := ⟨"demo", [.sealed "Card", address, person, .empty "string"]⟩
  let fewer : Module := ⟨"demo", [.sealed "Card", .sealed "Address", person]⟩
  let references : References := (∅ : References).insert "demo" known.bytes
  let others : References := (∅ : References).insert "demo" fewer.bytes
  let source : String := "unit u\nrenderer View : Card<Person>\nexecute\n"
    ++ "write Model.boss.home.street ?? Model.name\nwrite Model.Boss.boss.age\n"
    ++ "write Model.home.city.size\nend"
  have hreadable : ∀ module : Module, AreReadable ((∅ : References).insert "demo" module.bytes) := by
    intro module entry hentry
    obtain rfl := List.mem_singleton.mp hentry
    rw [module.ofBytes?_bytes]
    rfl
  have hthins : Thins (boundTypes source) (knownTypes references) (knownTypes others) := by
    rw [knownTypes_insert_empty known.ofBytes?_bytes, knownTypes_insert_empty fewer.ofBytes?_bytes]
    intro type
    by_cases haddress : "Address" = type
    · subst haddress
      exact .sealed (get?_typeTable [known] _) (get?_typeTable [fewer] _)
    · by_cases hstring : "string" = type
      · subst hstring
        exact .dropped (by decide +kernel) (get?_typeTable [fewer] _)
      · refine .same ?_
        rw [get?_typeTable, get?_typeTable]
        simp [known, fewer, address, Schema.sealed, Schema.empty, haddress, hstring,
          List.find?_cons]
  have hfindings : ∀ module : Module,
      diagnosticsOf (build source ((∅ : References).insert "demo" module.bytes))
        = (Draft.ofSource (typeTable [module]) [] source.toList).findings.map
            Finding.diagnostic := by
    intro module
    rw [diagnosticsOf_build, draftOf, knownTypes_insert_empty module.ofBytes?_bytes,
      moduleFindings_of_areReadable (hreadable module)]
  have hsublist := (diagnostics_sublist_of_thins (hreadable known) (hreadable fewer) hthins).1
  refine ⟨source, references, others, hsublist, ?_, ?_⟩
  · rw [hfindings known]
    decide +kernel
  · rw [hfindings fewer]
    decide +kernel

end Stencil.Unit
