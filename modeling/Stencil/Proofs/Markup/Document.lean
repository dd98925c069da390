import Mathlib
import Stencil.Proofs.Markup.Lexeme

/-!
# Reading documents

A text that is not blank is read as a document exactly when it is a row of lexemes, and the document
says what the lexemes say, with adjacent literals joined
(`Document.parse_eq_ok_iff_exists_isRow`). The second part gathers what holds of every document that
has been read: its expressions are trimmed and not empty, and the names of its dependencies are
different identifiers.
-/

namespace Stencil.Markup

open Text

/-! ## Documents and rows -/

namespace Document

theorem exists_isRow_of_parse {text : String} {model : ModelType} {document : Document}
    (h : parse text model = .ok document) :
    ∃ name row, model.sourceName = .ok name ∧ Lexeme.text row = text.toList
      ∧ Lexeme.IsRow [] [] row
      ∧ document
        = ⟨model, .inherits baseContract name :: Segment.merge (row.flatMap Lexeme.segments)⟩ := by
  unfold parse at h
  split at h
  · cases h
  · split at h
    · cases h
    · next name hname =>
      split at h
      · cases h
      · next pieces hpieces =>
        obtain ⟨row, htext, hrow, hsegments⟩ := Lexeme.exists_isRow_of_pieces hpieces
        refine ⟨name, row, hname, htext, hrow, ?_⟩
        rw [← Except.ok.inj h, Segment.ofPieces_eq_prepend, hsegments]
        exact congrArg (fun body => Document.mk model (.inherits baseContract name :: body))
          (Segment.prepend_empty _)

/-- The markup is read exactly by its grammar. -/
theorem parse_eq_ok_iff_exists_isRow {text : String} {model : ModelType} {name : String}
    {document : Document} (htext : trim text.toList ≠ []) (hmodel : model.sourceName = .ok name) :
    parse text model = .ok document
      ↔ ∃ row, Lexeme.text row = text.toList ∧ Lexeme.IsRow [] [] row
        ∧ document
          = ⟨model,
              .inherits baseContract name :: Segment.merge (row.flatMap Lexeme.segments)⟩ := by
  constructor
  · intro h
    obtain ⟨name', row, hname, htext, hrow, hdocument⟩ := exists_isRow_of_parse h
    obtain rfl : name = name' := Except.ok.inj (hmodel.symm.trans hname)
    exact ⟨row, htext, hrow, hdocument⟩
  · rintro ⟨row, hsource, hrow, rfl⟩
    obtain ⟨pieces, hpieces, hmerge⟩ := Lexeme.exists_pieces hrow
    rw [hsource] at hpieces
    unfold parse
    rw [if_neg (by simpa using htext), hmodel]
    dsimp only
    rw [hpieces]
    dsimp only
    rw [Segment.ofPieces_eq_prepend, hmerge]
    exact congrArg (fun body => Except.ok (Document.mk model (.inherits baseContract name :: body)))
      (Segment.prepend_empty _)

/-- A template of every kind of lexeme, with a sign that is not live and a quoted bracket. -/
theorem exists_isRow_greeting :
    trim "@inject Clock\nDear @Model.name,@* x *@ @(Clock[\"]\"]) a@b @@".toList ≠ []
      ∧ (ModelType.ofTypeName "shop::Order").sourceName = .ok "shop.Order"
      ∧ ∃ row, Lexeme.text row
            = "@inject Clock\nDear @Model.name,@* x *@ @(Clock[\"]\"]) a@b @@".toList
          ∧ Lexeme.IsRow [] [] row
          ∧ (⟨.ofTypeName "shop::Order", [.inherits baseContract "shop.Order", .inject "Clock",
              .literal "Dear ", .expression "Model.name", .literal ", ", .expression "Clock[\"]\"]",
              .literal " a@b @"]⟩ : Document)
            = ⟨.ofTypeName "shop::Order", .inherits baseContract "shop.Order"
                :: Segment.merge (row.flatMap Lexeme.segments)⟩ :=
  ⟨by decide +kernel, by decide +kernel,
    (parse_eq_ok_iff_exists_isRow (by decide +kernel) (by decide +kernel)).mp (by decide +kernel)⟩

end Document

/-! ## What documents hold -/

namespace Segment

/-- Whether a segment may stand behind the binding of a document. -/
def IsProper : Segment → Prop
  | .inherits .. => False
  | .literal _ => True
  | .expression code => code.toList ≠ [] ∧ IsTrimmed code.toList
  | .inject name => isIdentifier name.toList = true

theorem mem_of_mem_prepend {text : String} {segment : Segment} {segments : List Segment}
    (h : segment ∈ prepend text segments) :
    (∃ text, segment = .literal text) ∨ segment ∈ segments := by
  unfold prepend at h
  split at h
  · rcases List.mem_cons.mp h with rfl | h
    · exact Or.inl ⟨_, rfl⟩
    · exact Or.inr (List.mem_cons_of_mem _ h)
  · split at h
    · exact Or.inr h
    · rcases List.mem_cons.mp h with rfl | h
      · exact Or.inl ⟨_, rfl⟩
      · exact Or.inr h

/-- Joining literals adds nothing but literals. -/
theorem mem_of_mem_merge {segment : Segment} {segments : List Segment}
    (h : segment ∈ merge segments) : (∃ text, segment = .literal text) ∨ segment ∈ segments := by
  induction segments with
  | nil => exact Or.inr h
  | cons first rest ih =>
    cases first with
    | literal text =>
      rcases mem_of_mem_prepend h with hliteral | h
      · exact Or.inl hliteral
      · exact (ih h).imp_right (List.mem_cons_of_mem _)
    | _ =>
      rcases List.mem_cons.mp h with rfl | h
      · exact Or.inr List.mem_cons_self
      · exact (ih h).imp_right (List.mem_cons_of_mem _)

theorem filterMap_prepend (text : String) (segments : List Segment) :
    (prepend text segments).filterMap injection? = segments.filterMap injection? := by
  unfold prepend
  split
  · rfl
  · split
    · rfl
    · rfl

/-- Joining literals touches no declaration. -/
theorem filterMap_merge (segments : List Segment) :
    (merge segments).filterMap injection? = segments.filterMap injection? := by
  induction segments with
  | nil => rfl
  | cons first rest ih =>
    cases first with
    | literal text =>
      rw [merge, filterMap_prepend, ih]
      rfl
    | _ => simp [merge, List.filterMap_cons, ih]

end Segment

theorem isBlank_getLast?_steps {steps after : List Char} (h : IsSteps steps after) :
    ∀ c, steps.getLast? = some c → isBlank c = false := by
  induction h with
  | done => exact fun c hc => nomatch hc
  | @member name steps after hname _ _ ih =>
    intro c hc
    rw [List.getLast?_append, Option.or_eq_some_iff] at hc
    rcases hc with hc | ⟨-, hc⟩
    · exact ih c hc
    · obtain ⟨first, more, rfl⟩ := List.exists_cons_of_ne_nil (ne_nil_of_isIdentifier hname)
      exact (isTrimmed_of_isIdentifier hname).last c hc
  | @index inner steps after _ _ ih =>
    intro c hc
    rw [List.getLast?_append, List.getLast?_cons] at hc
    cases hsteps : steps.getLast? with
    | none =>
      rw [hsteps] at hc
      obtain rfl := Option.some.inj hc
      decide
    | some d =>
      rw [hsteps] at hc
      exact ih c (hsteps.trans hc)

theorem isTrimmed_path {name steps after : List Char} (hname : isIdentifier name = true)
    (hsteps : IsSteps steps after) : IsTrimmed (name ++ steps) where
  head c hc := by
    obtain ⟨first, more, rfl⟩ := List.exists_cons_of_ne_nil (ne_nil_of_isIdentifier hname)
    exact (isTrimmed_of_isIdentifier hname).head c hc
  last c hc := by
    rw [List.getLast?_append, Option.or_eq_some_iff] at hc
    rcases hc with hc | ⟨-, hc⟩
    · exact isBlank_getLast?_steps hsteps c hc
    · exact (isTrimmed_of_isIdentifier hname).last c hc

theorem isProper_of_isConstruct {injected : List (List Char)} {body after : List Char}
    {piece : Piece} (h : IsConstruct injected body after piece) :
    ∀ segment ∈ piece.segments, segment.IsProper := by
  intro segment hsegment
  cases h with
  | sign =>
    rw [List.mem_singleton.mp hsegment]
    trivial
  | comment => exact absurd hsegment List.not_mem_nil
  | @explicit code _ _ hcode =>
    rw [List.mem_singleton.mp hsegment]
    show (String.ofList (trim code)).toList ≠ [] ∧ IsTrimmed (String.ofList (trim code)).toList
    rw [String.toList_ofList]
    exact ⟨hcode, isTrimmed_trim code⟩
  | @inject blank line _ _ _ _ _ hname _ =>
    rw [List.mem_singleton.mp hsegment]
    show isIdentifier (String.ofList (trim line)).toList = true
    rwa [String.toList_ofList]
  | @implicit name steps _ hname _ _ _ hsteps =>
    rw [List.mem_singleton.mp hsegment]
    show (String.ofList (name ++ steps)).toList ≠ []
      ∧ IsTrimmed (String.ofList (name ++ steps)).toList
    rw [String.toList_ofList]
    exact ⟨fun hnil => ne_nil_of_isIdentifier hname (List.append_eq_nil_iff.mp hnil).1,
      isTrimmed_path hname hsteps⟩

theorem filterMap_segments (piece : Piece) :
    piece.segments.filterMap Segment.injection? = piece.injection.map String.ofList := by
  cases piece <;> rfl

theorem isProper_of_isRow {injected : List (List Char)} {before : List Char} {row : List Lexeme}
    (h : Lexeme.IsRow injected before row) :
    ∀ segment ∈ row.flatMap Lexeme.segments, segment.IsProper := by
  induction h with
  | nil => exact fun segment hsegment => absurd hsegment List.not_mem_nil
  | run _ _ ih =>
    intro segment hsegment
    rcases List.mem_append.mp hsegment with hsegment | hsegment
    · rw [List.mem_singleton.mp hsegment]
      trivial
    · exact ih segment hsegment
  | construct _ hconstruct _ ih =>
    intro segment hsegment
    rcases List.mem_append.mp hsegment with hsegment | hsegment
    · exact isProper_of_isConstruct hconstruct segment hsegment
    · exact ih segment hsegment

/-- No dependency is declared twice. -/
theorem nodup_of_isRow {injected : List (List Char)} {before : List Char} {row : List Lexeme}
    (h : Lexeme.IsRow injected before row) :
    ((row.flatMap Lexeme.segments).filterMap Segment.injection?).Nodup
      ∧ ∀ name ∈ injected,
          String.ofList name ∉ (row.flatMap Lexeme.segments).filterMap Segment.injection? := by
  induction h with
  | nil => exact ⟨List.nodup_nil, fun _ _ => List.not_mem_nil⟩
  | run _ _ ih => exact ih
  | @construct injected before body piece row _ hconstruct _ ih =>
    rw [List.flatMap_cons, List.filterMap_append, filterMap_segments]
    obtain ⟨hnodup, hnew⟩ := ih
    -- A construct declares one dependency, which is new, or none.
    have hinjection : piece.injection = []
        ∨ ∃ name, piece.injection = [name] ∧ name ∉ injected := by
      cases hconstruct with
      | inject _ _ _ _ hname => exact Or.inr ⟨_, rfl, hname⟩
      | _ => exact Or.inl rfl
    rcases hinjection with hnone | ⟨name, hone, hname⟩
    · rw [hnone] at hnew ⊢
      exact ⟨hnodup, hnew⟩
    · rw [hone] at hnew ⊢
      refine ⟨List.nodup_cons.mpr ⟨hnew name List.mem_cons_self, hnodup⟩,
        fun other hother hmem => ?_⟩
      rcases List.mem_cons.mp hmem with heq | hmem
      · exact hname (String.ofList_injective heq ▸ hother)
      · exact hnew other (List.mem_cons_of_mem _ hother) hmem

/-- What stands behind the binding of a document that has been read. -/
structure IsBody (body : List Segment) : Prop where
  proper : ∀ segment ∈ body, segment.IsProper
  distinct : (body.filterMap Segment.injection?).Nodup

theorem IsBody.isIdentifier_of_mem {body : List Segment} (hbody : IsBody body) {name : String}
    (h : name ∈ body.filterMap Segment.injection?) : isIdentifier name.toList = true := by
  obtain ⟨segment, hsegment, hinjection⟩ := List.mem_filterMap.mp h
  have hproper := hbody.proper segment hsegment
  cases segment with
  | inject other =>
    cases hinjection
    exact hproper
  | inherits contract model => cases hinjection
  | literal text => cases hinjection
  | expression code => cases hinjection

/-- A document that has been read is bound to its model, and its expressions and dependencies are
well formed. -/
theorem Document.exists_isBody_of_parse {text : String} {model : ModelType} {document : Document}
    (h : parse text model = .ok document) :
    ∃ name body, model.sourceName = .ok name
      ∧ document = ⟨model, .inherits baseContract name :: body⟩ ∧ IsBody body := by
  obtain ⟨name, row, hname, -, hrow, rfl⟩ := exists_isRow_of_parse h
  refine ⟨name, _, hname, rfl, fun segment hsegment => ?_, ?_⟩
  · rcases Segment.mem_of_mem_merge hsegment with ⟨text, rfl⟩ | hsegment
    · trivial
    · exact isProper_of_isRow hrow segment hsegment
  · rw [Segment.filterMap_merge]
    exact (nodup_of_isRow hrow).1

end Stencil.Markup
