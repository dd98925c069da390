import Mathlib
import Stencil.Proofs.Expression.Nesting
import Stencil.Proofs.Markup.Document

/-!
# The normal form of documents

A document that has been read is bound to its model once and at its front. No literal of it is empty
and no two are adjacent, its dependencies are different identifiers, and its expressions are trimmed
and closed: they end outside of all string literals (`Document.isNormalized_of_parse`).

That expressions are closed rests on the group reader, which ends a group only outside of a string,
and on the blanks that trimming takes off, none of which ends a string. The tokens of a closed
expression leave no string open, because they enter and leave strings where the scanner does
(`Expression.tokens_ne_openString`).
-/

namespace Stencil

open Text

/-! ## Expressions that end outside of strings -/

namespace Markup

namespace Quoting

theorem after_of_not_mem {text : List Char} (h : '"' ∉ text) : outside.after text = .outside := by
  induction text with
  | nil => rfl
  | cons c text ih =>
    rw [List.mem_cons, not_or] at h
    rw [after_cons, next_outside (Ne.symm h.1), ih h.2]

theorem not_mem_of_isBlank {blanks : List Char} (h : ∀ c ∈ blanks, isBlank c = true) :
    '"' ∉ blanks :=
  fun hmem => absurd (h '"' hmem) (by decide)

/-- Blanks do not lead out of a string. -/
theorem after_ne_outside {quoting : Quoting} {blanks : List Char}
    (h : ∀ c ∈ blanks, isBlank c = true) (hquoting : quoting ≠ .outside) :
    quoting.after blanks ≠ .outside := by
  induction blanks generalizing quoting with
  | nil => exact hquoting
  | cons c blanks ih =>
    rw [List.forall_mem_cons] at h
    have hquote : c ≠ '"' := by
      rintro rfl
      exact absurd h.1 (by decide)
    have hnext : quoting.next c ≠ .outside := by
      cases quoting with
      | outside => exact absurd rfl hquoting
      | inside =>
        rw [next, if_neg hquote]
        split <;> decide
      | escaped => simp [next]
    exact ih h.2 hnext

/-- A text that ends outside of all strings still does when it is trimmed. -/
theorem after_trim {text : List Char} (h : outside.after text = .outside) :
    outside.after (trim text) = .outside := by
  obtain ⟨before, behind, htext, hbefore, hbehind⟩ := exists_trim text
  rw [htext, after_append, after_append, after_of_not_mem (not_mem_of_isBlank hbefore)] at h
  by_contra hinside
  exact after_ne_outside hbehind hinside h

theorem after_of_isIdentifier {name : List Char} (h : isIdentifier name = true) :
    outside.after name = .outside :=
  after_of_not_mem fun hmem =>
    absurd (continuesIdentifier_of_isIdentifier h '"' hmem) (by decide)

end Quoting

/-- A group ends outside of all strings: in a string its closing bracket would not count. -/
theorem IsGroup.after_eq_outside {opening closing : Char} {inner : List Char}
    (hopening : opening ≠ '"') (h : IsGroup opening closing inner) :
    Quoting.outside.after inner = .outside := by
  by_contra hinside
  have hclosed := h.closed
  have hturn : turn opening closing (Quoting.outside.after (opening :: inner)) closing = 0 := by
    rw [Quoting.after_cons, Quoting.next_outside hopening, turn, if_neg fun h => hinside h.1,
      if_neg fun h => hinside h.1]
  rw [nesting_append, nesting_singleton, hturn, add_zero] at hclosed
  exact h.first inner List.prefix_rfl hclosed

theorem IsSteps.after_eq_outside {steps after : List Char} (h : IsSteps steps after) :
    Quoting.outside.after steps = .outside := by
  induction h with
  | done => rfl
  | @member name steps _ hname _ _ ih =>
    rw [List.cons_append, Quoting.after_cons, Quoting.next_outside (by decide),
      Quoting.after_append, Quoting.after_of_isIdentifier hname, ih]
  | @index inner steps _ hgroup _ ih =>
    rw [List.cons_append, Quoting.after_cons, Quoting.next_outside (by decide),
      Quoting.after_append, hgroup.after_eq_outside (by decide), Quoting.after_cons,
      Quoting.next_outside (by decide), ih]

/-- The expression of a construct ends outside of all strings, whichever way it is written. -/
theorem IsConstruct.after_eq_outside {injected : List (List Char)} {body after code : List Char}
    (h : IsConstruct injected body after (.expression code)) :
    Quoting.outside.after code = .outside := by
  cases h with
  | explicit hgroup _ => exact Quoting.after_trim (hgroup.after_eq_outside (by decide))
  | implicit hname _ _ _ hsteps =>
    rw [Quoting.after_append, Quoting.after_of_isIdentifier hname, hsteps.after_eq_outside]

end Markup

/-! ## Tokens of closed expressions -/

namespace Expression

open Markup (Quoting)

theorem after_ne_of_readString {start offset : Nat} {text : List Char}
    (h : readString start text = .error (.openString offset)) :
    Quoting.inside.after text ≠ .outside := by
  fun_induction readString start text with
  | case1 => decide
  | case3 => decide
  | case6 c rest d hc e hrest ih => exact ih (hrest.trans h)
  | case8 c rest hquote hlast hescape e hrest ih =>
    have hback : c ≠ '\\' := by
      rintro rfl
      cases rest with
      | nil => exact hlast rfl rfl
      | cons d more => exact hescape d more rfl rfl
    have hnext : Quoting.inside.next c = .inside := by
      rw [Quoting.next, if_neg hback, if_neg hquote]
    rw [Quoting.after_cons, hnext]
    exact ih (hrest.trans h)
  | case2 | case4 | case5 | case7 => cases h

theorem after_ne_of_readToken {start offset : Nat} {c : Char} {rest : List Char}
    (h : readToken start c rest = .error (.openString offset)) :
    Quoting.outside.after (c :: rest) ≠ .outside := by
  unfold readToken at h
  split at h
  · cases h
  · split at h
    · split at h <;> cases h
    · split at h
      · next hquote =>
        split at h
        · cases h
        · next e hread =>
          rw [Except.error.inj h] at hread
          rw [hquote]
          exact after_ne_of_readString hread
      · split at h
        · split at h <;> cases h
        · split at h <;> cases h

/-- No string is left open in a text that ends outside of all strings. -/
theorem tokensFrom_ne_openString {start : Nat} {text : List Char}
    (h : Quoting.outside.after text = .outside) (offset : Nat) :
    tokensFrom start text ≠ .error (.openString offset) := by
  fun_induction tokensFrom start text with
  | case1 => simp
  | case2 start c rest hblank ih =>
    have hquote : c ≠ '"' := by
      rintro rfl
      exact absurd hblank (by decide)
    rw [Quoting.after_cons, Quoting.next_outside hquote] at h
    exact ih h
  | case3 start c rest _ e hread =>
    intro herror
    rw [Except.error.inj herror] at hread
    exact after_ne_of_readToken hread h
  | case4 => simp
  | case5 start c rest _ t after hread e hmore ih =>
    -- The token leads back to the outside, so what follows it is read from there.
    obtain ⟨source, htext, ht, -⟩ := exists_of_readToken hread
    rw [htext, Quoting.after_append, ht.turns.outside] at h
    rw [← hmore]
    exact ih h

theorem tokens_ne_openString {code : List Char} (h : Quoting.outside.after code = .outside)
    (offset : Nat) : tokens code ≠ .error (.openString offset) :=
  tokensFrom_ne_openString h offset

end Expression

/-! ## Joined literals -/

namespace Markup

namespace Segment

/-- Whether a segment is literal text. -/
def isLiteral : Segment → Bool
  | .literal _ => true
  | _ => false

/-- Whether the literals of a row are joined: none is empty, and no two are adjacent. -/
structure IsJoined (segments : List Segment) : Prop where
  filled : .literal "" ∉ segments
  apart : segments.IsChain fun first second => ¬ (first.isLiteral ∧ second.isLiteral)

theorem isJoined_nil : IsJoined [] where
  filled := List.not_mem_nil
  apart := .nil

theorem isJoined_cons_iff {first : Segment} {rest : List Segment} :
    IsJoined (first :: rest)
      ↔ first ≠ .literal "" ∧ (∀ second ∈ rest.head?, ¬ (first.isLiteral ∧ second.isLiteral))
        ∧ IsJoined rest := by
  constructor
  · intro h
    have hapart := List.isChain_cons.mp h.apart
    refine ⟨fun hfirst => h.filled (hfirst ▸ List.mem_cons_self), hapart.1, ?_, hapart.2⟩
    exact fun hmem => h.filled (List.mem_cons_of_mem _ hmem)
  · rintro ⟨hfirst, hsecond, hrest⟩
    refine ⟨fun hmem => ?_, List.isChain_cons.mpr ⟨hsecond, hrest.apart⟩⟩
    rcases List.mem_cons.mp hmem with heq | hmem
    · exact hfirst heq.symm
    · exact hrest.filled hmem

theorem isJoined_prepend (text : String) {segments : List Segment} (h : IsJoined segments) :
    IsJoined (prepend text segments) := by
  unfold prepend
  split
  · next more rest =>
    -- The literal at the front grows, so it is not empty, and behind it stands what stood there.
    obtain ⟨hfilled, hsecond, hrest⟩ := isJoined_cons_iff.mp h
    refine isJoined_cons_iff.mpr ⟨fun heq => hfilled ?_, hsecond, hrest⟩
    rw [(String.append_eq_empty_iff.mp (Segment.literal.inj heq)).2]
  · next hother =>
    split
    · exact h
    · next htext =>
      refine isJoined_cons_iff.mpr ⟨fun heq => htext (Segment.literal.inj heq), ?_, h⟩
      rintro second hsecond ⟨-, hliteral⟩
      obtain ⟨rest, rfl⟩ := List.head?_eq_some_iff.mp hsecond
      cases second with
      | literal more => exact hother more rest rfl
      | _ => cases hliteral

theorem isJoined_merge (segments : List Segment) : IsJoined (merge segments) := by
  induction segments with
  | nil => exact isJoined_nil
  | cons first rest ih =>
    cases first with
    | literal text => exact isJoined_prepend text ih
    | _ => exact isJoined_cons_iff.mpr ⟨by simp, fun _ _ h => Bool.false_ne_true h.1, ih⟩

end Segment

/-! ## Documents -/

/-- Whether the code of an expression is in normal form: trimmed, not empty, and with every string
literal ended, which the scanner of the markup and the tokens of the expression agree on. -/
structure IsNormalCode (code : List Char) : Prop where
  filled : code ≠ []
  trimmed : IsTrimmed code
  outside : Quoting.outside.after code = .outside
  closed : ∀ offset, Expression.tokens code ≠ .error (.openString offset)

namespace Document

/-- Whether a document is in normal form. -/
structure IsNormalized (document : Document) : Prop where
  /-- It starts with the binding to its model, and nothing else in it is a binding. -/
  bound : ∃ name body, document.model.sourceName = .ok name
    ∧ document.segments = .inherits baseContract name :: body
    ∧ ∀ contract model, .inherits contract model ∉ body
  /-- No literal is empty, and no two are adjacent. -/
  joined : Segment.IsJoined document.segments
  /-- No dependency is declared twice. -/
  distinct : document.injections.Nodup
  /-- Dependencies are identifiers. -/
  identifiers : ∀ name ∈ document.injections, isIdentifier name.toList = true
  /-- Expressions are trimmed, not empty and closed. -/
  expressions : ∀ code, .expression code ∈ document.segments → IsNormalCode code.toList

theorem after_eq_outside_of_isRow {injected : List (List Char)} {before : List Char}
    {row : List Lexeme} (h : Lexeme.IsRow injected before row) {code : String}
    (hcode : .expression code ∈ row.flatMap Lexeme.segments) :
    Quoting.outside.after code.toList = .outside := by
  induction h with
  | nil => cases hcode
  | run _ _ ih =>
    rcases List.mem_append.mp hcode with hcode | hcode
    · cases List.mem_singleton.mp hcode
    · exact ih hcode
  | @construct _ _ _ piece _ _ hconstruct _ ih =>
    rcases List.mem_append.mp hcode with hcode | hcode
    · -- Of the pieces only an expression is an expression, and its construct ends outside.
      cases piece with
      | expression written =>
        obtain rfl := Segment.expression.inj (List.mem_singleton.mp hcode)
        rw [String.toList_ofList]
        exact hconstruct.after_eq_outside
      | char c => cases List.mem_singleton.mp hcode
      | sign => cases List.mem_singleton.mp hcode
      | comment => cases hcode
      | inject name => cases List.mem_singleton.mp hcode
    · exact ih hcode

theorem mem_of_mem_merge_of_expression {code : String} {segments : List Segment}
    (h : .expression code ∈ Segment.merge segments) : .expression code ∈ segments := by
  rcases Segment.mem_of_mem_merge h with ⟨text, htext⟩ | h
  · cases htext
  · exact h

/-- Every document that is read is in normal form, and it is bound to the model that it was read
for. -/
theorem isNormalized_of_parse {text : String} {model : ModelType} {document : Document}
    (h : parse text model = .ok document) : document.model = model ∧ document.IsNormalized := by
  obtain ⟨name, row, hname, -, hrow, hdocument⟩ := exists_isRow_of_parse h
  obtain ⟨name', body, -, hdocument', hbody⟩ := exists_isBody_of_parse h
  obtain ⟨rfl, rfl⟩ : name = name' ∧ Segment.merge (row.flatMap Lexeme.segments) = body := by
    simpa using hdocument.symm.trans hdocument'
  subst hdocument
  refine ⟨rfl, ⟨name, _, hname, rfl, fun contract model hmem => hbody.proper _ hmem⟩, ?_,
    hbody.distinct, fun other hother => hbody.isIdentifier_of_mem hother, fun code hcode => ?_⟩
  · exact Segment.isJoined_cons_iff.mpr
      ⟨nofun, fun _ _ hboth => Bool.false_ne_true hboth.1, Segment.isJoined_merge _⟩
  · have hmem : .expression code ∈ Segment.merge (row.flatMap Lexeme.segments) :=
      (List.mem_cons.mp hcode).resolve_left nofun
    have houtside := after_eq_outside_of_isRow hrow (mem_of_mem_merge_of_expression hmem)
    obtain ⟨hfilled, htrimmed⟩ := hbody.proper _ hmem
    exact ⟨hfilled, htrimmed, houtside, Expression.tokens_ne_openString houtside⟩

/-- Blanks behind a quoted blank and parenthesis, a quoted bracket in a path, a comment between two
literals, and an address. -/
theorem isNormalized_quoted :
    parse "@inject Clock\nDear @( x[\" )\"] )@@,@* \" *@ @Clock[\"]\\\"\"].é a@b"
        (.ofTypeName "shop::Order")
      = .ok ⟨.ofTypeName "shop::Order", [.inherits baseContract "shop.Order", .inject "Clock",
          .literal "Dear ", .expression "x[\" )\"]", .literal "@, ",
          .expression "Clock[\"]\\\"\"].é", .literal " a@b"]⟩
      ∧ Document.IsNormalized ⟨.ofTypeName "shop::Order", [.inherits baseContract "shop.Order",
          .inject "Clock", .literal "Dear ", .expression "x[\" )\"]", .literal "@, ",
          .expression "Clock[\"]\\\"\"].é", .literal " a@b"]⟩ := by
  have hparse : parse "@inject Clock\nDear @( x[\" )\"] )@@,@* \" *@ @Clock[\"]\\\"\"].é a@b"
        (.ofTypeName "shop::Order")
      = .ok ⟨.ofTypeName "shop::Order", [.inherits baseContract "shop.Order", .inject "Clock",
          .literal "Dear ", .expression "x[\" )\"]", .literal "@, ",
          .expression "Clock[\"]\\\"\"].é", .literal " a@b"]⟩ := by
    decide +kernel
  exact ⟨hparse, (isNormalized_of_parse hparse).2⟩

end Document

end Markup

end Stencil
