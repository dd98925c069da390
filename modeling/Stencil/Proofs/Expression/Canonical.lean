import Mathlib
import Stencil.Proofs.Expression.Grammar
import Stencil.Proofs.Expression.Lexeme

/-!
# Canonical expressions

What is read as an expression is made in one way only: the names in it are identifiers, its numbers
fit, and a chain has two operands at least. `isCanonical_of_parse` says so; it is read off the
lexemes, which make the names and the numbers, and off the grammar, which makes the tree.
-/

namespace Stencil

open Decimal (Double fitsSigned)
open Text

/-- Whether a value can be written down without a point: nothing, a truth value, a text, or a whole
number of 64 bits with a sign. -/
inductive Value.IsLiteral : Value → Prop
  | null : IsLiteral .null
  | bool (value : Bool) : IsLiteral (.bool value)
  | whole {value : Int} (h : fitsSigned value = true) : IsLiteral (.number (.whole value))
  | string (text : String) : IsLiteral (.string text)

/-- Whether a value can be written down, as a number with a point or without one. -/
def Value.IsLiteralOrDouble (value : Value) : Prop :=
  value.IsLiteral ∨ ∃ x : Double, value = .number (.double x)

/-- Whether a step can be written down: a member has an identifier for a name, and the position of
an item fits 64 bits with a sign. -/
def Step.IsCanonical : Step → Prop
  | .member name => isIdentifier name.toList = true
  | .index position => position < 2 ^ 63
  | .key _ => True

namespace Expression

/-- Whether an expression can be written down, with literals of the given kind: no path starts with
a word that is a literal, and a chain has two operands at least. -/
inductive IsCanonical (literals : Value → Prop) : Expression → Prop
  | path {root : String} {steps : List Step} (hroot : isIdentifier root.toList = true)
    (htrue : root ≠ "true") (hfalse : root ≠ "false") (hnull : root ≠ "null")
    (hsteps : ∀ step ∈ steps, step.IsCanonical) : IsCanonical literals (.path root steps)
  | literal {value : Value} (h : literals value) : IsCanonical literals (.literal value)
  | coalesce {operands : List Expression} (hseveral : 2 ≤ operands.length)
    (h : ∀ operand ∈ operands, IsCanonical literals operand) :
    IsCanonical literals (.coalesce operands)

/-! ## Tokens -/

/-- Whether a token can be in an expression: names are identifiers, and whole numbers fit. -/
def Token.IsProper : Token → Prop
  | .name word => isIdentifier word.toList = true
  | .whole value => fitsSigned value = true
  | _ => True

theorem IsLexeme.isProper {source : List Char} {t : Token} (h : IsLexeme source t) :
    t.IsProper := by
  cases h with
  | mark h =>
    unfold Token.ofMark? at h
    split at h <;> cases h <;> trivial
  | coalesce => trivial
  | text => trivial
  | number _ _ h =>
    rcases token?_eq_some h with ⟨-, value, rfl, hfits⟩ | ⟨digits, x, -, rfl⟩
    · exact hfits
    · trivial
  | name h =>
    show isIdentifier (String.ofList source).toList = true
    rwa [String.toList_ofList]

theorem IsRow.isProper {text : List Char} {ts : List Token} (h : IsRow text ts) :
    ∀ t ∈ ts, t.IsProper := by
  induction h with
  | nil => exact fun t ht => nomatch ht
  | blank _ _ ih => exact ih
  | lexeme ht _ _ ih => exact List.forall_mem_cons.mpr ⟨ht.isProper, ih⟩

/-! ## Trees -/

theorem IsSteps.isCanonical {ts : List Token} {steps : List Step} (h : IsSteps ts steps)
    (hts : ∀ t ∈ ts, t.IsProper) : ∀ step ∈ steps, step.IsCanonical := by
  induction h with
  | nil => exact fun step hstep => nomatch hstep
  | member name _ ih =>
    simp only [List.forall_mem_cons] at hts
    exact List.forall_mem_cons.mpr ⟨hts.2.1, ih hts.2.2⟩
  | index position _ ih =>
    simp only [List.forall_mem_cons] at hts
    have hfits : fitsSigned position = true := hts.2.1
    simp only [fitsSigned, Bool.and_eq_true, decide_eq_true_eq] at hfits
    refine List.forall_mem_cons.mpr ⟨?_, ih hts.2.2.2⟩
    show position < 2 ^ 63
    omega
  | key name _ ih =>
    simp only [List.forall_mem_cons] at hts
    exact List.forall_mem_cons.mpr ⟨trivial, ih hts.2.2.2⟩

mutual

theorem IsOperand.isCanonical : ∀ {ts : List Token} {e : Expression}, IsOperand ts e →
    (∀ t ∈ ts, t.IsProper) → e.IsCanonical Value.IsLiteralOrDouble
  | _, _, .path htrue hfalse hnull hsteps, hts =>
    have hparts := List.forall_mem_cons.mp hts
    .path hparts.1 htrue hfalse hnull (hsteps.isCanonical hparts.2)
  | _, _, .text content, _ => .literal (Or.inl (.string content))
  | _, _, .whole value, hts => .literal (Or.inl (.whole (hts (.whole value) List.mem_cons_self)))
  | _, _, .double value, _ => .literal (Or.inr ⟨value, rfl⟩)
  | _, _, .yes, _ => .literal (Or.inl (.bool true))
  | _, _, .no, _ => .literal (Or.inl (.bool false))
  | _, _, .null, _ => .literal (Or.inl .null)
  | _, _, .group h, hts => h.isCanonical fun t ht => hts t (by simp [ht])

theorem IsChain.isCanonical : ∀ {ts : List Token} {operands : List Expression},
    IsChain ts operands → (∀ t ∈ ts, t.IsProper) →
      ∀ operand ∈ operands, operand.IsCanonical Value.IsLiteralOrDouble
  | _, _, .single h, hts => List.forall_mem_singleton.mpr (h.isCanonical hts)
  | _, _, .cons h hrest, hts => List.forall_mem_cons.mpr
      ⟨h.isCanonical fun t ht => hts t (by simp [ht]),
        hrest.isCanonical fun t ht => hts t (by simp [ht])⟩

theorem IsExpression.isCanonical : ∀ {ts : List Token} {e : Expression}, IsExpression ts e →
    (∀ t ∈ ts, t.IsProper) → e.IsCanonical Value.IsLiteralOrDouble
  | _, _, .operand h, hts => h.isCanonical hts
  | _, _, .coalesce h hseveral, hts => .coalesce hseveral (h.isCanonical hts)

end

/-- What is read as an expression is canonical, numbers with a point included. -/
theorem isCanonical_of_parse {code : List Char} {e : Expression} (h : parse code = .ok e) :
    e.IsCanonical Value.IsLiteralOrDouble := by
  obtain ⟨ts, htokens, hderived⟩ := parse_eq_ok_iff_exists_tokens.mp h
  exact hderived.isCanonical (tokens_eq_ok_iff.mp htokens).isProper

end Expression

end Stencil
