import Mathlib
import Stencil.Proofs.Expression.Grammar
import Stencil.Proofs.Expression.Lexeme
import Stencil.Proofs.Markup.Group
import Stencil.Proofs.Source.Folding

/-!
# The parentheses of expressions

An expression makes a group with parentheses around it (`isGroup_of_parse`). Its tokens are
balanced, which is read off the grammar, and its text nests as its tokens do, because a lexeme that
is no parenthesis holds none outside of strings and leads out of every string that it leads into.
-/

namespace Stencil

namespace Markup

theorem nesting_append (opening closing : Char) (quoting : Quoting) (front rest : List Char) :
    nesting opening closing quoting (front ++ rest)
      = nesting opening closing quoting front
        + nesting opening closing (quoting.after front) rest := by
  induction front generalizing quoting with
  | nil => rw [List.nil_append, nesting, Quoting.after_nil, zero_add]
  | cons c front ih => rw [List.cons_append, nesting, nesting, ih, Quoting.after_cons, add_assoc]

end Markup

theorem prefix_append_cases {front source rest : List α} (h : front <+: source ++ rest) :
    front <+: source ∨ ∃ more, front = source ++ more ∧ more <+: rest := by
  obtain ⟨behind, hbehind⟩ := h
  rcases List.append_eq_append_iff.mp hbehind with ⟨more, rfl, -⟩ | ⟨more, rfl, rfl⟩
  · exact Or.inl (List.prefix_append _ _)
  · exact Or.inr ⟨more, rfl, List.prefix_append _ _⟩

namespace Expression

open Markup (Quoting nesting turn IsGroup)
open Text

/-! ## Lexemes -/

/-- By how much a token changes the nesting of parentheses. -/
def Token.turn : Token → Int
  | .openParen => 1
  | .closeParen => -1
  | _ => 0

/-- Whether a text that starts outside of all strings ends there, having changed the nesting of
parentheses once at most. -/
structure Turns (source : List Char) (change : Int) : Prop where
  outside : Quoting.outside.after source = .outside
  whole : nesting '(' ')' .outside source = change
  front : ∀ front, front <+: source →
    nesting '(' ')' .outside front = 0 ∨ nesting '(' ')' .outside front = change

/-- Whether a character is no quote and no parenthesis. -/
def IsFlat (c : Char) : Prop :=
  c ≠ '"' ∧ c ≠ '(' ∧ c ≠ ')'

instance (c : Char) : Decidable (IsFlat c) :=
  inferInstanceAs (Decidable (_ ∧ _))

theorem of_isFlat {text : List Char} (h : ∀ c ∈ text, IsFlat c) :
    Quoting.outside.after text = .outside ∧ nesting '(' ')' .outside text = 0 := by
  induction text with
  | nil => exact ⟨rfl, rfl⟩
  | cons c text ih =>
    obtain ⟨⟨hquote, hopening, hclosing⟩, hmore⟩ := List.forall_mem_cons.mp h
    obtain ⟨hafter, hnesting⟩ := ih hmore
    rw [Quoting.after_cons, nesting, Quoting.next_outside hquote, hafter, hnesting, turn,
      if_neg fun h => hclosing h.2, if_neg fun h => hopening h.2]
    exact ⟨rfl, rfl⟩

theorem turns_of_isFlat {source : List Char} (h : ∀ c ∈ source, IsFlat c) : Turns source 0 where
  outside := (of_isFlat h).1
  whole := (of_isFlat h).2
  front _ hfront := Or.inl (of_isFlat fun c hc => h c (hfront.subset hc)).2

theorem turns_singleton {c : Char} (h : c ≠ '"') : Turns [c] (turn '(' ')' .outside c) where
  outside := Quoting.next_outside h
  whole := Markup.nesting_singleton c
  front front hfront := by
    rcases List.prefix_cons_iff.mp hfront with rfl | ⟨more, rfl, hmore⟩
    · exact Or.inl rfl
    · rw [List.prefix_nil.mp hmore]
      exact Or.inr (Markup.nesting_singleton c)

/-- Between the quotes of a string literal no parenthesis counts. -/
theorem IsQuoted.nesting_eq_zero {body content : List Char} (h : IsQuoted body content) :
    Quoting.inside.after body = .inside
      ∧ ∀ front, front <+: body → nesting '(' ')' .inside front = 0 := by
  induction h with
  | nil => exact ⟨rfl, fun front hfront => by rw [List.prefix_nil.mp hfront]; rfl⟩
  | @plain c body content hquote hescape _ ih =>
    have hnext : Quoting.inside.next c = .inside := by
      rw [Quoting.next, if_neg hescape, if_neg hquote]
    refine ⟨by rw [Quoting.after_cons, hnext]; exact ih.1, fun front hfront => ?_⟩
    rcases List.prefix_cons_iff.mp hfront with rfl | ⟨more, rfl, hmore⟩
    · rfl
    · rw [nesting, hnext, ih.2 more hmore]
      rfl
  | @escape c d body content hc _ ih =>
    refine ⟨ih.1, fun front hfront => ?_⟩
    rcases List.prefix_cons_iff.mp hfront with rfl | ⟨more, rfl, hmore⟩
    · rfl
    · rcases List.prefix_cons_iff.mp hmore with rfl | ⟨last, rfl, hlast⟩
      · rfl
      · rw [nesting, nesting]
        exact (zero_add _).trans ((zero_add _).trans (ih.2 last hlast))

theorem turns_string {body content : List Char} (h : IsQuoted body content) :
    Turns ('"' :: body ++ ['"']) 0 := by
  obtain ⟨hafter, hnesting⟩ := h.nesting_eq_zero
  have hquote : ∀ more, nesting '(' ')' .outside ('"' :: more) = nesting '(' ')' .inside more :=
    fun more => zero_add _
  have hwhole : nesting '(' ')' .outside ('"' :: body ++ ['"']) = 0 := by
    rw [List.cons_append, hquote, Markup.nesting_append, hafter, hnesting body List.prefix_rfl]
    rfl
  refine ⟨?_, hwhole, fun front hfront => Or.inl ?_⟩
  · rw [Quoting.after_append, Quoting.after_cons]
    show (Quoting.inside.after body).after ['"'] = .outside
    rw [hafter]
    rfl
  · rcases List.prefix_concat_iff.mp hfront with rfl | hfront
    · exact hwhole
    · rcases List.prefix_cons_iff.mp hfront with rfl | ⟨more, rfl, hmore⟩
      · rfl
      · rw [hquote, hnesting more hmore]

theorem isFlat_of_isDigit {c : Char} (h : c.isDigit = true) : IsFlat c := by
  refine ⟨?_, ?_, ?_⟩ <;> rintro rfl <;> exact absurd h (by decide)

theorem isFlat_of_continuesIdentifier {c : Char} (h : continuesIdentifier c = true) :
    IsFlat c := by
  refine ⟨?_, ?_, ?_⟩ <;> rintro rfl <;> exact absurd h (by decide)

theorem isFlat_of_mem_chars {n : NumberText} (hdigits : n.IsDigits) : ∀ c ∈ n.chars, IsFlat c := by
  have hmark : IsFlat '-' ∧ IsFlat '.' := by decide
  intro c hc
  rw [NumberText.chars, List.mem_append, List.mem_append] at hc
  rcases hc with (hsign | hwhole) | hfraction
  · split at hsign
    · rw [List.mem_singleton.mp hsign]
      exact hmark.1
    · exact absurd hsign List.not_mem_nil
  · exact isFlat_of_isDigit (hdigits.whole c hwhole)
  · cases hn : n.fraction with
    | none =>
      rw [hn] at hfraction
      exact absurd hfraction List.not_mem_nil
    | some digits =>
      rw [hn] at hfraction
      rcases List.mem_cons.mp hfraction with rfl | hdigit
      · exact hmark.2
      · exact isFlat_of_isDigit (hdigits.fraction digits hn c hdigit)

/-- A lexeme changes the nesting only as the parenthesis that it is. -/
theorem IsLexeme.turns {source : List Char} {t : Token} (h : IsLexeme source t) :
    Turns source t.turn := by
  cases h with
  | @mark c t h =>
    have hquote : c ≠ '"' := by
      rintro rfl
      cases h
    have hturn : turn '(' ')' .outside c = t.turn := by
      unfold Token.ofMark? at h
      split at h <;> cases h <;> rfl
    exact hturn ▸ turns_singleton hquote
  | coalesce =>
    have hquestion : IsFlat '?' := by decide
    exact turns_of_isFlat (by simpa using hquestion)
  | text h => exact turns_string h
  | @number n t _ hdigits h =>
    have hturn : t.turn = 0 := by
      rcases token?_eq_some h with ⟨-, value, rfl, -⟩ | ⟨digits, x, -, rfl⟩ <;> rfl
    exact hturn ▸ turns_of_isFlat (isFlat_of_mem_chars hdigits)
  | name h =>
    exact turns_of_isFlat fun c hc =>
      isFlat_of_continuesIdentifier (continuesIdentifier_of_isIdentifier h c hc)

/-! ## Rows -/

/-- How many more parentheses a row of tokens opens than it closes. -/
def balance (ts : List Token) : Int :=
  (ts.map Token.turn).sum

@[simp] theorem balance_nil : balance [] = 0 := rfl

@[simp] theorem balance_cons (t : Token) (ts : List Token) :
    balance (t :: ts) = t.turn + balance ts :=
  List.sum_cons

@[simp] theorem balance_append (front rest : List Token) :
    balance (front ++ rest) = balance front + balance rest := by
  rw [balance, List.map_append, List.sum_append]
  rfl

/-- A row of lexemes ends outside of all strings, and it nests as its tokens do at every place. -/
theorem IsRow.nesting_eq {text : List Char} {ts : List Token} (h : IsRow text ts) :
    Quoting.outside.after text = .outside
      ∧ nesting '(' ')' .outside text = balance ts
      ∧ ∀ front, front <+: text →
          ∃ us, us <+: ts ∧ nesting '(' ')' .outside front = balance us := by
  induction h with
  | nil => exact ⟨rfl, rfl, fun front hfront => ⟨[], List.prefix_rfl, by
      rw [List.prefix_nil.mp hfront]; rfl⟩⟩
  | @blank c text ts hc _ ih =>
    have hflat : IsFlat c := by
      refine ⟨?_, ?_, ?_⟩ <;> rintro rfl <;> exact absurd hc (by decide)
    have hstep : ∀ more, nesting '(' ')' .outside (c :: more) = nesting '(' ')' .outside more := by
      intro more
      rw [nesting, turn, if_neg fun h => hflat.2.2 h.2, if_neg fun h => hflat.2.1 h.2,
        Quoting.next_outside hflat.1, zero_add]
    refine ⟨by rw [Quoting.after_cons, Quoting.next_outside hflat.1]; exact ih.1,
      by rw [hstep]; exact ih.2.1, fun front hfront => ?_⟩
    rcases List.prefix_cons_iff.mp hfront with rfl | ⟨more, rfl, hmore⟩
    · exact ⟨[], List.nil_prefix, rfl⟩
    · rw [hstep]
      exact ih.2.2 more hmore
  | @lexeme source text t ts ht _ _ ih =>
    have hturns := ht.turns
    have hstep : ∀ more, nesting '(' ')' .outside (source ++ more)
        = t.turn + nesting '(' ')' .outside more := by
      intro more
      rw [Markup.nesting_append, hturns.whole, hturns.outside]
    refine ⟨by rw [Quoting.after_append, hturns.outside]; exact ih.1,
      by rw [hstep, ih.2.1, balance_cons], fun front hfront => ?_⟩
    rcases prefix_append_cases hfront with hfront | ⟨more, rfl, hmore⟩
    · rcases hturns.front front hfront with hnone | hchange
      · exact ⟨[], List.nil_prefix, hnone⟩
      · exact ⟨[t], ⟨ts, rfl⟩, by rw [hchange]; simp⟩
    · obtain ⟨us, hus, hnesting⟩ := ih.2.2 more hmore
      exact ⟨t :: us, List.cons_prefix_cons.mpr ⟨rfl, hus⟩, by rw [hstep, hnesting, balance_cons]⟩

/-! ## Derivations -/

/-- Whether tokens close each parenthesis that they open, and close none before they open it. -/
structure IsBalanced (ts : List Token) : Prop where
  closed : balance ts = 0
  front : ∀ us, us <+: ts → 0 ≤ balance us

theorem isBalanced_nil : IsBalanced [] where
  closed := rfl
  front front hfront := by rw [List.prefix_nil.mp hfront, balance_nil]

theorem IsBalanced.cons {t : Token} {ts : List Token} (ht : t.turn = 0) (h : IsBalanced ts) :
    IsBalanced (t :: ts) where
  closed := by rw [balance_cons, ht, h.closed, add_zero]
  front front hfront := by
    rcases List.prefix_cons_iff.mp hfront with rfl | ⟨more, rfl, hmore⟩
    · exact le_refl 0
    · rw [balance_cons, ht, zero_add]
      exact h.front more hmore

theorem IsBalanced.append {ts us : List Token} (h : IsBalanced ts) (h' : IsBalanced us) :
    IsBalanced (ts ++ us) where
  closed := by rw [balance_append, h.closed, h'.closed, add_zero]
  front front hfront := by
    rcases prefix_append_cases hfront with hfront | ⟨more, rfl, hmore⟩
    · exact h.front front hfront
    · rw [balance_append, h.closed, zero_add]
      exact h'.front more hmore

theorem IsBalanced.group {ts : List Token} (h : IsBalanced ts) :
    IsBalanced (.openParen :: (ts ++ [.closeParen])) where
  closed := by
    rw [balance_cons, balance_append, h.closed]
    rfl
  front front hfront := by
    rcases List.prefix_cons_iff.mp hfront with rfl | ⟨more, rfl, hmore⟩
    · exact le_refl 0
    · have hopen : Token.openParen.turn = 1 := rfl
      rw [balance_cons, hopen]
      rcases List.prefix_concat_iff.mp hmore with rfl | hmore
      · rw [balance_append, h.closed]
        decide
      · have := h.front more hmore
        omega

theorem IsSteps.isBalanced {ts : List Token} {steps : List Step} (h : IsSteps ts steps) :
    IsBalanced ts := by
  induction h with
  | nil => exact isBalanced_nil
  | member _ _ ih => exact .cons rfl (.cons rfl ih)
  | index _ _ ih => exact .cons rfl (.cons rfl (.cons rfl ih))
  | key _ _ ih => exact .cons rfl (.cons rfl (.cons rfl ih))

mutual

theorem IsOperand.isBalanced : ∀ {ts : List Token} {e : Expression}, IsOperand ts e →
    IsBalanced ts
  | _, _, .path _ _ _ h => .cons rfl h.isBalanced
  | _, _, .text _ => .cons rfl isBalanced_nil
  | _, _, .whole _ => .cons rfl isBalanced_nil
  | _, _, .double _ => .cons rfl isBalanced_nil
  | _, _, .yes => .cons rfl isBalanced_nil
  | _, _, .no => .cons rfl isBalanced_nil
  | _, _, .null => .cons rfl isBalanced_nil
  | _, _, .group h => h.isBalanced.group

theorem IsChain.isBalanced : ∀ {ts : List Token} {operands : List Expression},
    IsChain ts operands → IsBalanced ts
  | _, _, .single h => h.isBalanced
  | _, _, .cons h hrest => h.isBalanced.append (.cons rfl hrest.isBalanced)

theorem IsExpression.isBalanced : ∀ {ts : List Token} {e : Expression}, IsExpression ts e →
    IsBalanced ts
  | _, _, .operand h => h.isBalanced
  | _, _, .coalesce h _ => h.isBalanced

end

/-- Parentheses around an expression make a group: the one at its end is the first that closes the
one at its start. -/
theorem isGroup_of_parse {code : List Char} {e : Expression} (h : parse code = .ok e) :
    IsGroup '(' ')' code := by
  obtain ⟨ts, htokens, hderived⟩ := parse_eq_ok_iff_exists_tokens.mp h
  obtain ⟨hafter, hnesting, hfront⟩ := (tokens_eq_ok_iff.mp htokens).nesting_eq
  have hbalanced := hderived.isBalanced
  have hopen : ∀ more, nesting '(' ')' .outside ('(' :: more)
      = 1 + nesting '(' ')' .outside more := fun more => rfl
  refine ⟨?_, fun front hprefix => ?_⟩
  · rw [List.cons_append, hopen, Markup.nesting_append, hafter, hnesting, hbalanced.closed]
    rfl
  · obtain ⟨us, hus, heq⟩ := hfront front hprefix
    have := hbalanced.front us hus
    rw [hopen, heq]
    omega

end Expression

end Stencil
