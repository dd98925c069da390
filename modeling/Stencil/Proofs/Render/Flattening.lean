import Mathlib
import Stencil.Proofs.Expression.Grammar
import Stencil.Render.Evaluation

/-!
# Chains within chains

A chain that is an operand of a chain can be replaced by its operands. Both ask the same services in
the same order, keep the same values and stop at the same place, since a chain goes on behind some
of its operands exactly as it would go on behind a chain of them (`evaluateFirst_append`). So an
expression is evaluated like its flat form, whatever the session knows (`evaluate_flat`). The flat
form of a code is what is read when its parentheses are left out (`IsExpression.flat`), so it does
not matter where they stand (`flat_equivalent`).
-/

namespace Stencil.Expression

/-! ## Flat expressions -/

/-- What an operand adds to a chain that it is spliced into: a chain adds its operands. -/
def spliced : Expression → List Expression
  | .coalesce operands => operands
  | e => [e]

mutual

/-- An expression with the operands of each chain that is an operand spliced into the chain around
it, at every depth. -/
def flat : Expression → Expression
  | .path root steps => .path root steps
  | .literal value => .literal value
  | .coalesce operands => .coalesce (flatOperands operands)

/-- The operands of a chain with each chain among them spliced in. -/
def flatOperands : List Expression → List Expression
  | [] => []
  | operand :: operands => (flat operand).spliced ++ flatOperands operands

end

/-- Whether an expression is no chain. -/
def IsSimple : Expression → Prop
  | .coalesce _ => False
  | _ => True

/-- Whether no operand of a chain is a chain. -/
def IsSpliced : Expression → Prop
  | .coalesce operands => ∀ operand ∈ operands, operand.IsSimple
  | _ => True

mutual

theorem isSimple_of_mem_spliced (e : Expression) :
    ∀ operand ∈ e.flat.spliced, operand.IsSimple := by
  cases e with
  | path root steps => exact List.forall_mem_singleton.mpr trivial
  | literal value => exact List.forall_mem_singleton.mpr trivial
  | coalesce operands => exact isSimple_of_mem_flatOperands operands

theorem isSimple_of_mem_flatOperands (operands : List Expression) :
    ∀ operand ∈ flatOperands operands, operand.IsSimple := by
  cases operands with
  | nil => exact fun operand h => absurd h List.not_mem_nil
  | cons operand operands =>
    rw [flatOperands]
    exact List.forall_mem_append.mpr
      ⟨isSimple_of_mem_spliced operand, isSimple_of_mem_flatOperands operands⟩

end

theorem isSpliced_flat (e : Expression) : e.flat.IsSpliced := by
  cases e with
  | path root steps => trivial
  | literal value => trivial
  | coalesce operands => exact isSimple_of_mem_flatOperands operands

/-! ## Evaluation -/

variable {around : Surroundings} {session : Session}

/-- Behind some of its operands a chain goes on if they have no value, in the session that they
leave. -/
theorem evaluateFirst_append (front rest : List Expression) :
    evaluateFirst around session (front ++ rest)
      = match evaluateFirst around session front with
        | (.ok value, session) =>
          if value.isNull then evaluateFirst around session rest else (.ok value, session)
        | (.error halt, session) => (.error halt, session) := by
  induction front generalizing session with
  | nil => rfl
  | cons operand front ih =>
    rw [List.cons_append, evaluateFirst, evaluateFirst]
    rcases evaluate around session operand with ⟨halt | value, known⟩
    · rfl
    · dsimp only
      by_cases hnull : value.isNull = true
      · rw [if_pos hnull, if_pos hnull]
        exact ih
      · rw [if_neg hnull, if_neg hnull]
        dsimp only
        rw [if_neg hnull]

theorem evaluateFirst_singleton (e : Expression) :
    evaluateFirst around session [e] = evaluate around session e := by
  rw [evaluateFirst]
  rcases evaluate around session e with ⟨halt | value, known⟩
  · rfl
  · cases value <;> rfl

/-- An expression is evaluated like the chain of what it adds to a chain. -/
theorem evaluateFirst_spliced (e : Expression) :
    evaluateFirst around session e.spliced = evaluate around session e := by
  cases e with
  | coalesce operands => rw [spliced, evaluate]
  | path root steps => exact evaluateFirst_singleton _
  | literal value => exact evaluateFirst_singleton _

mutual

/-- An expression and its flat form have the same value or fail alike, and they leave the same
session. -/
theorem evaluate_flat (e : Expression) :
    ∀ session, evaluate around session e.flat = evaluate around session e := by
  intro session
  cases e with
  | path root steps => rfl
  | literal value => rfl
  | coalesce operands =>
    rw [flat, evaluate, evaluate]
    exact evaluateFirst_flatOperands operands session

theorem evaluateFirst_flatOperands (operands : List Expression) :
    ∀ session, evaluateFirst around session (flatOperands operands)
      = evaluateFirst around session operands := by
  intro session
  cases operands with
  | nil => rfl
  | cons operand operands =>
    rw [flatOperands, evaluateFirst_append, evaluateFirst_spliced, evaluate_flat operand session,
      evaluateFirst]
    rcases evaluate around session operand with ⟨halt | value, known⟩
    · rfl
    · dsimp only
      rw [evaluateFirst_flatOperands operands known]

end

/-! ## Parentheses -/

/-- The tokens that are no parentheses. -/
def withoutParens (ts : List Token) : List Token :=
  ts.filter fun t => t ≠ .openParen ∧ t ≠ .closeParen

theorem withoutParens_append (front rest : List Token) :
    withoutParens (front ++ rest) = withoutParens front ++ withoutParens rest :=
  List.filter_append ..

theorem IsSteps.withoutParens_eq {ts : List Token} {steps : List Step} (h : IsSteps ts steps) :
    withoutParens ts = ts := by
  induction h with
  | nil => rfl
  | member name _ ih => simpa [withoutParens] using ih
  | index position _ ih => simpa [withoutParens] using ih
  | key name _ ih => simpa [withoutParens] using ih

theorem IsChain.length_pos {ts : List Token} {operands : List Expression}
    (h : IsChain ts operands) : 0 < operands.length := by
  cases h <;> simp

/-- Two chains with `??` between them are one. -/
theorem IsChain.append : ∀ {ts more : List Token} {front rest : List Expression},
    IsChain ts front → IsChain more rest → IsChain (ts ++ .coalesce :: more) (front ++ rest)
  | _, _, _, _, .single h, hrest => .cons h hrest
  | _, _, _, _, .cons h hmore, hrest => by
    rw [List.append_assoc, List.cons_append, List.cons_append]
    exact .cons h (hmore.append hrest)

mutual

/-- Without its parentheses an operand is a chain of what its flat form adds to a chain. -/
theorem IsOperand.isChain_withoutParens : ∀ {ts : List Token} {e : Expression}, IsOperand ts e →
    IsChain (withoutParens ts) e.flat.spliced ∧ join e.flat.spliced = e.flat
  | _, _, @IsOperand.path root ts steps htrue hfalse hnull h => by
    have hname : withoutParens (.name root :: ts) = .name root :: ts := by
      rw [← List.singleton_append, withoutParens_append, h.withoutParens_eq]
      rfl
    rw [hname]
    exact ⟨.single (.path htrue hfalse hnull h), rfl⟩
  | _, _, .text content => ⟨.single (.text content), rfl⟩
  | _, _, .whole value => ⟨.single (.whole value), rfl⟩
  | _, _, .double value => ⟨.single (.double value), rfl⟩
  | _, _, .yes => ⟨.single .yes, rfl⟩
  | _, _, .no => ⟨.single .no, rfl⟩
  | _, _, .null => ⟨.single .null, rfl⟩
  | _, _, @IsOperand.group ts e h => by
    have hgroup : withoutParens (.openParen :: (ts ++ [.closeParen])) = withoutParens ts := by
      rw [← List.singleton_append, withoutParens_append, withoutParens_append]
      exact List.append_nil _
    rw [hgroup]
    exact h.isChain_withoutParens

theorem IsChain.isChain_withoutParens : ∀ {ts : List Token} {operands : List Expression},
    IsChain ts operands → IsChain (withoutParens ts) (flatOperands operands)
      ∧ operands.length ≤ (flatOperands operands).length
  | _, _, .single h => by
    obtain ⟨hchain, -⟩ := h.isChain_withoutParens
    rw [flatOperands, flatOperands, List.append_nil]
    exact ⟨hchain, hchain.length_pos⟩
  | _, _, @IsChain.cons ts rest e operands h hrest => by
    obtain ⟨hchain, -⟩ := h.isChain_withoutParens
    obtain ⟨hmore, hlength⟩ := hrest.isChain_withoutParens
    have := hchain.length_pos
    rw [flatOperands, List.length_cons, List.length_append, withoutParens_append]
    exact ⟨hchain.append hmore, by omega⟩

theorem IsExpression.isChain_withoutParens : ∀ {ts : List Token} {e : Expression},
    IsExpression ts e →
      IsChain (withoutParens ts) e.flat.spliced ∧ join e.flat.spliced = e.flat
  | _, _, .operand h => h.isChain_withoutParens
  | _, _, .coalesce h hseveral => by
    obtain ⟨hchain, hlength⟩ := h.isChain_withoutParens
    exact ⟨hchain, join_of_several (hseveral.trans hlength)⟩

end

/-- The flat form of an expression is what its tokens derive when the parentheses are left out. -/
theorem IsExpression.flat {ts : List Token} {e : Expression} (h : IsExpression ts e) :
    IsExpression (withoutParens ts) e.flat := by
  obtain ⟨hchain, hjoin⟩ := h.isChain_withoutParens
  rw [← hjoin]
  exact hchain.isExpression

theorem IsExpression.eq {ts : List Token} {e e' : Expression} (h : IsExpression ts e)
    (h' : IsExpression ts e') : e = e' :=
  Except.ok.inj (h.readOperand_eq.symm.trans h'.readOperand_eq)

/-- Codes that differ in nothing but parentheses are read as expressions of one flat form. -/
theorem flat_eq_of_parse {code code' : List Char} {ts ts' : List Token} {e e' : Expression}
    (htokens : tokens code = .ok ts) (htokens' : tokens code' = .ok ts')
    (hparens : withoutParens ts = withoutParens ts') (h : parse code = .ok e)
    (h' : parse code' = .ok e') : e.flat = e'.flat := by
  obtain ⟨row, hrow, hderived⟩ := parse_eq_ok_iff_exists_tokens.mp h
  obtain ⟨row', hrow', hderived'⟩ := parse_eq_ok_iff_exists_tokens.mp h'
  obtain rfl := Except.ok.inj (htokens.symm.trans hrow)
  obtain rfl := Except.ok.inj (htokens'.symm.trans hrow')
  have hflat := hderived.flat
  rw [hparens] at hflat
  exact hflat.eq hderived'.flat

/-! ## Equivalence -/

/-- Whether two expressions cannot be told apart: whatever the model is, whatever the services say
and whatever a session has asked and knows, they have the same value or fail alike, they ask the
same services in the same order, and the session knows the same afterwards. -/
def Equivalent (e e' : Expression) : Prop :=
  ∀ around session, e.evaluate around session = e'.evaluate around session

/-- Splicing the chains within chains away, at every depth, leaves no chain within a chain and
changes nothing that an evaluation does. So it does not matter how operands are put between
parentheses: codes that differ in nothing but parentheses are equivalent expressions. -/
theorem flat_equivalent :
    (∀ e : Expression, e.flat.IsSpliced ∧ e.flat.Equivalent e)
      ∧ ∀ (code code' : List Char) (ts ts' : List Token) (e e' : Expression),
        tokens code = .ok ts → tokens code' = .ok ts' → withoutParens ts = withoutParens ts' →
          parse code = .ok e → parse code' = .ok e' → e.Equivalent e' := by
  refine ⟨fun e => ⟨isSpliced_flat e, fun around => evaluate_flat e⟩, ?_⟩
  intro code code' ts ts' e e' htokens htokens' hparens h h' around session
  calc
    e.evaluate around session = e.flat.evaluate around session := (evaluate_flat e session).symm
    _ = e'.flat.evaluate around session := by
      rw [flat_eq_of_parse htokens htokens' hparens h h']
    _ = e'.evaluate around session := evaluate_flat e' session

/-- Three operands between parentheses on the left and on the right. -/
theorem exists_flat_equivalent :
    ∃ e e', parse "(a.x ?? b) ?? 1".toList = .ok e ∧ parse "a.x ?? ((b) ?? 1)".toList = .ok e'
      ∧ e = .coalesce [.coalesce [.path "a" [.member "x"], .path "b" []],
          .literal (.number (.whole 1))]
      ∧ e' = .coalesce [.path "a" [.member "x"],
          .coalesce [.path "b" [], .literal (.number (.whole 1))]]
      ∧ e.flat.IsSpliced ∧ e.Equivalent e' := by
  have htokens : tokens "(a.x ?? b) ?? 1".toList
      = .ok [.openParen, .name "a", .dot, .name "x", .coalesce, .name "b", .closeParen, .coalesce,
          .whole 1] := by
    decide +kernel
  have htokens' : tokens "a.x ?? ((b) ?? 1)".toList
      = .ok [.name "a", .dot, .name "x", .coalesce, .openParen, .openParen, .name "b", .closeParen,
          .coalesce, .whole 1, .closeParen] := by
    decide +kernel
  have ha : IsOperand [.name "a", .dot, .name "x"] (.path "a" [.member "x"]) :=
    .path (by decide) (by decide) (by decide) (.member "x" .nil)
  have hb : IsOperand [.name "b"] (.path "b" []) :=
    .path (by decide) (by decide) (by decide) .nil
  have hleft := parse_eq_ok_iff_exists_tokens.mpr ⟨_, htokens, .coalesce (.cons
    (.group (.coalesce (.cons ha (.single hb)) (le_refl 2))) (.single (.whole 1))) (le_refl 2)⟩
  have hright := parse_eq_ok_iff_exists_tokens.mpr ⟨_, htokens', .coalesce (.cons ha (.single
    (.group (.coalesce (.cons (.group (.operand hb)) (.single (.whole 1))) (le_refl 2)))))
    (le_refl 2)⟩
  exact ⟨_, _, hleft, hright, rfl, rfl, (flat_equivalent.1 _).1,
    flat_equivalent.2 _ _ _ _ _ _ htokens htokens' rfl hleft hright⟩

end Stencil.Expression
