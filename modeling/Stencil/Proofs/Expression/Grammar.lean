import Mathlib
import Stencil.Expression.Parser

/-!
# The grammar of expressions

The grammar is told as derivations of token rows: `IsSteps`, `IsOperand`, `IsChain` and
`IsExpression`. Parsing is sound and complete for it, and a row of tokens has one tree at most
(`parse_eq_ok_iff_isExpression`).

Both directions speak of the reader in the middle of its work, with the operands before every open
parenthesis and with tokens behind the ones that are derived.
-/

namespace Stencil.Expression

/-! ## Derivations -/

/-- Steps of a path: any number of `.name`, `[index]` and `["key"]`. -/
inductive IsSteps : List Token → List Step → Prop
  | nil : IsSteps [] []
  | member (name : String) {ts : List Token} {steps : List Step} (h : IsSteps ts steps) :
    IsSteps (.dot :: .name name :: ts) (.member name :: steps)
  | index (position : Nat) {ts : List Token} {steps : List Step} (h : IsSteps ts steps) :
    IsSteps (.openBracket :: .whole position :: .closeBracket :: ts) (.index position :: steps)
  | key (name : String) {ts : List Token} {steps : List Step} (h : IsSteps ts steps) :
    IsSteps (.openBracket :: .text name :: .closeBracket :: ts) (.key name :: steps)

mutual

/-- An operand: a path, a literal, or an expression between parentheses, which add no node. -/
inductive IsOperand : List Token → Expression → Prop
  | path {root : String} {ts : List Token} {steps : List Step} (htrue : root ≠ "true")
    (hfalse : root ≠ "false") (hnull : root ≠ "null") (h : IsSteps ts steps) :
    IsOperand (.name root :: ts) (.path root steps)
  | text (content : String) : IsOperand [.text content] (.literal (.string content))
  | whole (value : Int) : IsOperand [.whole value] (.literal (.number (.whole value)))
  | double (value : Decimal.Double) : IsOperand [.double value] (.literal (.number (.double value)))
  | yes : IsOperand [.name "true"] (.literal (.bool true))
  | no : IsOperand [.name "false"] (.literal (.bool false))
  | null : IsOperand [.name "null"] (.literal .null)
  | group {ts : List Token} {e : Expression} (h : IsExpression ts e) :
    IsOperand (.openParen :: (ts ++ [.closeParen])) e

/-- One or more operands with `??` between them. -/
inductive IsChain : List Token → List Expression → Prop
  | single {ts : List Token} {e : Expression} (h : IsOperand ts e) : IsChain ts [e]
  | cons {ts rest : List Token} {e : Expression} {operands : List Expression} (h : IsOperand ts e)
    (hrest : IsChain rest operands) : IsChain (ts ++ .coalesce :: rest) (e :: operands)

/-- An expression: one operand, or the flat list of two or more. -/
inductive IsExpression : List Token → Expression → Prop
  | operand {ts : List Token} {e : Expression} (h : IsOperand ts e) : IsExpression ts e
  | coalesce {ts : List Token} {operands : List Expression} (h : IsChain ts operands)
    (hseveral : 2 ≤ operands.length) : IsExpression ts (.coalesce operands)

end

theorem isOperand_word {word : String} {value : Value} (h : word? word = some value) :
    IsOperand [.name word] (.literal value) := by
  unfold word? at h
  split at h
  · obtain rfl := Option.some.inj h
    exact .yes
  · obtain rfl := Option.some.inj h
    exact .no
  · obtain rfl := Option.some.inj h
    exact .null
  · cases h

theorem word?_eq_none {root : String} (htrue : root ≠ "true") (hfalse : root ≠ "false")
    (hnull : root ≠ "null") : word? root = none := by
  unfold word?
  split <;> trivial

theorem isOperand_path {root : String} {ts : List Token} {steps : List Step}
    (hroot : word? root = none) (h : IsSteps ts steps) :
    IsOperand (.name root :: ts) (.path root steps) := by
  refine .path ?_ ?_ ?_ h
  · rintro rfl
    cases hroot
  · rintro rfl
    cases hroot
  · rintro rfl
    cases hroot

theorem join_of_several {operands : List Expression} (h : 2 ≤ operands.length) :
    join operands = .coalesce operands := by
  match operands, h with
  | _ :: _ :: _, _ => rfl

/-- A chain makes an expression of its operands. -/
theorem IsChain.isExpression {ts : List Token} {operands : List Expression}
    (h : IsChain ts operands) : IsExpression ts (join operands) := by
  cases h with
  | single h => exact .operand h
  | cons h hrest =>
    have hseveral : ∀ {rest operands}, IsChain rest operands → 1 ≤ operands.length := by
      intro rest operands h
      cases h <;> simp
    have := hseveral hrest
    rw [join_of_several (by simpa using this)]
    exact .coalesce (.cons h hrest) (by simpa using this)

/-! ## Steps -/

/-- Nothing more of a path stands in front of the tokens. -/
def EndsPath (ts : List Token) : Prop :=
  ts.head? ≠ some .dot ∧ ts.head? ≠ some .openBracket

theorem readSteps_of_endsPath {root : String} {ts : List Token} (h : EndsPath ts) :
    readSteps root ts = .ok ([], ts) := by
  obtain ⟨hdot, hbracket⟩ := h
  unfold readSteps
  split <;> simp_all

theorem readSteps_append {ts : List Token} {steps : List Step} (h : IsSteps ts steps)
    (root : String) {rest : List Token} (hrest : EndsPath rest) :
    readSteps root (ts ++ rest) = .ok (steps, rest) := by
  induction h with
  | nil => exact readSteps_of_endsPath hrest
  | member name h ih => simp [readSteps, ih]
  | index position h ih => simp [readSteps, ih]
  | key name h ih => simp [readSteps, ih]

/-- The steps that are read are the ones in front of what is left, and no step is left. -/
theorem exists_isSteps_of_readSteps {root : String} {ts after : List Token} {steps : List Step}
    (h : readSteps root ts = .ok (steps, after)) :
    ∃ front, ts = front ++ after ∧ IsSteps front steps := by
  fun_induction readSteps root ts generalizing steps with
  | case1 name rest steps' after' hrest ih =>
    obtain ⟨rfl, rfl⟩ := Prod.mk.inj (Except.ok.inj h)
    obtain ⟨front, rfl, hfront⟩ := ih hrest
    exact ⟨_, rfl, .member name hfront⟩
  | case5 i rest hindex steps' after' hrest ih =>
    obtain ⟨rfl, rfl⟩ := Prod.mk.inj (Except.ok.inj h)
    obtain ⟨front, rfl, hfront⟩ := ih hrest
    obtain ⟨position, rfl⟩ := Int.eq_ofNat_of_zero_le (Int.not_lt.mp hindex)
    exact ⟨_, rfl, .index position hfront⟩
  | case9 key rest steps' after' hrest ih =>
    obtain ⟨rfl, rfl⟩ := Prod.mk.inj (Except.ok.inj h)
    obtain ⟨front, rfl, hfront⟩ := ih hrest
    exact ⟨_, rfl, .key key hfront⟩
  | case13 ts =>
    obtain ⟨rfl, rfl⟩ := Prod.mk.inj (Except.ok.inj h)
    exact ⟨[], rfl, .nil⟩
  | _ => cases h

/-! ## What is derived is read -/

theorem endsPath_nil : EndsPath [] :=
  ⟨nofun, nofun⟩

theorem endsPath_coalesce (ts : List Token) : EndsPath (.coalesce :: ts) :=
  ⟨by simp, by simp⟩

theorem endsPath_closeParen (ts : List Token) : EndsPath (.closeParen :: ts) :=
  ⟨by simp, by simp⟩

mutual

/-- An operand is taken off the tokens, whatever is open and whatever follows. -/
theorem IsOperand.readOperand_append : ∀ {ts : List Token} {e : Expression}, IsOperand ts e →
    ∀ (opened : List (List Expression)) (seen : List Expression) {rest : List Token},
      EndsPath rest → readOperand opened seen (ts ++ rest) = readNext opened (seen ++ [e]) rest
  | _, _, @IsOperand.path root ts steps htrue hfalse hnull hsteps, opened, seen, rest, hrest => by
    have hread := readSteps_append hsteps root hrest
    rw [List.cons_append, readOperand, word?_eq_none htrue hfalse hnull]
    dsimp only
    split
    · next steps' after hread' =>
      obtain ⟨rfl, rfl⟩ := Prod.mk.inj (Except.ok.inj (hread'.symm.trans hread))
      rfl
    · next e hread' => cases hread'.symm.trans hread
  | _, _, .text content, opened, seen, rest, _ => by rw [List.singleton_append, readOperand]
  | _, _, .whole value, opened, seen, rest, _ => by rw [List.singleton_append, readOperand]
  | _, _, .double value, opened, seen, rest, _ => by rw [List.singleton_append, readOperand]
  | _, _, .yes, opened, seen, rest, _ => by rw [List.singleton_append, readOperand]; rfl
  | _, _, .no, opened, seen, rest, _ => by rw [List.singleton_append, readOperand]; rfl
  | _, _, .null, opened, seen, rest, _ => by rw [List.singleton_append, readOperand]; rfl
  | _, _, .group hinner, opened, seen, rest, _ => by
    obtain ⟨operands, rfl, hread⟩ := hinner.exists_readOperand_append
    rw [List.cons_append, readOperand, List.append_assoc, List.singleton_append,
      hread _ _ (endsPath_closeParen rest), readNext, List.nil_append]

/-- The operands of a chain are taken off the tokens one after the other. -/
theorem IsChain.readOperand_append : ∀ {ts : List Token} {operands : List Expression},
    IsChain ts operands →
    ∀ (opened : List (List Expression)) (seen : List Expression) {rest : List Token},
      EndsPath rest → readOperand opened seen (ts ++ rest) = readNext opened (seen ++ operands) rest
  | _, _, .single h, opened, seen, _, hrest => h.readOperand_append opened seen hrest
  | _, _, .cons h hlater, opened, seen, rest, hrest => by
    rw [List.append_assoc, List.cons_append, h.readOperand_append opened seen (endsPath_coalesce _),
      readNext, hlater.readOperand_append opened _ hrest, List.append_assoc,
      List.singleton_append]

/-- An expression is what its operands are joined to. -/
theorem IsExpression.exists_readOperand_append : ∀ {ts : List Token} {e : Expression},
    IsExpression ts e → ∃ operands, join operands = e ∧
      ∀ (opened : List (List Expression)) (seen : List Expression) {rest : List Token},
        EndsPath rest →
          readOperand opened seen (ts ++ rest) = readNext opened (seen ++ operands) rest
  | _, _, .operand h => ⟨_, rfl, h.readOperand_append⟩
  | _, _, .coalesce h hseveral => ⟨_, join_of_several hseveral, h.readOperand_append⟩

end

theorem IsExpression.readOperand_eq {ts : List Token} {e : Expression} (h : IsExpression ts e) :
    readOperand [] [] ts = .ok e := by
  obtain ⟨operands, rfl, hread⟩ := h.exists_readOperand_append
  have hall := hread [] [] endsPath_nil
  rw [List.append_nil, List.nil_append] at hall
  rw [hall, readNext]

/-! ## What is read is derived -/

/-- A chain of operands stands in front of the tokens, and it ends with them or before a closing
parenthesis. What is made of it is made of the operands. -/
def HasChain (opened : List (List Expression)) (seen : List Expression) (ts : List Token)
    (e : Expression) : Prop :=
  ∃ front operands rest, ts = front ++ rest ∧ IsChain front operands
    ∧ (rest = [] ∨ ∃ later, rest = .closeParen :: later)
    ∧ readNext opened (seen ++ operands) rest = .ok e

theorem readNext_missing (outer : List Expression) (opened : List (List Expression))
    (seen : List Expression) : readNext (outer :: opened) seen [] = .error .missingParen := by
  unfold readNext
  rfl

theorem readNext_trailing (seen : List Expression) (ts : List Token) :
    readNext [] seen (.closeParen :: ts) = .error (.trailing .closeParen) := by
  unfold readNext
  rfl

/-- After an operand the chain goes on or ends. -/
theorem hasChain_of_readNext {opened : List (List Expression)} {seen : List Expression}
    {front rest : List Token} {operand e : Expression} (hoperand : IsOperand front operand)
    (h : readNext opened (seen ++ [operand]) rest = .ok e)
    (hlater : ∀ later, rest = .coalesce :: later →
      readOperand opened (seen ++ [operand]) later = .ok e →
        HasChain opened (seen ++ [operand]) later e) :
    HasChain opened seen (front ++ rest) e := by
  have hlast : (rest = [] ∨ ∃ later, rest = .closeParen :: later) →
      HasChain opened seen (front ++ rest) e := fun hend =>
    ⟨front, [operand], rest, rfl, .single hoperand, hend, h⟩
  have hread := h
  unfold readNext at hread
  split at hread
  · exact hlast (Or.inl rfl)
  · next later =>
    obtain ⟨middle, operands, last, rfl, hchain, hend, hnext⟩ := hlater later rfl hread
    refine ⟨front ++ .coalesce :: middle, operand :: operands, last, by simp, .cons hoperand hchain,
      hend, ?_⟩
    rw [List.append_assoc, List.singleton_append] at hnext
    exact hnext
  · next later _ _ => exact hlast (Or.inr ⟨later, rfl⟩)
  · cases hread
  · cases hread

theorem hasChain_of_readOperand {opened : List (List Expression)} {seen : List Expression}
    {ts : List Token} {e : Expression} (h : readOperand opened seen ts = .ok e) :
    HasChain opened seen ts e := by
  -- Every operand takes at least one token, so the induction is on their number.
  induction hn : ts.length using Nat.strong_induction_on generalizing opened seen ts with
  | _ n ih =>
  subst hn
  have hgoes : ∀ {front rest : List Token} {operand : Expression}, ts = front ++ rest →
      IsOperand front operand → readNext opened (seen ++ [operand]) rest = .ok e →
        HasChain opened seen ts e := by
    rintro front rest operand rfl hoperand hnext
    refine hasChain_of_readNext hoperand hnext fun later hrest hread => ih _ ?_ hread rfl
    rw [hrest, List.length_append, List.length_cons]
    omega
  have hread := h
  unfold readOperand at hread
  split at hread
  · cases hread
  · next rest =>
    obtain ⟨front, operands, last, rfl, hchain, hend, hnext⟩ :=
      ih _ (Nat.lt_succ_self _) hread rfl
    -- What ends the chain between the parentheses is the closing one.
    rcases hend with rfl | ⟨later, rfl⟩
    · rw [readNext_missing] at hnext
      cases hnext
    · rw [readNext, List.nil_append] at hnext
      exact hgoes (by simp) (.group hchain.isExpression) hnext
  · next root rest =>
    split at hread
    · next value hword => exact hgoes rfl (isOperand_word hword) hread
    · next hroot =>
      split at hread
      · next steps after hsteps =>
        obtain ⟨front, rfl, hfront⟩ := exists_isSteps_of_readSteps hsteps
        exact hgoes rfl (isOperand_path hroot hfront) hread
      · cases hread
  · exact hgoes rfl (.text _) hread
  · exact hgoes rfl (.whole _) hread
  · exact hgoes rfl (.double _) hread
  · cases hread

theorem isExpression_of_readOperand {ts : List Token} {e : Expression}
    (h : readOperand [] [] ts = .ok e) : IsExpression ts e := by
  obtain ⟨front, operands, rest, rfl, hchain, hend, hnext⟩ := hasChain_of_readOperand h
  rcases hend with rfl | ⟨later, rfl⟩
  · rw [readNext] at hnext
    rw [List.append_nil, ← Except.ok.inj hnext]
    exact hchain.isExpression
  · rw [readNext_trailing] at hnext
    cases hnext

/-! ## Parsing -/

/-- An expression is what the tokens of its code derive. -/
theorem parse_eq_ok_iff_exists_tokens {code : List Char} {e : Expression} :
    parse code = .ok e ↔ ∃ ts, tokens code = .ok ts ∧ IsExpression ts e := by
  rw [parse]
  constructor
  · intro h
    split at h
    · cases h
    · cases h
    · next ts _ htokens => exact ⟨ts, htokens, isExpression_of_readOperand h⟩
  · rintro ⟨ts, htokens, hderived⟩
    rw [htokens]
    have hread := hderived.readOperand_eq
    cases ts with
    | nil => rw [readOperand] at hread; cases hread
    | cons t ts => exact hread

/-- A code is read as an expression exactly when its tokens, all of them, derive the expression, and
there is one expression at most that they derive. -/
theorem parse_eq_ok_iff_isExpression {code : List Char} {ts : List Token}
    (htokens : tokens code = .ok ts) :
    (∀ e, parse code = .ok e ↔ IsExpression ts e)
      ∧ ∀ e e', IsExpression ts e → IsExpression ts e' → e = e' := by
  have hread : ∀ e, readOperand [] [] ts = .ok e ↔ IsExpression ts e := fun e =>
    ⟨isExpression_of_readOperand, IsExpression.readOperand_eq⟩
  refine ⟨fun e => ?_, fun e e' h h' => ?_⟩
  · rw [← hread, parse, htokens]
    cases ts with
    | nil =>
      rw [readOperand]
      exact ⟨nofun, nofun⟩
    | cons token ts => rfl
  · exact Except.ok.inj (h.readOperand_eq.symm.trans h'.readOperand_eq)

/-- Parentheses group what is in them and add no node: the chain within is an operand. -/
theorem exists_parse_nested :
    ∃ ts, tokens "Model.Tags[0] ?? (a[\"k\"] ?? \"x\")".toList = .ok ts
      ∧ parse "Model.Tags[0] ?? (a[\"k\"] ?? \"x\")".toList
        = .ok (.coalesce [.path "Model" [.member "Tags", .index 0],
            .coalesce [.path "a" [.key "k"], .literal (.string "x")]]) := by
  have htokens : tokens "Model.Tags[0] ?? (a[\"k\"] ?? \"x\")".toList
      = .ok [.name "Model", .dot, .name "Tags", .openBracket, .whole 0, .closeBracket, .coalesce,
          .openParen, .name "a", .openBracket, .text "k", .closeBracket, .coalesce, .text "x",
          .closeParen] := by
    decide +kernel
  have hmodel : IsOperand [.name "Model", .dot, .name "Tags", .openBracket, .whole 0, .closeBracket]
      (.path "Model" [.member "Tags", .index 0]) :=
    .path (by decide) (by decide) (by decide) (.member "Tags" (.index 0 .nil))
  have hkey : IsOperand [.name "a", .openBracket, .text "k", .closeBracket]
      (.path "a" [.key "k"]) :=
    .path (by decide) (by decide) (by decide) (.key "k" .nil)
  have hinner := IsExpression.coalesce (.cons hkey (.single (.text "x"))) (le_refl 2)
  have hwhole := IsExpression.coalesce (.cons hmodel (.single (.group hinner))) (le_refl 2)
  exact ⟨_, htokens, ((parse_eq_ok_iff_isExpression htokens).1 _).mpr hwhole⟩

end Stencil.Expression
