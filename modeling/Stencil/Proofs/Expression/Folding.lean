import Mathlib
import Stencil.Expression.Parser
import Stencil.Proofs.Expression.Nesting
import Stencil.Proofs.Source.Folding

/-!
# Folded expressions mean the same

Folding an expression to one line changes neither its tokens nor, in consequence, what it is read
as: `parse_fold` says so up to the offsets that errors tell. Each lexeme leads from outside of all
strings to outside of all strings, so what ends inside of a string is no expression
(`exists_parse_error`).
-/

namespace Stencil.Expression

open Markup (Quoting)
open Source
open Text

/-! ## Strings -/

theorem readString_escape (start : Nat) {c d : Char} (rest : List Char)
    (h : unescapeChar c = some d) :
    (readString start ('\\' :: c :: rest)).toOption
      = (readString start rest).toOption.map fun read => (d :: read.1, read.2) := by
  rw [readString, h]
  cases readString start rest <;> rfl

theorem readString_keep (start : Nat) {c : Char} (rest : List Char) (hquote : c ≠ '"')
    (hescape : c ≠ '\\') :
    (readString start (c :: rest)).toOption
      = (readString start rest).toOption.map fun read => (c :: read.1, read.2) := by
  rw [readString]
  · cases readString start rest <;> rfl
  all_goals simp_all

/-- The text of a string literal can be read from its folded rest just as well. -/
theorem readString_fold (start start' : Nat) (text : List Char) :
    (readString start' (fold .inside text)).toOption
      = (readString start text).toOption.map fun read => (read.1, fold .outside read.2) := by
  -- An escape takes two characters at once, so the induction is on the length.
  induction h : text.length using Nat.strong_induction_on generalizing text with
  | _ n ih =>
  subst h
  obtain _ | ⟨c, rest⟩ := text
  · rfl
  · by_cases hquote : c = '"'
    · subst hquote
      rw [fold_inside_cons, if_neg (by decide), if_neg (by decide), readString]
      rfl
    · by_cases hescape : c = '\\'
      · subst hescape
        rw [fold_inside_cons, if_neg (by decide), if_neg (by decide)]
        obtain _ | ⟨c, rest⟩ := rest
        · rfl
        · have hfold : fold (Quoting.inside.next '\\') (c :: rest) = c :: fold .inside rest :=
            fold_escaped_cons c rest
          rw [hfold]
          cases hc : unescapeChar c with
          | none => simp [readString, hc, Except.toOption]
          | some d =>
            rw [readString_escape start' _ hc, readString_escape start _ hc,
              ih rest.length (by simp) rest rfl, Option.map_map, Option.map_map]
            rfl
      · -- A break is folded to an escape that stands for it, everything else is kept.
        rw [readString_keep start rest hquote hescape, Option.map_map, fold_inside_cons]
        have hrest := ih rest.length (Nat.lt_succ_self _) rest rfl
        split
        · next hreturn =>
          rw [readString_escape start' _ rfl, hrest, Option.map_map, hreturn]
          rfl
        · split
          · next hfeed =>
            rw [readString_escape start' _ rfl, hrest, Option.map_map, hfeed]
            rfl
          · have hnext : Quoting.inside.next c = .inside := by
              rw [Quoting.next, if_neg hescape, if_neg hquote]
            rw [hnext, readString_keep start' _ hquote hescape, hrest, Option.map_map]
            rfl

/-! ## Names and numbers -/

/-- Whether characters of a kind are left alone by folding and lead into no string. -/
structure IsKept (p : Char → Bool) : Prop where
  quote : p '"' = false
  blank : p ' ' = false
  carriageReturn : p '\r' = false
  lineFeed : p '\n' = false

theorem IsKept.ne {p : Char → Bool} (h : IsKept p) {c : Char} (hc : p c = true) :
    c ≠ '"' ∧ c ≠ '\r' ∧ c ≠ '\n' := by
  refine ⟨?_, ?_, ?_⟩ <;> rintro rfl
  · exact Bool.false_ne_true (h.quote.symm.trans hc)
  · exact Bool.false_ne_true (h.carriageReturn.symm.trans hc)
  · exact Bool.false_ne_true (h.lineFeed.symm.trans hc)

theorem isKept_isDigit : IsKept Char.isDigit where
  quote := rfl
  blank := rfl
  carriageReturn := rfl
  lineFeed := rfl

theorem isKept_continuesIdentifier : IsKept continuesIdentifier where
  quote := by decide
  blank := by decide
  carriageReturn := by decide
  lineFeed := by decide

/-- The first character of a folded text outside of strings is the one of the text, or a blank. -/
theorem fold_outside_cons_or (c : Char) (rest : List Char) :
    (c ≠ '\r' ∧ c ≠ '\n' ∧ fold .outside (c :: rest) = c :: fold (Quoting.outside.next c) rest)
      ∨ ((c = '\r' ∨ c = '\n') ∧ ∃ rest', fold .outside (c :: rest) = ' ' :: rest') := by
  by_cases hreturn : c = '\r'
  · subst hreturn
    refine Or.inr ⟨Or.inl rfl, ?_⟩
    rw [fold_outside_return]
    split
    · next hhead =>
      obtain ⟨rest, rfl⟩ := List.head?_eq_some_iff.mp hhead
      exact ⟨_, fold_outside_cons rest (by decide)⟩
    · exact ⟨_, rfl⟩
  · rw [fold_outside_cons rest hreturn]
    by_cases hfeed : c = '\n'
    · exact Or.inr ⟨Or.inr hfeed, _, by rw [if_pos hfeed]⟩
    · exact Or.inl ⟨hreturn, hfeed, by rw [if_neg hfeed]⟩

theorem takeWhile_fold {p : Char → Bool} (h : IsKept p) (text : List Char) :
    (fold .outside text).takeWhile p = text.takeWhile p := by
  induction text with
  | nil => rfl
  | cons c rest ih =>
    by_cases hc : p c = true
    · obtain ⟨hquote, hreturn, hfeed⟩ := h.ne hc
      -- A kept character leads into no string, so the rest is folded outside of strings too.
      rw [fold_outside_keep rest hreturn hfeed hquote, List.takeWhile_cons, List.takeWhile_cons,
        if_pos hc, if_pos hc, ih]
    · rcases fold_outside_cons_or c rest with ⟨-, -, hfold⟩ | ⟨-, rest', hfold⟩
      · rw [hfold, List.takeWhile_cons, List.takeWhile_cons, if_neg hc, if_neg hc]
      · rw [hfold, List.takeWhile_cons, List.takeWhile_cons, if_neg hc, h.blank,
          if_neg Bool.false_ne_true]

theorem dropWhile_fold {p : Char → Bool} (h : IsKept p) (text : List Char) :
    (fold .outside text).dropWhile p = fold .outside (text.dropWhile p) := by
  induction text with
  | nil => rfl
  | cons c rest ih =>
    by_cases hc : p c = true
    · obtain ⟨hquote, hreturn, hfeed⟩ := h.ne hc
      rw [fold_outside_keep rest hreturn hfeed hquote, List.dropWhile_cons, List.dropWhile_cons,
        if_pos hc, if_pos hc, ih]
    · rw [List.dropWhile_cons, if_neg hc]
      rcases fold_outside_cons_or c rest with ⟨-, -, hfold⟩ | ⟨-, rest', hfold⟩
      · rw [hfold, List.dropWhile_cons, if_neg hc]
      · rw [hfold, List.dropWhile_cons, h.blank, if_neg Bool.false_ne_true]

theorem readDigits_fold (negative : Bool) (text : List Char) :
    readDigits negative (fold .outside text)
      = ((readDigits negative text).1, fold .outside (readDigits negative text).2) := by
  rw [readDigits, readDigits, takeWhile_fold isKept_isDigit, dropWhile_fold isKept_isDigit]
  obtain _ | ⟨c, rest⟩ := text.dropWhile Char.isDigit
  · rfl
  · by_cases hpoint : c = '.'
    · subst hpoint
      rw [fold_outside_keep rest (by decide) (by decide) (by decide)]
      simp only [takeWhile_fold isKept_isDigit, dropWhile_fold isKept_isDigit]
    · rcases fold_outside_cons_or c rest with ⟨-, -, hfold⟩ | ⟨-, rest', hfold⟩
      · simp [hpoint, hfold]
      · simp [hpoint, hfold]

theorem readNumber_fold {c : Char} (h : (c.isDigit || c = '-') = true) (rest : List Char) :
    readNumber (c :: fold .outside rest)
      = ((readNumber (c :: rest)).1, fold .outside (readNumber (c :: rest)).2) := by
  by_cases hminus : c = '-'
  · subst hminus
    exact readDigits_fold true rest
  · have hdigit : c.isDigit = true := by simpa [hminus] using h
    obtain ⟨hquote, hreturn, hfeed⟩ := isKept_isDigit.ne hdigit
    have hnumber : ∀ text, readNumber (c :: text) = readDigits false (c :: text) := by
      intro text
      rw [readNumber]
      simp_all
    rw [hnumber, hnumber, ← fold_outside_keep rest hreturn hfeed hquote, readDigits_fold]

/-! ## Tokens -/

theorem toOption_readToken_quote (start : Nat) (rest : List Char) :
    (readToken start '"' rest).toOption
      = (readString start rest).toOption.map fun read =>
          (Token.text (String.ofList read.1), read.2) := by
  unfold readToken
  simp only [show Token.ofMark? '"' = none from rfl, show ('"' : Char) ≠ '?' by decide, if_false,
    if_true]
  cases readString start rest <;> rfl

/-- The next token of a folded expression is the one of the expression. -/
theorem readToken_fold (start start' : Nat) (c : Char) (rest : List Char) :
    (readToken start' c (fold (Quoting.outside.next c) rest)).toOption
      = (readToken start c rest).toOption.map fun read => (read.1, fold .outside read.2) := by
  by_cases hquote : c = '"'
  · subst hquote
    rw [toOption_readToken_quote, toOption_readToken_quote,
      show Quoting.outside.next '"' = .inside from rfl, readString_fold start start',
      Option.map_map, Option.map_map]
    rfl
  · rw [Quoting.next_outside hquote]
    unfold readToken
    cases hmark : Token.ofMark? c with
    | some mark => rfl
    | none =>
      dsimp only
      rw [if_neg hquote, if_neg hquote]
      split
      · -- Folding makes no second `?` behind the first and takes none away.
        obtain _ | ⟨d, rest⟩ := rest
        · rfl
        · by_cases hd : d = '?'
          · subst hd
            rw [fold_outside_keep rest (by decide) (by decide) (by decide)]
            rfl
          · rcases fold_outside_cons_or d rest with ⟨-, -, hfold⟩ | ⟨-, rest', hfold⟩
            · simp [hd, hfold, Except.toOption]
            · simp [hd, hfold, Except.toOption]
      · split
        · next hnumber =>
          rw [readNumber_fold hnumber]
          cases (readNumber (c :: rest)).1.token? <;> rfl
        · split
          · rw [takeWhile_fold isKept_continuesIdentifier,
              dropWhile_fold isKept_continuesIdentifier]
            rfl
          · rfl

theorem tokensFrom_cons_of_isBlank (start : Nat) {c : Char} (rest : List Char)
    (h : isBlank c = true) :
    tokensFrom start (c :: rest) = tokensFrom (start + c.utf8Size) rest := by
  rw [tokensFrom, if_pos h]

/-- Reading tokens when errors do not count: one token, and then the others. -/
theorem toOption_tokensFrom_cons (start : Nat) {c : Char} (rest : List Char)
    (h : isBlank c = false) :
    (tokensFrom start (c :: rest)).toOption
      = (readToken start c rest).toOption.bind fun read =>
          (tokensFrom (start + (byteSize (c :: rest) - byteSize read.2)) read.2).toOption.map
            (read.1 :: ·) := by
  rw [tokensFrom, if_neg (by rw [h]; exact Bool.false_ne_true)]
  split
  · next e hread =>
    rw [hread]
    rfl
  · next t after hread =>
    rw [hread]
    split
    · next ts hts =>
      simp only [Except.toOption, Option.bind_some, hts, Option.map_some]
    · next e hts =>
      simp only [Except.toOption, Option.bind_some, hts, Option.map_none]

/-- A folded expression has the tokens of the expression. -/
theorem tokensFrom_fold (start start' : Nat) (text : List Char) :
    (tokensFrom start' (fold .outside text)).toOption = (tokensFrom start text).toOption := by
  induction h : text.length using Nat.strong_induction_on generalizing text start start' with
  | _ n ih =>
  subst h
  obtain _ | ⟨c, rest⟩ := text
  · rw [fold, tokensFrom, tokensFrom]
  · have hrest := fun start start' => ih rest.length (Nat.lt_succ_self _) start start' rest rfl
    by_cases hblank : isBlank c = true
    · rw [tokensFrom_cons_of_isBlank start rest hblank]
      -- A break is folded to a blank or, between a return and a feed, to nothing at all.
      by_cases hreturn : c = '\r'
      · subst hreturn
        rw [fold_outside_return]
        split
        · exact hrest _ _
        · rw [tokensFrom_cons_of_isBlank _ _ (by decide), hrest]
      · have hquote : c ≠ '"' := by
          rintro rfl
          exact absurd hblank (by decide)
        rw [fold_outside_cons rest hreturn, Quoting.next_outside hquote]
        split
        · rw [tokensFrom_cons_of_isBlank _ _ (by decide), hrest]
        · rw [tokensFrom_cons_of_isBlank _ _ hblank, hrest]
    · rw [Bool.not_eq_true] at hblank
      obtain ⟨hreturn, hfeed⟩ := ne_break_of_isBlank hblank
      rw [fold_outside_cons rest hreturn, if_neg hfeed, toOption_tokensFrom_cons _ _ hblank,
        toOption_tokensFrom_cons _ _ hblank, readToken_fold start start' c]
      cases hread : readToken start c rest with
      | error e => rfl
      | ok read =>
        simp only [Except.toOption, Option.map_some, Option.bind_some]
        have hlength := length_of_readToken hread
        exact congrArg _ (ih read.2.length hlength _ _ read.2 rfl)

/-- Reading an expression when errors do not count: all its tokens, of which there must be some, and
then the operands. -/
theorem toOption_parse (code : List Char) :
    (parse code).toOption
      = (tokens code).toOption.bind fun ts =>
          if ts = [] then none else (readOperand [] [] ts).toOption := by
  rw [parse]
  split
  · next e h => rw [h]; rfl
  · next h => rw [h]; rfl
  · next ts hne h =>
    rw [h]
    exact (if_neg hne).symm

/-- A folded expression is read as the expression is. -/
theorem parse_fold (code : List Char) :
    (parse (fold .outside code)).toOption = (parse code).toOption := by
  rw [toOption_parse, toOption_parse, tokens, tokens, tokensFrom_fold 0 0]

theorem toOption_eq_some_iff {ε : Type} {result : Except ε Expression} {e : Expression} :
    result.toOption = some e ↔ result = .ok e := by
  cases result <;> simp [Except.toOption]

theorem toOption_eq_none_iff {ε : Type} {result : Except ε Expression} :
    result.toOption = none ↔ ∃ cause, result = .error cause := by
  cases result <;> simp [Except.toOption]

/-- An expression whose lines are folded is read as the expression is, and it fails to be read only
if the expression does. -/
theorem parse_foldLines (code : String) :
    (∀ e, parse (foldLines code).toList = .ok e ↔ parse code.toList = .ok e)
      ∧ ((∃ cause, parse (foldLines code).toList = .error cause)
          ↔ ∃ cause, parse code.toList = .error cause) := by
  have hsame : (parse (foldLines code).toList).toOption = (parse code.toList).toOption := by
    rw [foldLines, String.toList_ofList, parse_fold]
  refine ⟨fun e => ?_, ?_⟩
  · rw [← toOption_eq_some_iff, hsame, toOption_eq_some_iff]
  · rw [← toOption_eq_none_iff, hsame, toOption_eq_none_iff]

/-! ## Open strings -/

/-- What ends inside of a string is no expression. -/
theorem exists_parse_error {code : List Char} (h : Quoting.outside.after code ≠ .outside) :
    ∃ cause, parse code = .error cause := by
  rw [parse]
  cases htokens : tokens code with
  | error e => exact ⟨e, rfl⟩
  | ok ts => exact absurd (tokens_eq_ok_iff.mp htokens).nesting_eq.1 h

end Stencil.Expression
