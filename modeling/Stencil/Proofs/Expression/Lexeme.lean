import Mathlib
import Stencil.Expression.Token
import Stencil.Proofs.Markup.Grammar

/-!
# The lexemes of expressions

The text of an expression is a row of lexemes with blanks between them. `IsLexeme` says what each
token looks like, and `Token.EndsBefore` where a name or a number ends, since these two take all
that can belong to them. Cutting an expression into tokens finds exactly these rows
(`tokens_eq_ok_iff`).
-/

namespace Stencil.Expression

open Markup (EndsName)
open Text

/-! ## String literals -/

/-- Whether the characters between two quotes stand for a text: each of them stands for itself, and
a backslash makes one of it and the next character. -/
inductive IsQuoted : (body content : List Char) → Prop
  | nil : IsQuoted [] []
  | plain {c : Char} {body content : List Char} (hquote : c ≠ '"') (hescape : c ≠ '\\')
    (h : IsQuoted body content) : IsQuoted (c :: body) (c :: content)
  | escape {c d : Char} {body content : List Char} (hc : unescapeChar c = some d)
    (h : IsQuoted body content) : IsQuoted ('\\' :: c :: body) (d :: content)

theorem readString_append {body content : List Char} (h : IsQuoted body content) (start : Nat)
    (after : List Char) : readString start (body ++ '"' :: after) = .ok (content, after) := by
  induction h with
  | nil => rfl
  | plain hquote hescape _ ih =>
    rw [List.cons_append, readString, ih]
    all_goals simp_all
  | escape hc _ ih => rw [List.cons_append, List.cons_append, readString, hc, ih]

/-- A string literal is read up to the first quote that no backslash takes. -/
theorem readString_eq_ok_iff {start : Nat} {text content after : List Char} :
    readString start text = .ok (content, after)
      ↔ ∃ body, text = body ++ '"' :: after ∧ IsQuoted body content := by
  constructor
  · intro h
    fun_induction readString start text generalizing content with
    | case2 rest =>
      obtain ⟨rfl, rfl⟩ := Prod.mk.inj (Except.ok.inj h)
      exact ⟨[], rfl, .nil⟩
    | case5 c rest d hc content' after' hread ih =>
      obtain ⟨rfl, rfl⟩ := Prod.mk.inj (Except.ok.inj h)
      obtain ⟨body, rfl, hbody⟩ := ih hread
      exact ⟨'\\' :: c :: body, rfl, .escape hc hbody⟩
    | case7 c rest hquote hlast hescape content' after' hread ih =>
      obtain ⟨rfl, rfl⟩ := Prod.mk.inj (Except.ok.inj h)
      obtain ⟨body, rfl, hbody⟩ := ih hread
      refine ⟨c :: body, rfl, .plain hquote ?_ hbody⟩
      rintro rfl
      obtain ⟨d, more, hmore⟩ : ∃ d more, body ++ '"' :: after' = d :: more := by
        cases body <;> simp
      exact hescape d more rfl hmore
    | case1 | case3 | case4 | case6 | case8 => cases h
  · rintro ⟨body, rfl, hbody⟩
    exact readString_append hbody start after

/-! ## Numbers -/

/-- Whether the parts of a number hold digits only. -/
structure NumberText.IsDigits (n : NumberText) : Prop where
  whole : ∀ c ∈ n.whole, c.isDigit = true
  fraction : ∀ digits, n.fraction = some digits → ∀ c ∈ digits, c.isDigit = true

/-- Whether a number ends where the given text starts. -/
def NumberText.EndsBefore (n : NumberText) (after : List Char) : Prop :=
  ∀ c, after.head? = some c → c.isDigit = false ∧ (n.fraction = none → c ≠ '.')

theorem of_readDigits {negative : Bool} {text after : List Char} {n : NumberText}
    (h : readDigits negative text = (n, after)) :
    (if negative then ['-'] else []) ++ text = n.chars ++ after ∧ n.negative = negative
      ∧ n.whole = text.takeWhile Char.isDigit ∧ n.IsDigits ∧ n.EndsBefore after := by
  have hsplit := List.takeWhile_append_dropWhile (p := Char.isDigit) (l := text)
  have hwhole : ∀ c ∈ text.takeWhile Char.isDigit, c.isDigit = true :=
    fun c hc => List.mem_takeWhile_imp hc
  unfold readDigits at h
  split at h
  · next rest hrest =>
    obtain ⟨rfl, rfl⟩ := Prod.mk.inj h
    refine ⟨?_, rfl, rfl, ⟨hwhole, ?_⟩, fun c hc => ⟨head?_dropWhile hc, nofun⟩⟩
    · conv => lhs; rw [← hsplit, hrest]
      simp [NumberText.chars]
    · rintro digits ⟨⟩ c hc
      exact List.mem_takeWhile_imp hc
  · next hpoint =>
    obtain ⟨rfl, rfl⟩ := Prod.mk.inj h
    refine ⟨?_, rfl, rfl, ⟨hwhole, nofun⟩, fun c hc => ⟨head?_dropWhile hc, ?_⟩⟩
    · conv => lhs; rw [← hsplit]
      simp [NumberText.chars]
    · rintro - rfl
      obtain ⟨more, hmore⟩ := List.head?_eq_some_iff.mp hc
      exact hpoint more hmore

theorem readDigits_append {negative : Bool} {whole after : List Char}
    {fraction : Option (List Char)} (hdigits : NumberText.IsDigits ⟨negative, whole, fraction⟩)
    (hend : NumberText.EndsBefore ⟨negative, whole, fraction⟩ after) :
    readDigits negative (whole ++ (fraction.map ('.' :: ·)).getD [] ++ after)
      = (⟨negative, whole, fraction⟩, after) := by
  cases fraction with
  | none =>
    have hdigit : ∀ c, after.head? = some c → c.isDigit = false := fun c hc => (hend c hc).1
    rw [Option.map_none, Option.getD_none, List.append_nil, readDigits,
      takeWhile_run hdigits.whole hdigit, dropWhile_run hdigits.whole hdigit]
    split
    · next rest => exact absurd rfl ((hend '.' rfl).2 rfl)
    · rfl
  | some digits =>
    have hpoint : ∀ c, ('.' :: (digits ++ after)).head? = some c → c.isDigit = false := by
      rintro c ⟨⟩
      decide
    have hfraction := hdigits.fraction digits rfl
    have hdigit : ∀ c, after.head? = some c → c.isDigit = false := fun c hc => (hend c hc).1
    rw [Option.map_some, Option.getD_some, List.append_assoc, List.cons_append, readDigits,
      takeWhile_run hdigits.whole hpoint, dropWhile_run hdigits.whole hpoint]
    simp only [takeWhile_run hfraction hdigit, dropWhile_run hfraction hdigit]

/-- A number starts with its sign or with a digit. -/
def NumberText.IsStarted (n : NumberText) : Prop :=
  n.negative = true ∨ n.whole ≠ []

/-- A number is read as far as it goes. -/
theorem readNumber_eq_iff {c : Char} {rest after : List Char} {n : NumberText}
    (hc : c.isDigit = true ∨ c = '-') :
    readNumber (c :: rest) = (n, after)
      ↔ c :: rest = n.chars ++ after ∧ n.IsStarted ∧ n.IsDigits ∧ n.EndsBefore after := by
  constructor
  · intro h
    by_cases hminus : c = '-'
    · subst hminus
      obtain ⟨htext, hnegative, -, hdigits, hend⟩ := of_readDigits h
      exact ⟨htext, Or.inl hnegative, hdigits, hend⟩
    · have hdigit := hc.resolve_right hminus
      have hread : readDigits false (c :: rest) = (n, after) := by
        rw [← h, readNumber]
        simp_all
      obtain ⟨htext, -, hwhole, hdigits, hend⟩ := of_readDigits hread
      refine ⟨htext, Or.inr ?_, hdigits, hend⟩
      rw [hwhole, List.takeWhile_cons, if_pos hdigit]
      exact List.cons_ne_nil _ _
  · rintro ⟨htext, hstarted, hdigits, hend⟩
    obtain ⟨negative, whole, fraction⟩ := n
    have hread := readDigits_append hdigits hend
    cases negative with
    | true =>
      have hrest : c :: rest = '-' :: (whole ++ (fraction.map ('.' :: ·)).getD [] ++ after) := htext
      rw [hrest]
      exact hread
    | false =>
      have hrest : c :: rest = whole ++ (fraction.map ('.' :: ·)).getD [] ++ after := htext
      rw [← hrest] at hread
      -- Without a sign the number starts with a digit, which is no sign.
      obtain ⟨d, more, rfl⟩ := List.exists_cons_of_ne_nil (hstarted.resolve_left Bool.false_ne_true)
      obtain ⟨rfl, -⟩ := List.cons.inj hrest
      have hdigit : c.isDigit = true := hdigits.whole c List.mem_cons_self
      rw [← hread, readNumber]
      rintro _ ⟨⟩
      exact absurd hdigit (by decide)

/-! ## Lexemes -/

/-- Whether a text stands for a token. -/
inductive IsLexeme : (source : List Char) → Token → Prop
  | mark {c : Char} {t : Token} (h : Token.ofMark? c = some t) : IsLexeme [c] t
  | coalesce : IsLexeme ['?', '?'] .coalesce
  | text {body content : List Char} (h : IsQuoted body content) :
    IsLexeme ('"' :: body ++ ['"']) (.text (String.ofList content))
  | number {n : NumberText} {t : Token} (hstarted : n.IsStarted) (hdigits : n.IsDigits)
    (h : n.token? = some t) : IsLexeme n.chars t
  | name {word : List Char} (h : isIdentifier word = true) :
    IsLexeme word (.name (String.ofList word))

/-- Whether a token ends where the given text starts. -/
def Token.EndsBefore (after : List Char) : Token → Prop
  | .name _ => EndsName after
  | .whole _ => ∀ c, after.head? = some c → c.isDigit = false ∧ c ≠ '.'
  | .double _ => ∀ c, after.head? = some c → c.isDigit = false
  | _ => True

/-- A number without a point is a whole number that fits, one with a point is a double. -/
theorem token?_eq_some {n : NumberText} {t : Token} (h : n.token? = some t) :
    (n.fraction = none ∧ ∃ value, t = .whole value ∧ Decimal.fitsSigned value = true)
      ∨ ∃ digits x, n.fraction = some digits ∧ t = .double x := by
  unfold NumberText.token? at h
  cases hfraction : n.fraction with
  | none =>
    simp only [hfraction, ite_eq_iff, reduceCtorEq, and_false, false_or, Bool.or_eq_true,
      Bool.not_eq_true', not_or, Bool.not_eq_false] at h
    exact Or.inl ⟨rfl, _, (Option.some.inj h.2).symm, h.1.2⟩
  | some digits =>
    simp only [hfraction, ite_eq_iff, reduceCtorEq, and_false, false_or,
      Option.map_eq_some_iff] at h
    obtain ⟨-, x, -, rfl⟩ := h
    exact Or.inr ⟨digits, x, rfl, rfl⟩

theorem endsBefore_token?_iff {n : NumberText} {t : Token} (h : n.token? = some t)
    (after : List Char) : t.EndsBefore after ↔ n.EndsBefore after := by
  unfold NumberText.EndsBefore
  rcases token?_eq_some h with ⟨hfraction, value, rfl, -⟩ | ⟨digits, x, hfraction, rfl⟩
  · simp [Token.EndsBefore, hfraction]
  · simp [Token.EndsBefore, hfraction]

theorem endsBefore_mark {c : Char} {t : Token} (h : Token.ofMark? c = some t)
    (after : List Char) : t.EndsBefore after := by
  unfold Token.ofMark? at h
  split at h <;> cases h <;> trivial

/-- What the first character of a number is and is not. -/
theorem of_startsNumber {c : Char} (h : c.isDigit = true ∨ c = '-') :
    Token.ofMark? c = none ∧ c ≠ '?' ∧ c ≠ '"' ∧ isBlank c = false := by
  rcases h with h | rfl
  · refine ⟨?_, ?_, ?_, isBlank_of_continuesIdentifier (identifier_of_isDigit h).1⟩
    · unfold Token.ofMark?
      split <;> first | rfl | exact absurd h (by decide)
    · rintro rfl
      exact absurd h (by decide)
    · rintro rfl
      exact absurd h (by decide)
  · decide

theorem exists_chars_eq {n : NumberText} (hstarted : n.IsStarted) (hdigits : n.IsDigits) :
    ∃ c rest, n.chars = c :: rest ∧ (c.isDigit = true ∨ c = '-') := by
  obtain ⟨negative, whole, fraction⟩ := n
  cases negative with
  | true => exact ⟨'-', _, rfl, Or.inr rfl⟩
  | false =>
    obtain ⟨c, rest, rfl⟩ := List.exists_cons_of_ne_nil (hstarted.resolve_left Bool.false_ne_true)
    exact ⟨c, _, rfl, Or.inl (hdigits.whole c List.mem_cons_self)⟩

/-- What the first character of a name is and is not. -/
theorem of_startsIdentifier {c : Char} (h : startsIdentifier c = true) :
    Token.ofMark? c = none ∧ c ≠ '?' ∧ c ≠ '"' ∧ (c.isDigit || c = '-') = false
      ∧ isBlank c = false := by
  refine ⟨?_, ?_, ?_, ?_, isBlank_of_continuesIdentifier (continuesIdentifier_of_starts h)⟩
  · unfold Token.ofMark?
    split <;> first | rfl | exact absurd h (by decide)
  · rintro rfl
    exact absurd h (by decide)
  · rintro rfl
    exact absurd h (by decide)
  · by_contra hnumber
    rw [Bool.not_eq_false, Bool.or_eq_true, decide_eq_true_eq] at hnumber
    rcases hnumber with hdigit | rfl
    · rw [(identifier_of_isDigit hdigit).2] at h
      exact Bool.false_ne_true h
    · exact absurd h (by decide)

/-- What is read as a token stands for it. -/
theorem exists_of_readToken {start : Nat} {c : Char} {rest after : List Char} {t : Token}
    (h : readToken start c rest = .ok (t, after)) :
    ∃ source, c :: rest = source ++ after ∧ IsLexeme source t ∧ t.EndsBefore after := by
  unfold readToken at h
  split at h
  · next mark hmark =>
    obtain ⟨rfl, rfl⟩ := Prod.mk.inj (Except.ok.inj h)
    exact ⟨[c], rfl, .mark hmark, endsBefore_mark hmark rest⟩
  · split at h
    · next hquestion =>
      split at h
      · obtain ⟨rfl, rfl⟩ := Prod.mk.inj (Except.ok.inj h)
        exact ⟨['?', '?'], by rw [hquestion]; rfl, .coalesce, trivial⟩
      · cases h
    · split at h
      · next hquote =>
        split at h
        · next content after' hread =>
          obtain ⟨rfl, rfl⟩ := Prod.mk.inj (Except.ok.inj h)
          obtain ⟨body, rfl, hbody⟩ := readString_eq_ok_iff.mp hread
          exact ⟨_, by rw [hquote]; simp, .text hbody, trivial⟩
        · cases h
      · split at h
        · next hnumber =>
          split at h
          · next token htoken =>
            obtain ⟨rfl, rfl⟩ := Prod.mk.inj (Except.ok.inj h)
            have hread : readNumber (c :: rest)
                = ((readNumber (c :: rest)).1, (readNumber (c :: rest)).2) := rfl
            obtain ⟨htext, hstarted, hdigits, hend⟩ :=
              (readNumber_eq_iff (by simpa using hnumber)).mp hread
            exact ⟨_, htext, .number hstarted hdigits htoken,
              (endsBefore_token?_iff htoken _).mpr hend⟩
          · cases h
        · split at h
          · next hstart =>
            obtain ⟨rfl, rfl⟩ := Prod.mk.inj (Except.ok.inj h)
            refine ⟨_, ?_, .name (Markup.isIdentifier_cons_takeWhile hstart rest),
              Markup.endsName_dropWhile rest⟩
            rw [List.cons_append, List.takeWhile_append_dropWhile]
          · cases h

/-- What stands for a token is read as it, if the token ends there. -/
theorem exists_readToken {source : List Char} {t : Token} (h : IsLexeme source t)
    {after : List Char} (hend : t.EndsBefore after) :
    ∃ c rest, source = c :: rest ∧ isBlank c = false
      ∧ ∀ start, readToken start c (rest ++ after) = .ok (t, after) := by
  cases h with
  | @mark c t h =>
    refine ⟨c, [], rfl, ?_, fun start => ?_⟩
    · unfold Token.ofMark? at h
      split at h <;> first | decide | cases h
    · unfold readToken
      rw [h]
      rfl
  | coalesce => exact ⟨'?', ['?'], rfl, by decide, fun start => rfl⟩
  | @text body content h =>
    refine ⟨'"', body ++ ['"'], rfl, by decide, fun start => ?_⟩
    have hread := readString_append h start after
    rw [List.append_assoc, List.singleton_append]
    unfold readToken
    simp only [show Token.ofMark? '"' = none from rfl, show ('"' : Char) ≠ '?' by decide, if_false,
      if_true, hread]
  | @number n t hstarted hdigits h =>
    obtain ⟨c, rest, hchars, hc⟩ := exists_chars_eq hstarted hdigits
    obtain ⟨hmark, hquestion, hquote, hblank⟩ := of_startsNumber hc
    refine ⟨c, rest, hchars, hblank, fun start => ?_⟩
    have hread : readNumber (c :: (rest ++ after)) = (n, after) :=
      (readNumber_eq_iff hc).mpr
        ⟨by rw [hchars]; rfl, hstarted, hdigits, (endsBefore_token?_iff h after).mp hend⟩
    have hnumber : (c.isDigit || c = '-') = true := by simpa using hc
    unfold readToken
    simp only [hmark, hquestion, hquote, hnumber, hread, h, if_false, if_true]
  | @name word h =>
    obtain ⟨c, rest, rfl⟩ := List.exists_cons_of_ne_nil (ne_nil_of_isIdentifier h)
    rw [isIdentifier, Bool.and_eq_true, List.all_eq_true] at h
    obtain ⟨hmark, hquestion, hquote, hnumber, hblank⟩ := of_startsIdentifier h.1
    refine ⟨c, rest, rfl, hblank, fun start => ?_⟩
    unfold readToken
    simp only [hmark, hquestion, hquote, hnumber, h.1, if_false, if_true, Bool.false_eq_true,
      takeWhile_run h.2 hend, dropWhile_run h.2 hend]

/-! ## Rows -/

/-- Whether a text is a row of lexemes, with blanks before, between and behind them. -/
inductive IsRow : (text : List Char) → List Token → Prop
  | nil : IsRow [] []
  | blank {c : Char} {text : List Char} {ts : List Token} (hc : isBlank c = true)
    (h : IsRow text ts) : IsRow (c :: text) ts
  | lexeme {source text : List Char} {t : Token} {ts : List Token} (ht : IsLexeme source t)
    (hend : t.EndsBefore text) (h : IsRow text ts) : IsRow (source ++ text) (t :: ts)

theorem isRow_of_tokensFrom {start : Nat} {text : List Char} {ts : List Token}
    (h : tokensFrom start text = .ok ts) : IsRow text ts := by
  fun_induction tokensFrom start text generalizing ts with
  | case1 =>
    cases h
    exact .nil
  | case2 start c rest hblank ih => exact .blank hblank (ih h)
  | case4 start c rest _ t after hread ts' hmore ih =>
    cases h
    obtain ⟨source, htext, ht, hend⟩ := exists_of_readToken hread
    rw [htext]
    exact .lexeme ht hend (ih hmore)
  | case3 | case5 => cases h

theorem tokensFrom_of_isRow {text : List Char} {ts : List Token} (h : IsRow text ts)
    (start : Nat) : tokensFrom start text = .ok ts := by
  induction h generalizing start with
  | nil => rw [tokensFrom]
  | blank hc _ ih => rw [tokensFrom, if_pos hc, ih]
  | @lexeme source text t ts ht hend _ ih =>
    obtain ⟨c, rest, rfl, hblank, hread⟩ := exists_readToken ht hend
    rw [List.cons_append, tokensFrom, if_neg (by rw [hblank]; exact Bool.false_ne_true)]
    split
    · next e herror => cases (hread start).symm.trans herror
    · next t' after hok =>
      obtain ⟨rfl, rfl⟩ := Prod.mk.inj (Except.ok.inj ((hread start).symm.trans hok))
      rw [ih]

/-- The tokens of an expression are those of the lexemes that it is a row of. -/
theorem tokens_eq_ok_iff {code : List Char} {ts : List Token} :
    tokens code = .ok ts ↔ IsRow code ts :=
  ⟨isRow_of_tokensFrom, fun h => tokensFrom_of_isRow h 0⟩

theorem IsRow.eq_nil_of_isBlank {text : List Char} {ts : List Token} (h : IsRow text ts)
    (hblank : ∀ c ∈ text, isBlank c = true) : ts = [] := by
  induction h with
  | nil => rfl
  | blank _ _ ih => exact ih (List.forall_mem_cons.mp hblank).2
  | lexeme ht hend _ _ =>
    -- A lexeme starts with a character that is not blank.
    obtain ⟨c, rest, rfl, hc, -⟩ := exists_readToken ht hend
    rw [List.cons_append, List.forall_mem_cons, hc] at hblank
    exact absurd hblank.1 Bool.false_ne_true

end Stencil.Expression
