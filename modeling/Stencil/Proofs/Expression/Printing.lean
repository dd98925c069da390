import Mathlib
import Stencil.Json.Writer
import Stencil.Proofs.Decimal.ReadBack
import Stencil.Proofs.Expression.Canonical

/-!
# Printing expressions

A canonical expression is printed with one space on both sides of every `??` and with parentheses
around the chains that are operands; what is printed reads back as the expression (`parse_print`).
The text of each part is a row of lexemes in front of any text that does not go on with its last
lexeme, and the tokens of the row derive the part.
-/

namespace Stencil

open Decimal (digitsOf fitsSigned ofDigits)
open Markup (EndsName)
open Text

namespace Expression

/-! ## The printer -/

/-- A text between quotes, with a backslash before each quote and each backslash of it. -/
def stringLiteral (text : String) : List Char :=
  '"' :: (text.toList.flatMap fun c => if c = '"' ∨ c = '\\' then ['\\', c] else [c]) ++ ['"']

/-- A whole number as it is written. -/
def NumberText.ofInt (value : Int) : NumberText where
  negative := value < 0
  whole := digitsOf value.natAbs
  fraction := none

/-- A value as it is written down. A value that cannot be is shown as JSON. -/
def literalChars : Value → List Char
  | .null => "null".toList
  | .bool true => "true".toList
  | .bool false => "false".toList
  | .number (.whole value) => (NumberText.ofInt value).chars
  | .string text => stringLiteral text
  | value => value.toJson.chars

/-- A step as it is written. -/
def stepChars : Step → List Char
  | .member name => '.' :: name.toList
  | .index position => '[' :: (NumberText.ofInt position).chars ++ [']']
  | .key name => '[' :: stringLiteral name ++ [']']

mutual

/-- An operand as it is written: a chain stands between parentheses. -/
def operandChars : Expression → List Char
  | .path root steps => root.toList ++ steps.flatMap stepChars
  | .literal value => literalChars value
  | .coalesce operands => '(' :: chainChars operands ++ [')']

/-- Operands as they are written, with `??` between them. -/
def chainChars : List Expression → List Char
  | [] => []
  | [operand] => operandChars operand
  | operand :: operands => operandChars operand ++ ' ' :: '?' :: '?' :: ' ' :: chainChars operands

end

/-- An expression as it is written: only a chain within a chain takes parentheses. -/
def print : Expression → List Char
  | .coalesce operands => chainChars operands
  | e => operandChars e

/-! ## Single lexemes -/

theorem isQuoted_flatMap (text : List Char) :
    IsQuoted (text.flatMap fun c => if c = '"' ∨ c = '\\' then ['\\', c] else [c]) text := by
  induction text with
  | nil => exact .nil
  | cons c text ih =>
    rw [List.flatMap_cons]
    split
    · next h =>
      have hc : unescapeChar c = some c := by rcases h with rfl | rfl <;> rfl
      exact .escape hc ih
    · next h =>
      rw [not_or] at h
      exact .plain h.1 h.2 ih

theorem isLexeme_stringLiteral (text : String) : IsLexeme (stringLiteral text) (.text text) := by
  have hlexeme := IsLexeme.text (isQuoted_flatMap text.toList)
  rwa [String.ofList_toList] at hlexeme

/-- Digits are a whole number, with or without a sign, if it fits. -/
theorem isLexeme_digits (negative : Bool) {digits : List Char} (hne : digits ≠ [])
    (hdigits : ∀ c ∈ digits, c.isDigit = true)
    (hfits : fitsSigned (if negative then -(ofDigits digits : Int) else ofDigits digits) = true) :
    IsLexeme (NumberText.mk negative digits none).chars
      (.whole (if negative then -(ofDigits digits : Int) else ofDigits digits)) := by
  have hsome : digits.isEmpty = false := List.isEmpty_eq_false_iff.mpr hne
  refine .number (Or.inr hne) ⟨hdigits, nofun⟩ ?_
  simp only [NumberText.token?, hfits, hsome, Bool.not_true, Bool.or_self, Bool.false_eq_true,
    if_false]

theorem isLexeme_ofInt {value : Int} (h : fitsSigned value = true) :
    IsLexeme (NumberText.ofInt value).chars (.whole value) := by
  have hvalue : (if (value < 0 : Bool) then -((value.natAbs : Nat) : Int) else value.natAbs)
      = value := by
    by_cases hnegative : value < 0
    · simp only [hnegative, decide_true, if_true]
      omega
    · simp only [hnegative, decide_false, Bool.false_eq_true, if_false]
      omega
  have hlexeme := isLexeme_digits (value < 0) (Decimal.digitsOf_ne_nil value.natAbs)
    fun c hc => Decimal.isDigit_of_mem_digitsOf hc
  rw [Decimal.ofDigits_digitsOf, hvalue] at hlexeme
  exact hlexeme h

theorem isRow_mark {c : Char} {t : Token} {text : List Char} {ts : List Token}
    (hc : Token.ofMark? c = some t) (h : IsRow text ts) : IsRow (c :: text) (t :: ts) :=
  .lexeme (.mark hc) (endsBefore_mark hc text) h

theorem isRow_name {word : String} {text : List Char} {ts : List Token}
    (hword : isIdentifier word.toList = true) (hend : EndsName text) (h : IsRow text ts) :
    IsRow (word.toList ++ text) (.name word :: ts) := by
  have hlexeme := IsLexeme.name hword
  rw [String.ofList_toList] at hlexeme
  exact .lexeme hlexeme hend h

/-! ## Steps -/

theorem endsName_cons {c : Char} (h : continuesIdentifier c = false) (text : List Char) :
    EndsName (c :: text) := by
  rintro _ ⟨⟩
  exact h

/-- The steps of a path start with a mark, so the name before them ends there. -/
theorem endsName_steps {text : List Char} (h : EndsName text) (steps : List Step) :
    EndsName (steps.flatMap stepChars ++ text) := by
  cases steps with
  | nil => exact h
  | cons step steps => cases step <;> exact endsName_cons (by decide) _

/-- The steps of a path are rows of lexemes whose tokens derive them. -/
theorem exists_isRow_steps {steps : List Step} (h : ∀ step ∈ steps, step.IsCanonical) :
    ∃ front, IsSteps front steps ∧ ∀ {text : List Char} {ts : List Token}, EndsName text →
      IsRow text ts → IsRow (steps.flatMap stepChars ++ text) (front ++ ts) := by
  induction steps with
  | nil => exact ⟨[], .nil, fun _ hrow => hrow⟩
  | cons step steps ih =>
    obtain ⟨hstep, hsteps⟩ := List.forall_mem_cons.mp h
    obtain ⟨front, hfront, hmore⟩ := ih hsteps
    cases step with
    | member name =>
      refine ⟨_, .member name hfront, fun hend hrow => ?_⟩
      rw [List.flatMap_cons, List.append_assoc]
      exact isRow_mark rfl (isRow_name hstep (endsName_steps hend steps) (hmore hend hrow))
    | index position =>
      have hfits : fitsSigned position = true := by
        have hbound : position < 2 ^ 63 := hstep
        simp only [fitsSigned, Bool.and_eq_true, decide_eq_true_eq]
        omega
      refine ⟨_, .index position hfront, fun hend hrow => ?_⟩
      rw [List.flatMap_cons, List.append_assoc, stepChars, List.append_assoc]
      refine isRow_mark rfl (.lexeme (isLexeme_ofInt hfits) ?_ (isRow_mark rfl (hmore hend hrow)))
      rintro _ ⟨⟩
      decide
    | key name =>
      refine ⟨_, .key name hfront, fun hend hrow => ?_⟩
      rw [List.flatMap_cons, List.append_assoc, stepChars, List.append_assoc]
      exact isRow_mark rfl
        (.lexeme (isLexeme_stringLiteral name) trivial (isRow_mark rfl (hmore hend hrow)))

/-! ## Operands and chains -/

/-- What may stand behind an operand that is printed: nothing, a blank or a parenthesis. -/
def EndsOperand (text : List Char) : Prop :=
  ∀ c, text.head? = some c → c = ' ' ∨ c = ')'

/-- Whether a text is cut into the given tokens, with any text behind it that ends an operand. -/
def Spells (source : List Char) (front : List Token) : Prop :=
  ∀ {text : List Char} {ts : List Token}, EndsOperand text → IsRow text ts →
    IsRow (source ++ text) (front ++ ts)

theorem EndsOperand.endsName {text : List Char} (h : EndsOperand text) : EndsName text := by
  intro c hc
  rcases h c hc with rfl | rfl <;> decide

theorem spells_name {word : String} (h : isIdentifier word.toList = true) :
    Spells word.toList [.name word] :=
  fun hend hrow => isRow_name h hend.endsName hrow

theorem spells_literal {value : Value} (h : value.IsLiteral) :
    ∃ front, IsOperand front (.literal value) ∧ Spells (literalChars value) front := by
  have hwords : isIdentifier "null".toList = true ∧ isIdentifier "true".toList = true
      ∧ isIdentifier "false".toList = true := by
    decide
  cases h with
  | null => exact ⟨_, .null, spells_name hwords.1⟩
  | bool value =>
    cases value with
    | true => exact ⟨_, .yes, spells_name hwords.2.1⟩
    | false => exact ⟨_, .no, spells_name hwords.2.2⟩
  | @whole value h =>
    refine ⟨_, .whole value, fun hend hrow => .lexeme (isLexeme_ofInt h) ?_ hrow⟩
    intro c hc
    rcases hend c hc with rfl | rfl <;> decide
  | string text =>
    exact ⟨_, .text text, fun _ hrow => .lexeme (isLexeme_stringLiteral text) trivial hrow⟩

theorem chainChars_cons (operand next : Expression) (operands : List Expression) :
    chainChars (operand :: next :: operands)
      = operandChars operand ++ ' ' :: '?' :: '?' :: ' ' :: chainChars (next :: operands) :=
  rfl

/-- Operands that are spelled out are spelled out as a chain. -/
theorem spells_chain {operands : List Expression} (hne : operands ≠ [])
    (h : ∀ operand ∈ operands,
      ∃ front, IsOperand front operand ∧ Spells (operandChars operand) front) :
    ∃ front, IsChain front operands ∧ Spells (chainChars operands) front := by
  induction operands with
  | nil => exact absurd rfl hne
  | cons operand operands ih =>
    obtain ⟨⟨front, hfront, hspelled⟩, hmore⟩ := List.forall_mem_cons.mp h
    cases operands with
    | nil => exact ⟨front, .single hfront, hspelled⟩
    | cons next operands =>
      obtain ⟨later, hlater, hspelled'⟩ := ih (List.cons_ne_nil _ _) hmore
      refine ⟨_, .cons hfront hlater, fun {text ts} hend hrow => ?_⟩
      have hspace : isBlank ' ' = true := by decide
      have hrest : IsRow (' ' :: '?' :: '?' :: ' ' :: (chainChars (next :: operands) ++ text))
          (.coalesce :: (later ++ ts)) :=
        .blank hspace (.lexeme .coalesce trivial (.blank hspace (hspelled' hend hrow)))
      rw [chainChars_cons, List.append_assoc, List.append_assoc]
      exact hspelled (fun c hc => Or.inl (Option.some.inj hc).symm) hrest

theorem spells_operand {e : Expression} (h : e.IsCanonical Value.IsLiteral) :
    ∃ front, IsOperand front e ∧ Spells (operandChars e) front := by
  induction h with
  | @path root steps hroot htrue hfalse hnull hsteps =>
    obtain ⟨front, hfront, hspelled⟩ := exists_isRow_steps hsteps
    refine ⟨_, .path htrue hfalse hnull hfront, fun hend hrow => ?_⟩
    rw [operandChars, List.append_assoc]
    exact isRow_name hroot (endsName_steps hend.endsName steps) (hspelled hend.endsName hrow)
  | literal h => exact spells_literal h
  | @coalesce operands hseveral _ ih =>
    obtain ⟨front, hfront, hspelled⟩ :=
      spells_chain (List.ne_nil_of_length_pos (by omega)) ih
    refine ⟨_, .group (.coalesce hfront hseveral), fun hend hrow => ?_⟩
    simp only [operandChars, List.cons_append, List.append_assoc, List.nil_append]
    refine isRow_mark rfl (hspelled ?_ (isRow_mark rfl hrow))
    exact fun c hc => Or.inr (Option.some.inj hc).symm

theorem spells_print {e : Expression} (h : e.IsCanonical Value.IsLiteral) :
    ∃ front, IsExpression front e ∧ Spells (print e) front := by
  have hoperand := spells_operand h
  cases h with
  | path | literal =>
    obtain ⟨front, hfront, hspelled⟩ := hoperand
    exact ⟨front, .operand hfront, hspelled⟩
  | coalesce hseveral hoperands =>
    obtain ⟨front, hfront, hspelled⟩ := spells_chain (List.ne_nil_of_length_pos (by omega))
      fun operand hmem => spells_operand (hoperands operand hmem)
    exact ⟨front, .coalesce hfront hseveral, hspelled⟩

/-- A canonical expression reads back from what it is printed as, and nothing is read but canonical
expressions, numbers with a point apart. -/
theorem parse_print (e : Expression) :
    (e.IsCanonical Value.IsLiteral → parse (print e) = .ok e)
      ∧ ∀ code, parse code = .ok e → e.IsCanonical Value.IsLiteralOrDouble := by
  refine ⟨fun h => ?_, fun code => isCanonical_of_parse⟩
  obtain ⟨front, hderived, hspelled⟩ := spells_print h
  have hend : EndsOperand [] := fun c hc => nomatch hc
  have hrow := hspelled hend .nil
  rw [List.append_nil, List.append_nil] at hrow
  exact parse_eq_ok_iff_exists_tokens.mpr ⟨front, tokens_eq_ok_iff.mpr hrow, hderived⟩

/-- A chain within a chain, a number with its sign, and a key with a quote and a backslash in it. -/
theorem exists_print_nested :
    ∃ e : Expression,
      e = .coalesce [.path "Model" [.member "Lines", .index 20, .key "a\"]\\ "],
          .coalesce [.literal (.number (.whole (-5))), .literal (.string "x?\n")], .literal .null]
        ∧ e.IsCanonical Value.IsLiteral
        ∧ print e = "Model.Lines[20][\"a\\\"]\\\\ \"] ?? (-5 ?? \"x?\n\") ?? null".toList
        ∧ parse (print e) = .ok e
        ∧ e.IsCanonical Value.IsLiteralOrDouble := by
  have hpath : IsCanonical Value.IsLiteral
      (.path "Model" [.member "Lines", .index 20, .key "a\"]\\ "]) :=
    .path (by decide) (by decide) (by decide) (by decide) fun step hstep => by
      fin_cases hstep
      · show isIdentifier "Lines".toList = true
        decide
      · show 20 < 2 ^ 63
        decide
      · trivial
  have hchain : IsCanonical Value.IsLiteral
      (.coalesce [.literal (.number (.whole (-5))), .literal (.string "x?\n")]) :=
    .coalesce (le_refl 2) (by simpa using ⟨.literal (.whole rfl), .literal (.string _)⟩)
  have hcanonical : IsCanonical Value.IsLiteral
      (.coalesce [.path "Model" [.member "Lines", .index 20, .key "a\"]\\ "],
        .coalesce [.literal (.number (.whole (-5))), .literal (.string "x?\n")],
        .literal .null]) :=
    .coalesce (by decide) (by simpa using ⟨hpath, hchain, .literal .null⟩)
  have hparse := (parse_print _).1 hcanonical
  exact ⟨_, rfl, hcanonical, rfl, hparse, (parse_print _).2 _ hparse⟩

end Expression

end Stencil
