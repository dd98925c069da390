import Stencil.Decimal.Shortest
import Stencil.Text.Blank
import Stencil.Text.Identifier
import Stencil.Text.Quoted

/-!
# Expression tokens

An expression is cut into names, literals and marks, with blanks between them. Places in it are
told in bytes of its UTF-8.
-/

namespace Stencil.Expression

open Decimal Text

/-- A token of an expression. -/
inductive Token where
  /-- An identifier. -/
  | name (text : String)
  /-- A string literal, by its text. -/
  | text (text : String)
  /-- A whole number of 64 bits with a sign. -/
  | whole (value : Int)
  /-- A number with a point. -/
  | double (value : Double)
  /-- `.` -/
  | dot
  /-- `[` -/
  | openBracket
  /-- `]` -/
  | closeBracket
  /-- `(` -/
  | openParen
  /-- `)` -/
  | closeParen
  /-- `??` -/
  | coalesce
deriving DecidableEq

/-- Messages write doubles plainly when their first digit has an exponent from -4 to 15. -/
def messageLayout : Layout where
  plainFrom := -4
  plainTo := 15
  tiesUp := true

/-- How a message names a token. -/
def Token.described : Token → String
  | .name word => s!"Ident({quoted word})"
  | .text content => s!"Str({quoted content})"
  | .whole value => s!"Int({value})"
  | .double value =>
    let digits := String.ofList ((messageLayout.numeral value).chars false)
    s!"Float({digits})"
  | .dot => "Dot"
  | .openBracket => "LBracket"
  | .closeBracket => "RBracket"
  | .openParen => "LParen"
  | .closeParen => "RParen"
  | .coalesce => "Coalesce"

/-- What can be wrong with the text of an expression. -/
inductive SyntaxError where
  /-- A question mark without a second one. -/
  | loneQuestionMark (offset : Nat)
  /-- A number that is none, or that has no value of its kind. -/
  | badNumber (text : String) (offset : Nat)
  /-- A character that starts no token. -/
  | strayChar (c : Char) (offset : Nat)
  /-- A backslash before a character that it does not escape. -/
  | badEscape (c : Char)
  /-- A string literal without an end. -/
  | openString (offset : Nat)
  /-- Nothing but blanks. -/
  | empty
  /-- An operand is missing at the end. -/
  | missingOperand
  /-- A token where an operand should start. -/
  | unexpected (token : Token)
  /-- A token after a whole expression. -/
  | trailing (token : Token)
  /-- A dot without a member name. -/
  | missingMember (root : String)
  /-- An index below zero. -/
  | negativeIndex (value : Int)
  /-- Brackets without an index or a key. -/
  | missingIndex
  /-- An opening bracket without a closing one. -/
  | missingBracket
  /-- An opening parenthesis without a closing one. -/
  | missingParen
deriving DecidableEq

/-- The wording of a syntax error. -/
def SyntaxError.message : SyntaxError → String
  | .loneQuestionMark offset => s!"expected '??' at offset {offset}"
  | .badNumber text offset => s!"invalid number '{text}' at offset {offset}"
  | .strayChar c offset => s!"unexpected character '{c}' at offset {offset}"
  | .badEscape c => s!"invalid escape '\\{c}' in string"
  | .openString offset => s!"unterminated string starting at offset {offset}"
  | .empty => "empty expression"
  | .missingOperand => "unexpected end of expression"
  | .unexpected token => s!"unexpected {token.described}"
  | .trailing token => s!"unexpected {token.described} after expression"
  | .missingMember root => s!"expected a member name after '{root}.'"
  | .negativeIndex value => s!"negative index {value}"
  | .missingIndex => "expected an index or a string key"
  | .missingBracket => "expected ']'"
  | .missingParen => "expected ')'"

/-! ## String literals -/

/-- The character that a character stands for after a backslash. -/
def unescapeChar : Char → Option Char
  | '"' => some '"'
  | '\\' => some '\\'
  | 'n' => some '\n'
  | 't' => some '\t'
  | 'r' => some '\r'
  | _ => none

/-- The text of a string literal whose opening quote, at the given offset, has been read, and what
follows its closing quote. -/
def readString (start : Nat) : List Char → Except SyntaxError (List Char × List Char)
  | [] => .error (.openString start)
  | '"' :: rest => .ok ([], rest)
  | ['\\'] => .error (.openString start)
  | '\\' :: c :: rest =>
    match unescapeChar c with
    | none => .error (.badEscape c)
    | some c =>
      match readString start rest with
      | .ok (text, after) => .ok (c :: text, after)
      | .error e => .error e
  | c :: rest =>
    match readString start rest with
    | .ok (text, after) => .ok (c :: text, after)
    | .error e => .error e

/-! ## Numbers -/

/-- The characters of a number: a sign, digits, and a point among the digits. -/
structure NumberText where
  /-- Whether a minus sign stands in front. -/
  negative : Bool
  /-- The digits before the point. -/
  whole : List Char
  /-- The digits after the point, if there is a point. -/
  fraction : Option (List Char)
deriving DecidableEq

/-- The digits of an unsigned number and what follows them. -/
def readDigits (negative : Bool) (text : List Char) : NumberText × List Char :=
  let whole := text.takeWhile Char.isDigit
  match text.dropWhile Char.isDigit with
  | '.' :: rest =>
    (⟨negative, whole, some (rest.takeWhile Char.isDigit)⟩, rest.dropWhile Char.isDigit)
  | rest => (⟨negative, whole, none⟩, rest)

/-- The longest number in front of a text and what follows it. -/
def readNumber : List Char → NumberText × List Char
  | '-' :: rest => readDigits true rest
  | text => readDigits false text

/-- The characters of a number. -/
def NumberText.chars (n : NumberText) : List Char :=
  (if n.negative then ['-'] else []) ++ n.whole ++ (n.fraction.map ('.' :: ·)).getD []

/-- The token of a number. Without a point it must fit 64 bits with a sign; with a point it must
have a digit on one side and must not overflow. -/
def NumberText.token? (n : NumberText) : Option Token :=
  match n.fraction with
  | none =>
    let size : Int := ofDigits n.whole
    let value := if n.negative then -size else size
    if n.whole.isEmpty || !fitsSigned value then none else some (.whole value)
  | some fraction =>
    if n.whole.isEmpty && fraction.isEmpty then none
    else (Double.ofNumeral? ⟨n.negative, n.whole, fraction, none⟩).map .double

/-! ## Tokens -/

/-- The size of a text in bytes of its UTF-8. -/
def byteSize : List Char → Nat
  | [] => 0
  | c :: rest => c.utf8Size + byteSize rest

/-- The token of a character that is a token by itself. -/
def Token.ofMark? : Char → Option Token
  | '.' => some .dot
  | '[' => some .openBracket
  | ']' => some .closeBracket
  | '(' => some .openParen
  | ')' => some .closeParen
  | _ => none

/-- Reads the token that starts with the given character, at the given offset. -/
def readToken (start : Nat) (c : Char) (rest : List Char) :
    Except SyntaxError (Token × List Char) :=
  match Token.ofMark? c with
  | some mark => .ok (mark, rest)
  | none =>
    if c = '?' then
      match rest with
      | '?' :: rest => .ok (.coalesce, rest)
      | _ => .error (.loneQuestionMark start)
    else if c = '"' then
      match readString start rest with
      | .ok (text, after) => .ok (.text (String.ofList text), after)
      | .error e => .error e
    else if c.isDigit || c = '-' then
      match (readNumber (c :: rest)).1.token? with
      | some token => .ok (token, (readNumber (c :: rest)).2)
      | none => .error (.badNumber (String.ofList (readNumber (c :: rest)).1.chars) start)
    else if startsIdentifier c then
      .ok (.name (String.ofList (c :: rest.takeWhile continuesIdentifier)),
        rest.dropWhile continuesIdentifier)
    else .error (.strayChar c start)

/-! ## Progress -/

theorem length_of_readString {start : Nat} {text after literal : List Char}
    (h : readString start text = .ok (literal, after)) : after.length < text.length := by
  fun_induction readString start text generalizing literal with
  | case2 rest =>
    obtain ⟨-, rfl⟩ : [] = literal ∧ rest = after := by simpa using h
    simp
  | case5 c rest c' hc text' after' hrest ih =>
    obtain ⟨-, rfl⟩ : c' :: text' = literal ∧ after' = after := by simpa using h
    have := ih hrest
    simp only [List.length_cons]
    omega
  | case7 c rest _ _ _ text' after' hrest ih =>
    obtain ⟨-, rfl⟩ : c :: text' = literal ∧ after' = after := by simpa using h
    have := ih hrest
    simp only [List.length_cons]
    omega
  | case1 | case3 | case4 | case6 | case8 => simp at h

theorem length_dropWhile_le (p : α → Bool) (l : List α) : (l.dropWhile p).length ≤ l.length :=
  (List.dropWhile_suffix p).length_le

theorem length_readDigits_le (negative : Bool) (text : List Char) :
    (readDigits negative text).2.length ≤ text.length := by
  have split := length_dropWhile_le Char.isDigit text
  unfold readDigits
  split
  · next rest heq =>
    have := length_dropWhile_le Char.isDigit rest
    rw [heq] at split
    simp only [List.length_cons] at split ⊢
    omega
  · exact split

theorem length_readDigits_lt {negative : Bool} {c : Char} {rest : List Char}
    (h : c.isDigit = true) : (readDigits negative (c :: rest)).2.length < (c :: rest).length := by
  have split := length_dropWhile_le Char.isDigit rest
  have heq : (c :: rest).dropWhile Char.isDigit = rest.dropWhile Char.isDigit := by simp [h]
  unfold readDigits
  rw [heq]
  split
  · next tail htail =>
    have := length_dropWhile_le Char.isDigit tail
    rw [htail] at split
    simp only [List.length_cons] at split ⊢
    omega
  · simp only [List.length_cons]
    omega

theorem length_readNumber_lt {c : Char} {rest : List Char} (h : c.isDigit = true ∨ c = '-') :
    (readNumber (c :: rest)).2.length < (c :: rest).length := by
  by_cases hc : c = '-'
  · subst hc
    have := length_readDigits_le true rest
    simp only [readNumber, List.length_cons]
    omega
  · have heq : readNumber (c :: rest) = readDigits false (c :: rest) := by
      unfold readNumber
      split
      · next heq => exact absurd (List.cons.inj heq).1 hc
      · rfl
    rw [heq]
    exact length_readDigits_lt (h.resolve_right hc)

/-- Reading a token takes characters off the text. -/
theorem length_of_readToken {start : Nat} {c : Char} {rest after : List Char} {t : Token}
    (h : readToken start c rest = .ok (t, after)) : after.length < (c :: rest).length := by
  unfold readToken at h
  split at h
  · obtain ⟨-, rfl⟩ := Prod.mk.inj (Except.ok.inj h)
    simp
  · split at h
    · split at h
      · obtain ⟨-, rfl⟩ := Prod.mk.inj (Except.ok.inj h)
        simp only [List.length_cons]
        omega
      · simp at h
    · split at h
      · split at h
        · next text' after' hread =>
          obtain ⟨-, rfl⟩ := Prod.mk.inj (Except.ok.inj h)
          have := length_of_readString hread
          simp only [List.length_cons]
          omega
        · simp at h
      · split at h
        · next hnumber =>
          split at h
          · obtain ⟨-, rfl⟩ := Prod.mk.inj (Except.ok.inj h)
            exact length_readNumber_lt (by simpa using hnumber)
          · simp at h
        · split at h
          · obtain ⟨-, rfl⟩ := Prod.mk.inj (Except.ok.inj h)
            have := length_dropWhile_le continuesIdentifier rest
            simp only [List.length_cons]
            omega
          · simp at h

/-- The tokens of a text that starts at the given offset. -/
def tokensFrom (start : Nat) : List Char → Except SyntaxError (List Token)
  | [] => .ok []
  | c :: rest =>
    if isBlank c then tokensFrom (start + c.utf8Size) rest
    else
      match _h : readToken start c rest with
      | .error e => .error e
      | .ok (t, after) =>
        match tokensFrom (start + (byteSize (c :: rest) - byteSize after)) after with
        | .ok ts => .ok (t :: ts)
        | .error e => .error e
termination_by text => text.length
decreasing_by
  · simp
  · exact length_of_readToken ‹_›

/-- The tokens of an expression. -/
def tokens (code : List Char) : Except SyntaxError (List Token) :=
  tokensFrom 0 code

end Stencil.Expression
