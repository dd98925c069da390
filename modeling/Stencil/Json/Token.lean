import Stencil.Json.Basic
import Stencil.Json.Escape

/-!
# JSON tokens

A JSON text is a list of tokens with blanks between them. The reader of tokens takes the longest
numeral it can, so two values can only stand side by side where the reader of trees refuses them.
-/

namespace Stencil.Json

open Decimal

/-- A token of a JSON text. -/
inductive Token where
  /-- `[` -/
  | openArray
  /-- `]` -/
  | closeArray
  /-- `{` -/
  | openObject
  /-- `}` -/
  | closeObject
  /-- `,` -/
  | comma
  /-- `:` -/
  | colon
  /-- `null` -/
  | null
  /-- `true` or `false` -/
  | bool (value : Bool)
  /-- A number. -/
  | number (numeral : Numeral)
  /-- A string; it has no text when it holds half of a surrogate pair. -/
  | string (text : Option String)
deriving DecidableEq, Repr

/-- The characters that may stand between tokens. -/
def isSpace (c : Char) : Bool :=
  c == ' ' || c == '\t' || c == '\n' || c == '\r'

/-- The leading digits of a text and what follows them. -/
def spanDigits (text : List Char) : List Char × List Char :=
  (text.takeWhile Char.isDigit, text.dropWhile Char.isDigit)

/-- Reads the digits after a point, if there is a point. -/
def readFraction : List Char → Option (List Char × List Char)
  | '.' :: rest => if (spanDigits rest).1.isEmpty then none else some (spanDigits rest)
  | rest => some ([], rest)

/-- Reads the digits of an exponent. -/
def readExponentDigits (negative : Bool) (text : List Char) : Option (Option Int × List Char) :=
  if (spanDigits text).1.isEmpty then none
  else
    let size : Int := ofDigits (spanDigits text).1
    some (some (if negative then -size else size), (spanDigits text).2)

/-- Reads the exponent after the letter for it, if there is one. -/
def readExponent : List Char → Option (Option Int × List Char)
  | 'e' :: '-' :: rest => readExponentDigits true rest
  | 'E' :: '-' :: rest => readExponentDigits true rest
  | 'e' :: '+' :: rest => readExponentDigits false rest
  | 'E' :: '+' :: rest => readExponentDigits false rest
  | 'e' :: rest => readExponentDigits false rest
  | 'E' :: rest => readExponentDigits false rest
  | rest => some (none, rest)

/-- Reads a numeral without its sign. A zero in front of other digits is refused. -/
def readUnsigned (negative : Bool) (text : List Char) : Option (Numeral × List Char) := do
  let (whole, rest) := spanDigits text
  if whole.isEmpty || (whole.head? == some '0' && whole.length != 1) then none
  let (fraction, rest) ← readFraction rest
  let (exponent, rest) ← readExponent rest
  some ({ negative, whole, fraction, exponent }, rest)

/-- Reads a numeral. -/
def readNumeral : List Char → Option (Numeral × List Char)
  | '-' :: rest => readUnsigned true rest
  | text => readUnsigned false text

/-! ## Progress -/

theorem length_spanDigits_le (text : List Char) : (spanDigits text).2.length ≤ text.length :=
  (List.dropWhile_suffix _).length_le

theorem length_spanDigits_lt {text : List Char} (h : (spanDigits text).1.isEmpty = false) :
    (spanDigits text).2.length < text.length := by
  have split := congrArg List.length (List.takeWhile_append_dropWhile (p := Char.isDigit) (l := text))
  simp only [List.length_append] at split
  have : 0 < (text.takeWhile Char.isDigit).length := by
    simpa [spanDigits, List.length_pos_iff] using h
  simp only [spanDigits]
  omega

theorem length_of_readFraction {text fraction rest : List Char}
    (h : readFraction text = some (fraction, rest)) : rest.length ≤ text.length := by
  unfold readFraction at h
  split at h
  · next tail =>
    split at h
    · simp at h
    · simp only [Option.some.injEq] at h
      have : rest.length ≤ tail.length := by simpa [h] using length_spanDigits_le tail
      simp only [List.length_cons]
      omega
  · simp only [Option.some.injEq, Prod.mk.injEq] at h
    exact Nat.le_of_eq (congrArg List.length h.2.symm)

theorem length_of_readExponentDigits {negative : Bool} {text rest : List Char} {e : Option Int}
    (h : readExponentDigits negative text = some (e, rest)) : rest.length ≤ text.length := by
  unfold readExponentDigits at h
  split at h
  · simp at h
  · simp only [Option.some.injEq, Prod.mk.injEq] at h
    rw [← h.2]
    exact length_spanDigits_le text

theorem length_of_readExponent {text rest : List Char} {e : Option Int}
    (h : readExponent text = some (e, rest)) : rest.length ≤ text.length := by
  unfold readExponent at h
  split at h
  case h_7 =>
    simp only [Option.some.injEq, Prod.mk.injEq] at h
    exact Nat.le_of_eq (congrArg List.length h.2.symm)
  all_goals
    have := length_of_readExponentDigits h
    simp only [List.length_cons]
    omega

theorem length_of_readUnsigned {negative : Bool} {text rest : List Char} {n : Numeral}
    (h : readUnsigned negative text = some (n, rest)) : rest.length < text.length := by
  simp only [readUnsigned, Option.bind_eq_bind] at h
  split at h
  · simp at h
  · next hwhole =>
    simp only [Bool.or_eq_true, not_or, Bool.not_eq_true] at hwhole
    simp only [Option.bind_eq_some_iff, Option.some.injEq, Prod.mk.injEq, Prod.exists] at h
    obtain ⟨fraction, r₁, h₁, e, r₂, h₂, -, rfl⟩ := h
    have := length_spanDigits_lt hwhole.1
    have := length_of_readFraction h₁
    have := length_of_readExponent h₂
    omega

/-- Reading a numeral takes characters off the text. -/
theorem length_of_readNumeral {text rest : List Char} {n : Numeral}
    (h : readNumeral text = some (n, rest)) : rest.length < text.length := by
  unfold readNumeral at h
  split at h
  · have := length_of_readUnsigned h
    simp only [List.length_cons]
    omega
  · exact length_of_readUnsigned h

/-! ## Tokens -/

/-- The token of a character that is a token by itself. -/
def Token.ofMark? : Char → Option Token
  | '[' => some .openArray
  | ']' => some .closeArray
  | '\x7b' => some .openObject
  | '\x7d' => some .closeObject
  | ',' => some .comma
  | ':' => some .colon
  | _ => none

/-- Reads a word. -/
def readWord : List Char → Option (Token × List Char)
  | 'n' :: 'u' :: 'l' :: 'l' :: rest => some (.null, rest)
  | 't' :: 'r' :: 'u' :: 'e' :: rest => some (.bool true, rest)
  | 'f' :: 'a' :: 'l' :: 's' :: 'e' :: rest => some (.bool false, rest)
  | _ => none

/-- Reads one token off a text that starts with no blank. -/
def readToken : List Char → Option (Token × List Char)
  | [] => none
  | '"' :: rest =>
    (readString rest).map fun (units, after) =>
      (.string ((textOfUnits units).map String.ofList), after)
  | c :: rest =>
    match Token.ofMark? c with
    | some mark => some (mark, rest)
    | none =>
      (readWord (c :: rest)).or ((readNumeral (c :: rest)).map fun (n, after) => (.number n, after))

theorem length_of_readWord {text rest : List Char} {t : Token}
    (h : readWord text = some (t, rest)) : rest.length < text.length := by
  unfold readWord at h
  split at h <;> simp only [Option.some.injEq, Prod.mk.injEq, reduceCtorEq] at h
  all_goals
    rw [← h.2]
    simp only [List.length_cons]
    omega

/-- Reading a token takes characters off the text. -/
theorem length_of_readToken {text rest : List Char} {t : Token}
    (h : readToken text = some (t, rest)) : rest.length < text.length := by
  unfold readToken at h
  split at h
  · simp at h
  · simp only [Option.map_eq_some_iff, Prod.mk.injEq, Prod.exists] at h
    obtain ⟨units, after, h, -, rfl⟩ := h
    have := readString_length h
    simp only [List.length_cons]
    omega
  · split at h
    · simp only [Option.some.injEq, Prod.mk.injEq] at h
      rw [← h.2]
      simp
    · simp only [Option.or_eq_some_iff, Option.map_eq_some_iff, Prod.mk.injEq, Prod.exists] at h
      rcases h with h | ⟨-, n, after, h, -, rfl⟩
      · exact length_of_readWord h
      · exact length_of_readNumeral h

/-- The tokens of a text. -/
def tokens : List Char → Option (List Token)
  | [] => some []
  | c :: rest =>
    if isSpace c then tokens rest
    else
      match _h : readToken (c :: rest) with
      | none => none
      | some (t, after) => (tokens after).map (t :: ·)
termination_by text => text.length
decreasing_by
  · simp
  · exact length_of_readToken ‹_›

end Stencil.Json
