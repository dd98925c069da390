/-!
# JSON strings

A JSON string stands between double quotes. Written strings escape the quote, the backslash and
the control characters, and nothing else. Read strings may escape any character, by its UTF-16
units; a unit of half a surrogate pair that has lost its other half makes the string no text.
-/

namespace Stencil.Json

/-! ## Writing -/

/-- A hexadecimal digit in lower case. -/
def hexDigit (n : Nat) : Char :=
  Nat.digitChar n

/-- How one character stands in a written string. -/
def escapeChar (c : Char) : List Char :=
  match c with
  | '"' => ['\\', '"']
  | '\\' => ['\\', '\\']
  | '\x08' => ['\\', 'b']
  | '\x09' => ['\\', 't']
  | '\x0a' => ['\\', 'n']
  | '\x0c' => ['\\', 'f']
  | '\x0d' => ['\\', 'r']
  | c =>
    if c.toNat < 32 then ['\\', 'u', '0', '0', hexDigit (c.toNat / 16), hexDigit (c.toNat % 16)]
    else [c]

/-- A text as a JSON string. -/
def stringChars (text : List Char) : List Char :=
  '"' :: (text.flatMap escapeChar ++ ['"'])

/-! ## Reading -/

/-- A piece of a read string: a character, or a UTF-16 unit that belongs to a surrogate pair. -/
inductive Unit16 where
  /-- A character of its own. -/
  | char (c : Char)
  /-- A unit between `D800` and `DFFF`. -/
  | surrogate (n : Nat)
deriving DecidableEq, Repr

/-- What a hexadecimal digit of either case counts. -/
def hexValue (c : Char) : Option Nat :=
  if '0' ≤ c ∧ c ≤ '9' then some (c.toNat - 48)
  else if 'a' ≤ c ∧ c ≤ 'f' then some (c.toNat - 87)
  else if 'A' ≤ c ∧ c ≤ 'F' then some (c.toNat - 55)
  else none

/-- The unit that four hexadecimal digits stand for. -/
def unitOfHex (a b c d : Char) : Option Unit16 := do
  let n := (((← hexValue a) * 16 + (← hexValue b)) * 16 + (← hexValue c)) * 16 + (← hexValue d)
  some (if 0xD800 ≤ n ∧ n ≤ 0xDFFF then .surrogate n else .char (Char.ofNat n))

/-- The character that a letter stands for after a backslash. -/
def unescapeChar : Char → Option Char
  | '"' => some '"'
  | '\\' => some '\\'
  | '/' => some '/'
  | 'b' => some '\x08'
  | 'f' => some '\x0c'
  | 'n' => some '\n'
  | 'r' => some '\r'
  | 't' => some '\t'
  | _ => none

/-- The units of a string whose opening quote has been read, and what follows its closing quote. A
control character must not stand in a string unescaped. -/
def readString : List Char → Option (List Unit16 × List Char)
  | [] => none
  | '"' :: rest => some ([], rest)
  | '\\' :: 'u' :: a :: b :: c :: d :: rest =>
    match unitOfHex a b c d, readString rest with
    | some unit, some (units, after) => some (unit :: units, after)
    | _, _ => none
  | '\\' :: c :: rest =>
    match unescapeChar c, readString rest with
    | some c, some (units, after) => some (.char c :: units, after)
    | _, _ => none
  | c :: rest =>
    if c = '\\' ∨ c.toNat < 32 then none
    else
      match readString rest with
      | some (units, after) => some (.char c :: units, after)
      | none => none

/-- The character of a surrogate pair. -/
def pairChar (high low : Nat) : Char :=
  Char.ofNat (0x10000 + (high - 0xD800) * 0x400 + (low - 0xDC00))

/-- The text of a string's units, unless a surrogate is not paired. -/
def textOfUnits : List Unit16 → Option (List Char)
  | [] => some []
  | .char c :: rest => (textOfUnits rest).map (c :: ·)
  | .surrogate high :: .surrogate low :: rest =>
    if high < 0xDC00 ∧ 0xDC00 ≤ low then (textOfUnits rest).map (pairChar high low :: ·) else none
  | .surrogate _ :: _ => none

/-- Reading a string takes characters off the text. -/
theorem readString_length {text after : List Char} {units : List Unit16}
    (h : readString text = some (units, after)) : after.length < text.length := by
  fun_induction readString text generalizing units with
  | case2 rest =>
    obtain ⟨-, rfl⟩ : [] = units ∧ rest = after := by simpa using h
    simp
  | case3 a b c d rest unit units' after' hrest hunit ih =>
    obtain ⟨-, rfl⟩ : unit :: units' = units ∧ after' = after := by simpa using h
    have := ih hrest
    simp only [List.length_cons]
    omega
  | case5 c rest _ c' units' after' hrest hchar ih =>
    obtain ⟨-, rfl⟩ : .char c' :: units' = units ∧ after' = after := by simpa using h
    have := ih hrest
    simp only [List.length_cons]
    omega
  | case8 c rest _ _ _ _ units' after' hrest ih =>
    obtain ⟨-, rfl⟩ : .char c :: units' = units ∧ after' = after := by simpa using h
    have := ih hrest
    simp only [List.length_cons]
    omega
  | case1 | case4 | case6 | case7 | case9 => simp at h

end Stencil.Json
