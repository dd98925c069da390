/-!
# Percent-encoding

In a URL a byte that must not stand for itself is written as a percent sign and two hexadecimal
digits. Each part of a URL has a set of characters that must not stand in it; characters past ASCII
never do.
-/

namespace Stencil.Url

/-- The bytes of a character in UTF-8. -/
def utf8 (c : Char) : List UInt8 :=
  String.utf8EncodeChar c

/-- A hexadecimal digit in upper case. -/
def upperHexDigit (n : Nat) : Char :=
  (Nat.digitChar n).toUpper

/-- A byte as a percent sign and two digits. -/
def percentByte (b : UInt8) : List Char :=
  ['%', upperHexDigit (b.toNat / 16), upperHexDigit (b.toNat % 16)]

/-- A character by its bytes. -/
def percentChar (c : Char) : List Char :=
  (utf8 c).flatMap percentByte

/-- A text in which every character of a set is written by its bytes. -/
def percentEncode (set : Char → Bool) (text : List Char) : List Char :=
  text.flatMap fun c => if set c then percentChar c else [c]

/-- Characters that no part of a URL holds. -/
def isControl (c : Char) : Bool :=
  c.toNat < 0x20 || 0x7E < c.toNat

/-- Characters that a fragment does not hold. -/
def inFragmentSet (c : Char) : Bool :=
  isControl c || " \"<>`".toList.contains c

/-- Characters that a query does not hold; the query of a special scheme holds no apostrophe. -/
def inQuerySet (special : Bool) (c : Char) : Bool :=
  isControl c || " \"#<>".toList.contains c || (special && c == '\'')

/-- Characters that a path does not hold. -/
def inPathSet (c : Char) : Bool :=
  inFragmentSet c || "#?\x7b\x7d".toList.contains c

/-- Characters that a user name or a password does not hold. -/
def inUserSet (c : Char) : Bool :=
  inPathSet c || "/:;=@[\\]^|".toList.contains c

/-- What a hexadecimal digit counts. -/
def hexValue? (c : Char) : Option Nat :=
  if '0' ≤ c ∧ c ≤ '9' then some (c.toNat - 48)
  else if 'a' ≤ c ∧ c ≤ 'f' then some (c.toNat - 87)
  else if 'A' ≤ c ∧ c ≤ 'F' then some (c.toNat - 55)
  else none

/-- The bytes of a text in which percent signs before two digits write bytes. -/
def percentDecode : List Char → List UInt8
  | [] => []
  | '%' :: a :: b :: rest =>
    match hexValue? a, hexValue? b with
    | some high, some low => UInt8.ofNat (high * 16 + low) :: percentDecode rest
    | _, _ => 37 :: percentDecode (a :: b :: rest)
  | c :: rest => utf8 c ++ percentDecode rest

/-! ## Form encoding -/

/-- Whether a character stands for itself in form encoding. -/
def isFormSafe (c : Char) : Bool :=
  c.isAlphanum || "*-._".toList.contains c

/-- One character in form encoding. -/
def formChar (c : Char) : List Char :=
  if isFormSafe c then [c] else if c = ' ' then ['+'] else percentChar c

/-- A text in form encoding: letters, digits and `*-._` stand for themselves, a space is a plus sign,
and all else is written by its bytes. -/
def formEncode (text : List Char) : List Char :=
  text.flatMap formChar

end Stencil.Url
