import Stencil.Text.Visible

/-!
# Quoted text

Messages quote a text so that every character of it can be told: between double quotes, with
escapes for the quote, the backslash, the common controls and all that does not show.
-/

namespace Stencil.Text

/-- A code point in lower case hexadecimal digits. -/
def hexadecimal (n : Nat) : List Char :=
  Nat.toDigits 16 n

/-- How one character stands in quoted text. -/
def quotedChar (c : Char) : List Char :=
  match c with
  | '\x00' => ['\\', '0']
  | '\t' => ['\\', 't']
  | '\r' => ['\\', 'r']
  | '\n' => ['\\', 'n']
  | '"' => ['\\', '"']
  | '\\' => ['\\', '\\']
  | c =>
    if isVisible c then [c] else ['\\', 'u', '\x7b'] ++ hexadecimal c.toNat ++ ['\x7d']

/-- The text between double quotes, escaped. -/
def quoted (text : String) : String :=
  String.ofList ('"' :: text.toList.flatMap quotedChar ++ ['"'])

end Stencil.Text
