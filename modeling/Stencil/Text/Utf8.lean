/-!
# Bytes as text

Bytes from elsewhere are shown as text even when they are not valid UTF-8: every longest start of
a character that is cut off, and every byte that starts none, shows as U+FFFD.
-/

namespace Stencil.Text

/-- The character that stands for bytes that are no text. -/
def replacementChar : Char := '\uFFFD'

/-- Whether a byte continues a character. -/
def isContinuation (b : UInt8) : Bool :=
  0x80 ≤ b && b ≤ 0xBF

/-- How many bytes follow a leading byte, and the range the first of them must lie in. -/
def leading (b : UInt8) : Option (Nat × UInt8 × UInt8) :=
  if 0xC2 ≤ b && b ≤ 0xDF then some (1, 0x80, 0xBF)
  else if b = 0xE0 then some (2, 0xA0, 0xBF)
  else if b = 0xED then some (2, 0x80, 0x9F)
  else if 0xE1 ≤ b && b ≤ 0xEF then some (2, 0x80, 0xBF)
  else if b = 0xF0 then some (3, 0x90, 0xBF)
  else if 0xF1 ≤ b && b ≤ 0xF3 then some (3, 0x80, 0xBF)
  else if b = 0xF4 then some (3, 0x80, 0x8F)
  else none

/-- The continuation bytes at the front, at most `count` of them. -/
def continuations (count : Nat) (bytes : List UInt8) : List UInt8 :=
  (bytes.take count).takeWhile isContinuation

/-- The code point of a leading byte followed by its continuation bytes. -/
def codePoint (lead : UInt8) (rest : List UInt8) : Nat :=
  let high :=
    match rest.length with
    | 1 => lead.toNat % 32
    | 2 => lead.toNat % 16
    | _ => lead.toNat % 8
  rest.foldl (fun n b => n * 64 + b.toNat % 64) high

/-- The characters of bytes, with a gap for each row of bytes that is no character. -/
def charsOrGaps : List UInt8 → List (Option Char)
  | [] => []
  | b :: rest =>
    if b < 0x80 then some (Char.ofNat b.toNat) :: charsOrGaps rest
    else
      match leading b with
      | none => none :: charsOrGaps rest
      | some (count, low, high) =>
        let tail :=
          match rest with
          | [] => []
          | c :: _ => if low ≤ c && c ≤ high then continuations count rest else []
        let char := if tail.length = count then some (Char.ofNat (codePoint b tail)) else none
        char :: charsOrGaps (rest.drop tail.length)
termination_by bytes => bytes.length

/-- The text that bytes show as; valid UTF-8 shows as itself. -/
def shown (bytes : ByteArray) : String :=
  match String.fromUTF8? bytes with
  | some text => text
  | none => String.ofList ((charsOrGaps bytes.toList).map (·.getD replacementChar))

end Stencil.Text
