import Stencil.Text.Split
import Stencil.Url.Domain
import Stencil.Url.Percent

/-!
# Hosts

The host of a URL is a domain name, an address of four bytes, an address of eight 16-bit pieces
between brackets, or, where the scheme is not special, any name without forbidden characters.
Addresses are written in one form whatever form they were given in.
-/

namespace Stencil.Url

/-! ## Addresses of four bytes -/

/-- The number that digits of a base spell. -/
def digitsValue? (base : Nat) (digits : List Char) : Option Nat :=
  digits.foldlM (fun n c =>
    match hexValue? c with
    | some d => if d < base then some (n * base + d) else none
    | none => none) 0

/-- A part of an address, in decimal, octal after `0`, or hexadecimal after `0x`. -/
def addressPart? : List Char → Option Nat
  | [] => none
  | '0' :: 'x' :: digits => digitsValue? 16 digits
  | '0' :: 'X' :: digits => digitsValue? 16 digits
  | ['0'] => some 0
  | '0' :: digits => digitsValue? 8 digits
  | digits => digitsValue? 10 digits

/-- The parts of a text between dots. -/
def splitDots (text : List Char) : List (List Char) :=
  Text.splitWhere (· == '.') text

/-- The parts of a host without an empty one at the end. -/
def hostParts (text : List Char) : List (List Char) :=
  let parts := splitDots text
  if 1 < parts.length && parts.getLast? == some [] then parts.dropLast else parts

/-- Whether a host is meant as an address: its last part is a number. -/
def endsInNumber (text : List Char) : Bool :=
  match (hostParts text).getLast? with
  | none => false
  | some last => (!last.isEmpty && last.all Char.isDigit) || (addressPart? last).isSome

/-- How many numbers the bytes behind the given number of bytes of an address can spell. -/
def roomBehind : Nat → Nat
  | 0 => 4294967296
  | 1 => 16777216
  | 2 => 65536
  | 3 => 256
  | _ => 0

/-- The address that parts of a host spell; the last part fills the bytes that are left. -/
def address4? (text : List Char) : Option Nat := do
  let numbers ← (hostParts text).mapM addressPart?
  let last ← numbers.getLast?
  let front := numbers.dropLast
  let room := roomBehind front.length
  if front.any (255 < ·) || room ≤ last then none
  some (front.foldl (fun n byte => n * 256 + byte) 0 * room + last)

/-- An address of four bytes in decimal. -/
def address4Text (n : Nat) : String :=
  ".".intercalate ([n / 16777216, n / 65536 % 256, n / 256 % 256, n % 256].map toString)

/-! ## Addresses of eight pieces -/

/-- The parts of a text between colons. -/
def splitColons (text : List Char) : List (List Char) :=
  Text.splitWhere (· == ':') text

/-- A piece of one to four hexadecimal digits. -/
def piece? (digits : List Char) : Option Nat :=
  if 1 ≤ digits.length ∧ digits.length ≤ 4 then digitsValue? 16 digits else none

/-- A byte of an address in decimal, without zeros in front. -/
def decimalByte? (digits : List Char) : Option Nat :=
  if digits.isEmpty || !digits.all Char.isDigit || 3 < digits.length
      || (1 < digits.length && digits.head? == some '0') then none
  else
    match digitsValue? 10 digits with
    | some n => if n ≤ 255 then some n else none
    | none => none

/-- The two pieces of an address of four bytes. -/
def embedded? (text : List Char) : Option (List Nat) := do
  let bytes ← (splitDots text).mapM decimalByte?
  match bytes with
  | [a, b, c, d] => some [a * 256 + b, c * 256 + d]
  | _ => none

/-- The pieces between colons; the last one may be an address of four bytes. -/
def pieces? : List (List Char) → Option (List Nat)
  | [] => some []
  | [last] => if last.contains '.' then embedded? last else (piece? last).map ([·])
  | part :: rest => do some ((← piece? part) :: (← pieces? rest))

/-- The text before and after the first two colons in a row. -/
def splitDoubleColon : List Char → Option (List Char × List Char)
  | [] => none
  | ':' :: ':' :: rest => some ([], rest)
  | c :: rest => (splitDoubleColon rest).map fun (a, b) => (c :: a, b)

/-- The pieces of a text that may be empty. -/
def piecesOrNone? (text : List Char) : Option (List Nat) :=
  if text.isEmpty then some [] else pieces? (splitColons text)

/-- The address that a text between brackets spells. Two colons stand for one or more zeros. -/
def address6? (text : List Char) : Option (List Nat) :=
  match splitDoubleColon text with
  | some (before, after) => do
    if before.contains '.' then none
    let front ← piecesOrNone? before
    let back ← piecesOrNone? after
    if 7 < front.length + back.length then none
    some (front ++ List.replicate (8 - front.length - back.length) 0 ++ back)
  | none => do
    let pieces ← pieces? (splitColons text)
    if pieces.length = 8 then some pieces else none

/-- The length of the row of zeros at the front. -/
def zerosInFront (pieces : List Nat) : Nat :=
  (pieces.takeWhile (· == 0)).length

/-- Where the first longest row of at least two zeros starts, and its length. -/
def longestZeros (pieces : List Nat) : Option (Nat × Nat) :=
  (List.range 8).foldl (fun best i =>
    let length := zerosInFront (pieces.drop i)
    match best with
    | some (_, longest) => if longest < length then some (i, length) else best
    | none => if 1 < length then some (i, length) else none) none

/-- A piece in hexadecimal. -/
def pieceText (n : Nat) : String :=
  String.ofList (Nat.toDigits 16 n)

/-- An address of eight pieces between brackets. -/
def address6Text (pieces : List Nat) : String :=
  let row (pieces : List Nat) := ":".intercalate (pieces.map pieceText)
  match longestZeros pieces with
  | some (start, length) =>
    "[" ++ row (pieces.take start) ++ "::" ++ row (pieces.drop (start + length)) ++ "]"
  | none => "[" ++ row pieces ++ "]"

/-! ## Names -/

/-- Characters that no host holds. -/
def isForbiddenInHost (c : Char) : Bool :=
  "\x00\t\n\r #/:<>?@[\\]^|".toList.contains c

/-- Characters that no domain name holds. -/
def isForbiddenInDomain (c : Char) : Bool :=
  isForbiddenInHost c || c.toNat < 0x20 || c == '%' || c == '\x7f'

/-- The address between brackets. -/
def bracketed? (text : List Char) : Option String :=
  if text.getLast? = some ']' then (address6? (text.drop 1).dropLast).map address6Text else none

/-- The host of a URL of a special scheme. -/
def domainHost? (text : List Char) : Option String := do
  if text.head? = some '[' then bracketed? text
  else
    let decoded ← String.fromUTF8? ⟨(percentDecode text).toArray⟩
    let domain ← Domain.ascii? decoded.toList
    if domain.isEmpty || domain.any isForbiddenInDomain then none
    else if endsInNumber domain then (address4? domain).map address4Text
    else some (String.ofList domain)

/-- The host of a URL of another scheme. -/
def plainHost? (text : List Char) : Option String :=
  if text.head? = some '[' then bracketed? text
  else if text.any isForbiddenInHost then none
  else some (String.ofList (percentEncode isControl text))

end Stencil.Url
