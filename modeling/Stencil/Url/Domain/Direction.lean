import Stencil.Text.Mark

/-!
# Directions in domain names

Some scripts are written from right to left. In a domain name that holds such a script every label
must have one direction, so that the order of the labels can be told. The tables list characters
that domain names hold; others may stand in any range.
-/

namespace Stencil.Url.Domain

open Text (Ranges)

/-- How a character goes with the direction of a text. -/
inductive Direction where
  /-- A letter of a script from left to right. -/
  | leftToRight
  /-- A letter of a script from right to left. -/
  | rightToLeft
  /-- A digit that is written from left to right in any text. -/
  | digit
  /-- A digit or a sign of numbers in a text from right to left. -/
  | arabicNumber
  /-- A mark, which goes with the character before it. -/
  | mark
  /-- A character that goes with any text. -/
  | neutral
deriving DecidableEq, Repr

/-- Letters of scripts from right to left. -/
def rightToLeftRanges : Ranges :=
  Ranges.read
    ["5be 5c0 5c3 5c6 5d0-5f4 608 60b 60d 61b-64a 66d-66f 671-6d5 6e5-6e6 6ee-6ef 6fa-710",
     "712-72f 74d-7a5 7b1-7ea 7f4-7f5 7fa 7fe-815 81a 824 828 830-858 85e-88f 8a0-8c9",
     "fbb2-fbc2 fe73 10800-1091b 10920-10a00 10a10-10a35 10a40-10ae4 10aeb-10b35 10b40-10d23",
     "10d40-10d4f 10d6f-10d85 10e80-10ea9 10ead-10ec7 10f00-10f45 10f51-10f81 10f86-10ff6",
     "1e800-1e8cf 1e922-1e943 1e94b-1ed3d"]

/-- Digits and signs of numbers in texts from right to left. -/
def arabicNumberRanges : Ranges :=
  Ranges.read
    ["660-669 66b-66c 10d30-10d39 10e60-10e7e"]

/-- Digits past ASCII that are written from left to right in any text. -/
def digitRanges : Ranges :=
  Ranges.read
    ["6f0-6f9 102e1-102fb"]

/-- Characters past ASCII that go with any text. -/
def neutralRanges : Ranges :=
  Ranges.read
    ["a1-d7 f7 2b9-2ba 2c2-2cf 2d2-2ed 2ef-2ff 375 3f6 58a-58f 606-607 609-60a 60c 60e-60f 66a",
     "6de 6e9 7f6-7f9 9f2-9f3 9fb af1 bf3-bfa c78-c7e e3f f3a-f3d 1390-1399 1400 169b-169c",
     "17db 17f0-180a 1940-1945 19de-19ff 1b4e-1b4f 1b7f 200c-20c1 2104-214d 218a-2335",
     "237b-2394 2396-26ab 26ad-27ff 2900-2bff 2ce5-2cea 2cf9-2cff 2e00-3004 3008-3020 3030",
     "3037 303d-303f 30a0 30fb 31c0-31e5 4dc0-4dff a490-a4c6 a60d-a60f a673 a67e-a67f",
     "a700-a721 a788 a828-a82b a838-a839 a874-a877 ab6a-ab6b fbc3-fdff fe45-fe46 10101",
     "10140-1018c 10190-101a0 1091f 10b39-10b3f 10d6e 10d8e-10d8f 10ed0-10ed8 11052-11065",
     "113d4-113d8 11660-1166c 11be1 11fd5-11ff1 16d6d-16d6f 16fe2 1cc00-1cef0 1d1e9-1d241",
     "1d245 1d300-1d356 1e2ff 1e5ff 1eef0-1f12f 1f16d-1f16f 1f1ad 1f260-1fbfa"]

/-- Marks that take no room but count as letters. -/
def letterMarkRanges : Ranges :=
  Ranges.read
    ["cbf cc6 11a07-11a08 11c3f"]

/-- The direction of a character. -/
def direction (c : Char) : Direction :=
  if c.toNat < 128 then
    if c.isAlpha then .leftToRight else if c.isDigit then .digit else .neutral
  else if Text.isNonspacingMark c && !letterMarkRanges.contains c then .mark
  else if rightToLeftRanges.contains c then .rightToLeft
  else if arabicNumberRanges.contains c then .arabicNumber
  else if digitRanges.contains c then .digit
  else if neutralRanges.contains c then .neutral
  else .leftToRight

/-- Whether a character makes its domain name one that must keep to directions. -/
def setsDirection (c : Char) : Bool :=
  direction c = .rightToLeft || direction c = .arabicNumber

/-- Whether a label starts with a letter of a direction, ends with a letter of it or a number, and
holds nothing of the other direction. A label from right to left has numbers of one kind only. -/
def hasDirection (label : List Char) : Bool :=
  let directions := label.map direction
  let last := (directions.reverse.dropWhile (· == .mark)).head?
  match directions with
  | [] => true
  | .leftToRight :: _ =>
    last.any [.leftToRight, .digit].contains
      && directions.all [.leftToRight, .digit, .neutral, .mark].contains
  | .rightToLeft :: _ =>
    last.any [.rightToLeft, .digit, .arabicNumber].contains
      && directions.all [.rightToLeft, .digit, .arabicNumber, .neutral, .mark].contains
      && !(directions.contains .digit && directions.contains .arabicNumber)
  | _ => false

/-- Whether the labels of a domain name keep to directions where they must. -/
def keepDirection (labels : List (List Char)) : Bool :=
  !labels.any (·.any setsDirection) || labels.all hasDirection

end Stencil.Url.Domain
