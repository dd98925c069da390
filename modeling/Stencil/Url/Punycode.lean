/-!
# Punycode

A label of a domain name that has characters past ASCII is written with the ASCII characters in
front and the others encoded behind them: in the order of their code points, each as the distance
from the one before, in digits of a variable base.
-/

namespace Stencil.Url.Punycode

/-- The digits are the letters, which count from 0, and the numerals, which count from 26. -/
def digit (n : Nat) : Char :=
  if n < 26 then Char.ofNat (97 + n) else Char.ofNat (22 + n)

/-- The least digit that goes on, at the place of weight index `k`. -/
def threshold (bias k : Nat) : Nat :=
  if k ≤ bias then 1 else if bias + 26 ≤ k then 26 else k - bias

theorem one_le_threshold (bias k : Nat) : 1 ≤ threshold bias k := by
  unfold threshold
  split
  · omega
  · split <;> omega

/-- A distance in digits. -/
def distance (bias k n : Nat) : List Char :=
  if n < threshold bias k then [digit n]
  else
    digit (threshold bias k + (n - threshold bias k) % (36 - threshold bias k))
      :: distance bias (k + 36) ((n - threshold bias k) / (36 - threshold bias k))
termination_by n
decreasing_by
  have := one_le_threshold bias k
  have := Nat.div_le_self (n - threshold bias k) (36 - threshold bias k)
  omega

/-- How often a distance can be divided by 35 before it is at most 455, and what is left. -/
def reduce (n k : Nat) : Nat × Nat :=
  if n ≤ 455 then (n, k) else reduce (n / 35) (k + 36)
termination_by n
decreasing_by omega

/-- The bias after a distance. -/
def adapt (n points : Nat) (first : Bool) : Nat :=
  let scaled := if first then n / 700 else n / 2
  let (rest, k) := reduce (scaled + scaled / points) 0
  k + 36 * rest / (rest + 38)

/-- What has been encoded. -/
structure State where
  /-- The digits. -/
  output : List Char
  /-- The distance since the last encoded character. -/
  delta : Nat
  /-- The bias of the next distance. -/
  bias : Nat
  /-- How many characters have been encoded. -/
  handled : Nat

/-- Passes over a character of the label while the code point `point` is encoded. -/
def visit (basic point : Nat) (state : State) (c : Char) : State :=
  if c.toNat < point then { state with delta := state.delta + 1 }
  else if c.toNat = point then
    { output := state.output ++ distance state.bias 36 state.delta
      delta := 0
      bias := adapt state.delta (state.handled + 1) (state.handled = basic)
      handled := state.handled + 1 }
  else state

/-- Encodes the code points of a list in increasing order; `next` is the least that may come. -/
def encodeFrom (label : List Char) (basic : Nat) : List Nat → Nat → State → State
  | [], _, state => state
  | point :: points, next, state =>
    let moved := { state with delta := state.delta + (point - next) * (state.handled + 1) }
    let passed := label.foldl (visit basic point) moved
    encodeFrom label basic points (point + 1) { passed with delta := passed.delta + 1 }

/-- The code points past ASCII of a label in increasing order, each once. -/
def extended (label : List Char) : List Nat :=
  let points := (label.map Char.toNat).filter (128 ≤ ·)
  (points.mergeSort (· ≤ ·)).eraseDups

/-- A label in Punycode. -/
def encode (label : List Char) : List Char :=
  let basic := label.filter (·.toNat < 128)
  let start : State := ⟨[], 0, 72, basic.length⟩
  basic ++ (if basic.isEmpty then [] else ['-'])
    ++ (encodeFrom label basic.length (extended label) 128 start).output

/-! ## Decoding -/

/-- What a digit counts. -/
def digitValue? (c : Char) : Option Nat :=
  if 'a' ≤ c ∧ c ≤ 'z' then some (c.toNat - 97)
  else if '0' ≤ c ∧ c ≤ '9' then some (c.toNat - 22)
  else none

/-- What has been decoded. -/
structure Decoded where
  /-- The characters, each at its place. -/
  chars : List Char
  /-- The code point of the last one that was placed. -/
  point : Nat
  /-- The place behind it. -/
  place : Nat
  /-- The bias of the next distance. -/
  bias : Nat

/-- Places the character that stands at a distance behind the last one. -/
def Decoded.advance? (decoded : Decoded) (distance : Nat) : Option Decoded :=
  let size := decoded.chars.length + 1
  let point := decoded.point + (decoded.place + distance) / size
  let place := (decoded.place + distance) % size
  if point.isValidChar then
    some
      { chars := decoded.chars.take place ++ Char.ofNat point :: decoded.chars.drop place
        point
        place := place + 1
        bias := adapt distance size (decoded.place = 0) }
  else none

/-- Decodes the digits of distances. Of the distance that is being read, `distance` has been read,
and the next digit is the one of weight index `k` and has the given weight. -/
def decodeFrom (decoded : Decoded) (distance weight k : Nat) : List Char → Option (List Char)
  | [] => if k = 36 then some decoded.chars else none
  | c :: rest =>
    match digitValue? c with
    | none => none
    | some d =>
      let least := threshold decoded.bias k
      if d < least then
        match decoded.advance? (distance + d * weight) with
        | some next => decodeFrom next 0 1 36 rest
        | none => none
      else decodeFrom decoded (distance + d * weight) (weight * (36 - least)) (k + 36) rest

/-- The ASCII characters in front of the last hyphen, and what follows it. A hyphen at the front
marks nothing. -/
def splitBasic (code : List Char) : List Char × List Char :=
  let behind := (code.reverse.takeWhile (· != '-')).reverse
  let basic := code.take (code.length - behind.length - 1)
  if basic.isEmpty then ([], code) else (basic, behind)

/-- The label of Punycode in small letters. -/
def decode? (code : List Char) : Option (List Char) :=
  let (basic, digits) := splitBasic code
  decodeFrom ⟨basic, 128, 0, 72⟩ 0 1 36 digits

end Stencil.Url.Punycode
