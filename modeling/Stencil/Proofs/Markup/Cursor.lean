import Mathlib
import Stencil.Proofs.Markup.Concatenation
import Stencil.Proofs.Text.Slices

/-!
# Scanning by places

A scan that keeps the whole text and places in it, counted in bytes, where `scan` keeps what is left
of the text. Here a scan can go wrong in ways that `scan` cannot: a slice may leave the text or cut
a character, a group may be closed that was never opened, and a round of a loop may stay where it
is. Each of these is a `Fault`, and whatever meets one stops with it.
-/

namespace Stencil.Markup

open Expression (byteSize)
open Text

namespace Cursor

/-! ## Faults -/

/-- What would make a scan crash or keep it from ending. -/
inductive Fault where
  /-- A slice that leaves the text, cuts a character or ends before it starts. -/
  | slice (start stop : Nat)
  /-- A group that is closed while none is open. -/
  | depth
  /-- A round of a loop that gets no further in the text. -/
  | stalled (place : Nat)
deriving DecidableEq

/-- Why a scan stops before the end of the text. -/
inductive Halt where
  /-- It cannot go on. -/
  | fault (fault : Fault)
  /-- A construct is malformed. -/
  | problem (problem : Problem) (place : Position)
deriving DecidableEq

/-- Rounds of a loop, until one has nothing left to do. The places that the rounds reach must go up,
within the given limit. -/
def rounds (place : σ → Nat) (limit : Nat) (round : σ → Except Halt (Option σ)) (s : σ) :
    Except Halt σ :=
  match round s with
  | .error halt => .error halt
  | .ok none => .ok s
  | .ok (some next) =>
    if _h : place s < place next ∧ place next ≤ limit then rounds place limit round next
    else .error (.fault (.stalled (place s)))
termination_by limit - place s

/-! ## Readers -/

/-- How many bytes stand before the first place at which a text starts as it should. -/
def offset? (starts : List Char → Bool) : List Char → Option Nat
  | [] => none
  | c :: rest =>
    if starts (c :: rest) then some 0 else (offset? starts rest).map (c.utf8Size + ·)

/-- The place of the bracket that closes as many groups as are open, if it is in the text, which
starts at the given place. -/
def closing? (opening closing : Char) (place depth : Nat) (quoting : Quoting) :
    List Char → Except Halt (Option Nat)
  | [] => .ok none
  | c :: rest =>
    if quoting ≠ .outside ∨ c = '"' then
      closing? opening closing (place + c.utf8Size) depth (quoting.next c) rest
    else if c = opening then
      closing? opening closing (place + c.utf8Size) (depth + 1) .outside rest
    else if c = closing then
      match depth with
      | 0 => .error (.fault .depth)
      | 1 => .ok (some place)
      | depth + 2 => closing? opening closing (place + c.utf8Size) (depth + 1) .outside rest
    else closing? opening closing (place + c.utf8Size) depth .outside rest

section

variable (text : String)

/-- The characters between two places. -/
def slice (start stop : Nat) : Except Halt (List Char) :=
  match slice? text start stop with
  | some chars => .ok chars
  | none => .error (.fault (.slice start stop))

/-- The characters from a place on. -/
def charsFrom (place : Nat) : Except Halt (List Char) :=
  slice text place text.utf8ByteSize

/-- Stops because of a problem, at the place of the sign. -/
def report (sign : Nat) (problem : Problem) : Except Halt α := do
  let before ← slice text 0 sign
  .error (.problem problem (Position.after before))

/-- The first character at a place. -/
def peek (place : Nat) : Except Halt (Option Char) := do
  return (← charsFrom text place).head?

/-- The second character at a place. -/
def peekSecond (place : Nat) : Except Halt (Option Char) := do
  return (← charsFrom text place)[1]?

/-- Reads the characters of a name; tells them and the place behind them. -/
def readName (place : Nat) : Except Halt (List Char × Nat) := do
  let rest ← charsFrom text place
  let length := (offset? (fun rest => rest.head?.any (!continuesIdentifier ·)) rest).getD
    (byteSize rest)
  return (← slice text place (place + length), place + length)

/-- The place of the bracket that closes the group which the bracket at a place opens. -/
def findClosing (place : Nat) (opening closing : Char) : Except Halt (Option Nat) := do
  closing? opening closing place 0 .outside (← charsFrom text place)

/-- Reads a comment whose asterisk stands at the given place. -/
def readComment (sign place : Nat) : Except Halt (Piece × Nat) := do
  match offset? (['*', '@'].isPrefixOf ·) (← charsFrom text (place + 1)) with
  | some length => return (.comment, place + 1 + length + 2)
  | none => report text sign .openComment

/-- Reads an expression whose opening parenthesis stands at the given place. -/
def readExplicit (sign place : Nat) : Except Halt (Piece × Nat) := do
  match ← findClosing text place '(' ')' with
  | none => report text sign .openExpression
  | some close =>
    let code ← slice text (place + 1) close
    if (trim code).isEmpty then report text sign .emptyExpression
    else return (.expression (trim code), close + 1)

/-- Reads the rest of a line that declares a dependency. -/
def readInjection (injected : List (List Char)) (sign place : Nat) :
    Except Halt (Piece × Nat) := do
  let lineEnd := (offset? (·.head? == some '\n') (← charsFrom text place)).elim text.utf8ByteSize
    (place + ·)
  let name := trim (← slice text place lineEnd)
  if !isIdentifier name then report text sign .badInjection
  else if injected.contains name then report text sign (.repeatedInjection name)
  else return (.inject name, min (lineEnd + 1) text.utf8ByteSize)

/-- Reads one step of an expression as it stands, if there is one at the given place. -/
def step (sign place : Nat) : Except Halt (Option Nat) := do
  match ← peek text place with
  | some '.' =>
    if (← peekSecond text place).any startsIdentifier then
      return some (← readName text (place + 1)).2
    else return none
  | some '[' =>
    match ← findClosing text place '[' ']' with
    | some close => return some (close + 1)
    | none => report text sign .openIndex
  | _ => return none

/-- Reads what starts with a name: the declaration of a dependency or an expression. -/
def readNamed (injected : List (List Char)) (sign place : Nat) : Except Halt (Piece × Nat) := do
  let (name, behind) ← readName text place
  if name = "inherits".toList then report text sign .inheritsConflict
  else
    let blank ← if name = "inject".toList then peek text behind else .ok none
    if blank = some ' ' ∨ blank = some '\t' then readInjection text injected sign behind
    else
      let behind ← rounds id text.utf8ByteSize (step text sign) behind
      return (.expression (← slice text place behind), behind)

/-- Reads the construct at a place, whose sign stands at the place before. -/
def readConstruct (injected : List (List Char)) (sign place : Nat) :
    Except Halt (Piece × Nat) := do
  match ← peek text place with
  | some '@' => return (.sign, place + 1)
  | some '*' => readComment text sign place
  | some '(' => readExplicit text sign place
  | some c =>
    if startsIdentifier c then readNamed text injected sign place
    else report text sign .bareSign
  | none => report text sign .bareSign

end

/-! ## The scan -/

/-- How far a scan has come. -/
structure State where
  /-- The place from which it goes on. -/
  place : Nat
  /-- The place from which the text is literal so far. -/
  literalStart : Nat
  /-- The dependencies that were declared. -/
  injected : List (List Char)
  /-- What the text says up to the literal. -/
  segments : List Segment

/-- Where a scan starts. -/
def State.start : State := ⟨0, 0, [], []⟩

/-- Segments with a literal text behind them. -/
def pushLiteral (segments : List Segment) (text : List Char) : List Segment :=
  Segment.join segments (Segment.prepend (String.ofList text) [])

/-- Goes on to behind the next sign, and behind its construct if the sign is live. -/
def round (text : String) (s : State) : Except Halt (Option State) := do
  match offset? (·.head? == some '@') (← charsFrom text s.place) with
  | none => return none
  | some offset =>
    let sign := s.place + offset
    if (← slice text 0 sign).getLast?.any Char.isAlphanum then
      return some { s with place := sign + 1 }
    else
      let literal ← slice text s.literalStart sign
      let (piece, behind) ← readConstruct text s.injected sign (sign + 1)
      return some
        { place := behind
          literalStart := behind
          injected := piece.injection ++ s.injected
          segments := Segment.join (pushLiteral s.segments literal) piece.segments }

/-- The segments of a text whose last round ended in the given state. -/
def finish (text : String) (s : State) : Except Halt (List Segment) := do
  return pushLiteral s.segments (← charsFrom text s.literalStart)

/-- The segments of a text. -/
def run (text : String) : Except Halt (List Segment) := do
  finish text (← rounds State.place text.utf8ByteSize (round text) .start)

end Cursor

end Stencil.Markup
