import Stencil.Markup.Piece
import Stencil.Text.Lines

/-!
# Scanning a template

An at sign is live unless an ASCII letter or digit stands right before it, as in an address. Every
live sign opens a construct; all other characters stand for themselves. The scan ends at the first
construct that is malformed and tells the place of its sign.
-/

namespace Stencil.Markup

/-- Whether a character opens a construct after the given one. -/
def isLive (before : Option Char) (c : Char) : Bool :=
  c == '@' && !before.any Char.isAlphanum

/-- The problem of a malformed construct, and the text from its sign on. -/
structure Failure where
  /-- What is wrong. -/
  problem : Problem
  /-- The text from the sign on. -/
  rest : List Char
deriving DecidableEq

/-- The pieces of a text. `injected` are the dependencies that were declared before it, and
`before` is the character right before it. -/
def scan (injected : List (List Char)) (before : Option Char) :
    List Char → Except Failure (List Piece)
  | [] => .ok []
  | c :: rest =>
    if isLive before c then
      match _h : readConstruct injected rest with
      | .error problem => .error ⟨problem, c :: rest⟩
      | .ok reading =>
        match scan (reading.piece.injection ++ injected) (some reading.last) reading.rest with
        | .ok pieces => .ok (reading.piece :: pieces)
        | .error failure => .error failure
    else
      match scan injected (some c) rest with
      | .ok pieces => .ok (.char c :: pieces)
      | .error failure => .error failure
termination_by text => text.length
decreasing_by
  · have := length_of_readConstruct ‹_›
    simp only [List.length_cons]
    omega
  · simp

/-- The pieces of a whole template. -/
def pieces (text : List Char) : Except Failure (List Piece) :=
  scan [] none text

/-- The place of the sign at which a scan of the text failed. -/
def Failure.place (failure : Failure) (text : List Char) : Text.Position :=
  Text.Position.after (text.take (text.length - failure.rest.length))

end Stencil.Markup
