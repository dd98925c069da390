import Stencil.Markup.Group

/-!
# Folding lines

An expression takes one line of renderer source. Its line breaks become blanks outside string
literals and escapes inside them; a character after a backslash is kept as it is.
-/

namespace Stencil.Source

open Markup (Quoting)

/-- The characters of an expression on one line. -/
def fold (quoting : Quoting) : List Char → List Char
  | [] => []
  | '\r' :: '\n' :: rest =>
    match quoting with
    | .outside => ' ' :: fold .outside rest
    | .inside => '\\' :: 'r' :: '\\' :: 'n' :: fold .inside rest
    | .escaped => '\r' :: '\\' :: 'n' :: fold .inside rest
  | c :: rest =>
    match quoting with
    | .outside => (if c = '\r' ∨ c = '\n' then ' ' else c) :: fold (quoting.next c) rest
    | .inside =>
      if c = '\r' then '\\' :: 'r' :: fold .inside rest
      else if c = '\n' then '\\' :: 'n' :: fold .inside rest
      else c :: fold (quoting.next c) rest
    | .escaped => c :: fold .inside rest

/-- The expression on one line. -/
def foldLines (code : String) : String :=
  String.ofList (fold .outside code.toList)

end Stencil.Source
