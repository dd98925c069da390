/-!
# Lines and positions

A text is cut into lines at line feeds. A carriage return right before the line feed belongs to
the line break. A line feed at the very end opens no further line, so an empty text has no lines.
-/

namespace Stencil.Text

/-- A line that ended with a line feed, without the carriage return that may stand before it. -/
def dropReturn (line : List Char) : List Char :=
  if line.getLast? = some '\r' then line.dropLast else line

/-- The lines of a text; `open` holds the characters already read of the current line. -/
def linesFrom (started : List Char) : List Char → List (List Char)
  | [] => if started.isEmpty then [] else [started]
  | c :: rest =>
    if c = '\n' then dropReturn started :: linesFrom [] rest
    else linesFrom (started ++ [c]) rest

/-- The lines of a text. -/
def lines (text : List Char) : List (List Char) :=
  linesFrom [] text

/-- A place in a text: the line and the column, both counted from one. -/
structure Position where
  /-- One more than the number of line feeds before the place. -/
  line : Nat
  /-- One more than the number of characters since the last line feed. -/
  column : Nat
deriving DecidableEq, Repr

/-- The place right after the given text. -/
def Position.after (text : List Char) : Position where
  line := text.count '\n' + 1
  column := (text.reverse.takeWhile (· != '\n')).length + 1

end Stencil.Text
