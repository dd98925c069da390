import Stencil.Text.Letter
import Stencil.Text.Numeric

/-!
# Identifiers

An identifier starts with a letter or an underscore and goes on with letters, numeric characters
and underscores. Names of dependencies, members and renderers are identifiers.
-/

namespace Stencil.Text

/-- The characters that may start an identifier. -/
def startsIdentifier (c : Char) : Bool :=
  isLetter c || c == '_'

/-- The characters that may continue an identifier. -/
def continuesIdentifier (c : Char) : Bool :=
  isLetter c || isNumeric c || c == '_'

/-- Whether the text is one identifier. -/
def isIdentifier : List Char → Bool
  | [] => false
  | c :: rest => startsIdentifier c && rest.all continuesIdentifier

/-- A character that starts an identifier may also continue one. -/
theorem continuesIdentifier_of_starts {c : Char} (h : startsIdentifier c = true) :
    continuesIdentifier c = true := by
  simp only [startsIdentifier, Bool.or_eq_true] at h
  rcases h with h | h <;> simp [continuesIdentifier, h]

end Stencil.Text
