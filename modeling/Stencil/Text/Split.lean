/-!
# Splitting

A text is split at separators into the parts between them; there is one part more than there are
separators.
-/

namespace Stencil.Text

/-- The parts of a text between the characters of a kind. -/
def splitWhere (separates : Char → Bool) : List Char → List (List Char)
  | [] => [[]]
  | c :: rest =>
    if separates c then [] :: splitWhere separates rest
    else
      match splitWhere separates rest with
      | first :: more => (c :: first) :: more
      | [] => [[c]]

/-- There is always a part. -/
theorem splitWhere_ne_nil (separates : Char → Bool) (text : List Char) :
    splitWhere separates text ≠ [] := by
  induction text with
  | nil => simp [splitWhere]
  | cons c rest ih =>
    simp only [splitWhere]
    split
    · simp
    · split <;> simp

end Stencil.Text
