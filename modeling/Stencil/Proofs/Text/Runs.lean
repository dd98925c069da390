import Mathlib

/-!
# Runs of characters

The readers take runs from the front of a text: digits, the characters of a name, blanks. What is
left behind a run starts with a character of another kind, if with any; and a run that stands before
such a text is taken as it is.
-/

namespace Stencil.Text

variable {p : Char → Bool} {run text : List Char}

theorem head?_dropWhile {c : Char} (h : (text.dropWhile p).head? = some c) : p c = false := by
  have hnot := List.head?_dropWhile_not p text
  rw [h] at hnot
  simpa using hnot

theorem takeWhile_run (hrun : ∀ c ∈ run, p c = true)
    (hend : ∀ c, text.head? = some c → p c = false) : (run ++ text).takeWhile p = run := by
  rw [List.takeWhile_append_of_pos hrun]
  cases text with
  | nil => simp
  | cons c text => rw [List.takeWhile_cons, hend c rfl, if_neg Bool.false_ne_true, List.append_nil]

theorem dropWhile_run (hrun : ∀ c ∈ run, p c = true)
    (hend : ∀ c, text.head? = some c → p c = false) : (run ++ text).dropWhile p = text := by
  rw [List.dropWhile_append_of_pos hrun]
  cases text with
  | nil => simp
  | cons c text => rw [List.dropWhile_cons, hend c rfl, if_neg Bool.false_ne_true]

end Stencil.Text
