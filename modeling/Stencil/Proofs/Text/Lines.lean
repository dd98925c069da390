import Mathlib
import Stencil.Proofs.Text.Runs
import Stencil.Text.Lines

/-!
# Texts put together from lines

The lines of a text that is put together from rows of characters, each ended by a line feed, are the
lines of the rows. A row without a line feed is one line. The place behind a text is told by its
line feeds and by the line that it leaves open.
-/

namespace Stencil.Text

/-- A line feed ends a line, whatever follows it. -/
theorem linesFrom_append (started text rest : List Char) :
    linesFrom started (text ++ '\n' :: rest)
      = linesFrom started (text ++ ['\n']) ++ linesFrom [] rest := by
  induction text generalizing started with
  | nil => rfl
  | cons c text ih =>
    rw [List.cons_append, List.cons_append, linesFrom, linesFrom]
    by_cases hc : c = '\n'
    · rw [if_pos hc, if_pos hc, ih, List.cons_append]
    · rw [if_neg hc, if_neg hc, ih]

theorem lines_append (text rest : List Char) :
    lines (text ++ '\n' :: rest) = lines (text ++ ['\n']) ++ lines rest :=
  linesFrom_append [] text rest

/-- The lines of ended rows are the lines of each row, one row after the other. -/
theorem lines_flatMap (rows : List (List Char)) :
    lines (rows.flatMap (· ++ ['\n'])) = rows.flatMap fun row => lines (row ++ ['\n']) := by
  induction rows with
  | nil => rfl
  | cons row rows ih =>
    rw [List.flatMap_cons, List.flatMap_cons, ← ih, List.append_assoc, List.singleton_append,
      lines_append]

theorem linesFrom_of_not_mem {line : List Char} (h : '\n' ∉ line) (started rest : List Char) :
    linesFrom started (line ++ '\n' :: rest) = dropReturn (started ++ line) :: lines rest := by
  induction line generalizing started with
  | nil => rw [List.nil_append, linesFrom, if_pos rfl, List.append_nil, lines]
  | cons c line ih =>
    rw [List.mem_cons, not_or] at h
    rw [List.cons_append, linesFrom, if_neg (Ne.symm h.1), ih h.2, List.append_assoc,
      List.singleton_append]

/-- What stands before the first line feed is the first line. -/
theorem lines_of_not_mem {line : List Char} (h : '\n' ∉ line) (rest : List Char) :
    lines (line ++ '\n' :: rest) = dropReturn line :: lines rest :=
  linesFrom_of_not_mem h [] rest

theorem not_mem_dropReturn {line : List Char} (h : '\n' ∉ line) : '\n' ∉ dropReturn line := by
  rw [dropReturn]
  split
  · exact fun hmem => h (List.mem_of_mem_dropLast hmem)
  · exact h

theorem not_mem_of_mem_linesFrom {started text line : List Char} (hstarted : '\n' ∉ started)
    (h : line ∈ linesFrom started text) : '\n' ∉ line := by
  induction text generalizing started with
  | nil =>
    rw [linesFrom] at h
    split at h
    · exact nomatch h
    · rwa [List.mem_singleton.mp h]
  | cons c text ih =>
    rw [linesFrom] at h
    split at h
    · rcases List.mem_cons.mp h with rfl | h
      · exact not_mem_dropReturn hstarted
      · exact ih List.not_mem_nil h
    · next hc =>
      refine ih ?_ h
      rw [List.mem_append, List.mem_singleton, not_or]
      exact ⟨hstarted, Ne.symm hc⟩

/-- No line holds a line feed. -/
theorem not_mem_of_mem_lines {text line : List Char} (h : line ∈ lines text) : '\n' ∉ line :=
  not_mem_of_mem_linesFrom List.not_mem_nil h

theorem linesFrom_eq_nil_iff {started text : List Char} :
    linesFrom started text = [] ↔ started = [] ∧ text = [] := by
  induction text generalizing started with
  | nil =>
    rw [linesFrom]
    split
    · next h => simpa using h
    · next h => simpa using h
  | cons c text ih =>
    rw [linesFrom]
    split
    · simp
    · rw [ih]
      simp

/-- Every text but the empty one has a line. -/
theorem lines_eq_nil_iff {text : List Char} : lines text = [] ↔ text = [] := by
  rw [lines, linesFrom_eq_nil_iff, and_iff_right rfl]

/-! ## Positions -/

/-- Whether a position is the one right behind a text: its line is one more than the number of line
feeds of the text, and its column one more than the number of characters behind the last of them. -/
structure Position.IsAfter (position : Position) (front : List Char) : Prop where
  line : position.line = 1 + front.count '\n'
  column : ∃ ended line, front = ended ++ line ∧ (ended = [] ∨ ended.getLast? = some '\n')
    ∧ '\n' ∉ line ∧ position.column = 1 + line.length

theorem Position.isAfter_after (front : List Char) : (Position.after front).IsAfter front where
  line := Nat.add_comm ..
  column := by
    have hsplit : front = (front.reverse.dropWhile (· != '\n')).reverse
        ++ (front.reverse.takeWhile (· != '\n')).reverse := by
      rw [← List.reverse_append, List.takeWhile_append_dropWhile, List.reverse_reverse]
    refine ⟨_, _, hsplit, ?_, fun hmem => ?_, ?_⟩
    · rw [List.getLast?_reverse, List.reverse_eq_nil_iff]
      cases hended : front.reverse.dropWhile (· != '\n') with
      | nil => exact Or.inl rfl
      | cons c ended =>
        have hfeed := head?_dropWhile (congrArg List.head? hended)
        exact Or.inr (by simpa using hfeed)
    · simpa using List.mem_takeWhile_imp (List.mem_reverse.mp hmem)
    · rw [List.length_reverse]
      exact Nat.add_comm ..

/-- Behind a text that ends with a line feed the lines are counted on and the columns anew. -/
theorem Position.after_append {front : List Char} (hfeed : front.getLast? = some '\n')
    (text : List Char) :
    Position.after (front ++ text)
      = ⟨(Position.after text).line + front.count '\n', (Position.after text).column⟩ := by
  obtain ⟨ended, rfl⟩ := List.getLast?_eq_some_iff.mp hfeed
  have hcolumn : (ended ++ ['\n'] ++ text).reverse.takeWhile (· != '\n')
      = text.reverse.takeWhile (· != '\n') := by
    rw [List.reverse_append, List.reverse_append, List.takeWhile_append]
    split
    · next hwhole =>
      -- The text leaves open the line that starts right behind the line feed.
      rw [(List.takeWhile_prefix _).eq_of_length hwhole]
      exact List.append_nil _
    · rfl
  have hline : (ended ++ ['\n'] ++ text).count '\n' + 1
      = text.count '\n' + 1 + (ended ++ ['\n']).count '\n' := by
    rw [List.count_append]
    omega
  rw [Position.after, hcolumn, hline]
  rfl

end Stencil.Text
