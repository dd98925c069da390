import Mathlib
import Stencil.Proofs.Text.Trimming
import Stencil.Source.Folding

/-!
# Folding character by character

What folding makes of each character depends on where the character stands with respect to string
literals. The one line feed that it does not replace stands in a string right behind the backslash
that escapes it (`mem_fold_iff`), and the ends of a trimmed expression stay as they are.
-/

namespace Stencil

/-! ## Where a text leads -/

namespace Markup.Quoting

/-- Where the end of a text stands with respect to string literals. -/
def after (quoting : Quoting) (text : List Char) : Quoting :=
  text.foldl next quoting

@[simp] theorem after_nil (quoting : Quoting) : quoting.after [] = quoting := rfl

@[simp] theorem after_cons (quoting : Quoting) (c : Char) (text : List Char) :
    quoting.after (c :: text) = (quoting.next c).after text := rfl

theorem after_append (quoting : Quoting) (front rest : List Char) :
    quoting.after (front ++ rest) = (quoting.after front).after rest :=
  List.foldl_append

theorem getLast?_of_after_eq_escaped {text : List Char} (h : outside.after text = .escaped) :
    text.getLast? = some '\\' := by
  cases text using List.reverseRecOn with
  | nil => cases h
  | append_singleton text c _ =>
    rw [after_append, after_cons, after_nil] at h
    rw [List.getLast?_concat]
    cases hstate : outside.after text with
    | outside =>
      rw [hstate, next] at h
      split at h <;> cases h
    | inside =>
      rw [hstate, next] at h
      split at h
      · next hc => rw [hc]
      · split at h <;> cases h
    | escaped =>
      rw [hstate] at h
      cases h

theorem next_outside {c : Char} (h : c ≠ '"') : Quoting.outside.next c = .outside :=
  if_neg h

end Markup.Quoting

namespace Source

open Markup (Quoting)
open Text

/-! ## One character at a time -/

section

attribute [local simp] fold

theorem fold_escaped_cons (c : Char) (rest : List Char) :
    fold .escaped (c :: rest) = c :: fold .inside rest := by
  cases rest with
  | nil => simp
  | cons d rest =>
    by_cases hbreak : c = '\r' ∧ d = '\n'
    · rw [hbreak.1, hbreak.2]
      simp
    · simp_all

theorem fold_inside_cons (c : Char) (rest : List Char) :
    fold .inside (c :: rest)
      = if c = '\r' then '\\' :: 'r' :: fold .inside rest
        else if c = '\n' then '\\' :: 'n' :: fold .inside rest
        else c :: fold (Quoting.inside.next c) rest := by
  cases rest with
  | nil => simp
  | cons d rest =>
    by_cases hbreak : c = '\r' ∧ d = '\n'
    · rw [hbreak.1, hbreak.2]
      simp
    · simp_all

theorem fold_outside_cons {c : Char} (rest : List Char) (hreturn : c ≠ '\r') :
    fold .outside (c :: rest)
      = (if c = '\n' then ' ' else c) :: fold (Quoting.outside.next c) rest := by
  rw [fold]
  · simp [hreturn]
  · intros
    simp_all

/-- Outside of strings a carriage return becomes a blank, unless a line feed follows it. -/
theorem fold_outside_return (rest : List Char) :
    fold .outside ('\r' :: rest)
      = if rest.head? = some '\n' then fold .outside rest else ' ' :: fold .outside rest := by
  cases rest with
  | nil => simp
  | cons d rest =>
    by_cases hbreak : d = '\n'
    · subst hbreak
      simp [Quoting.next]
    · simp_all [Quoting.next]

theorem fold_outside_keep {c : Char} (rest : List Char) (hreturn : c ≠ '\r') (hfeed : c ≠ '\n')
    (hquote : c ≠ '"') : fold .outside (c :: rest) = c :: fold .outside rest := by
  rw [fold_outside_cons rest hreturn, if_neg hfeed, Quoting.next_outside hquote]

end

/-! ## Line feeds that stay -/

/-- Whether a line feed of a text stands in a string right behind the backslash that escapes it. -/
def EscapesFeed (quoting : Quoting) (text : List Char) : Prop :=
  ∃ before rest, text = before ++ '\n' :: rest ∧ quoting.after before = .escaped

theorem escapesFeed_cons {quoting : Quoting} {c : Char} {text : List Char} :
    EscapesFeed quoting (c :: text)
      ↔ c = '\n' ∧ quoting = .escaped ∨ EscapesFeed (quoting.next c) text := by
  constructor
  · rintro ⟨before, rest, heq, hafter⟩
    rcases List.cons_eq_append_iff.mp heq with ⟨rfl, hrest⟩ | ⟨before, rfl, htext⟩
    · exact Or.inl ⟨(List.cons.inj hrest).1.symm, hafter⟩
    · exact Or.inr ⟨before, rest, htext, hafter⟩
  · rintro (⟨rfl, rfl⟩ | ⟨before, rest, rfl, hafter⟩)
    · exact ⟨[], text, rfl, rfl⟩
    · exact ⟨c :: before, rest, rfl, hafter⟩

/-- A line feed is in the folded text exactly when a string of the text escapes one. -/
theorem mem_fold_iff {quoting : Quoting} {text : List Char} :
    '\n' ∈ fold quoting text ↔ EscapesFeed quoting text := by
  induction text generalizing quoting with
  | nil => simp [fold, EscapesFeed]
  | cons c text ih =>
    rw [escapesFeed_cons]
    cases quoting with
    | outside =>
      by_cases hreturn : c = '\r'
      · subst hreturn
        rw [fold_outside_return]
        split <;> simp [ih, Quoting.next]
      · rw [fold_outside_cons text hreturn, List.mem_cons, ih]
        by_cases hfeed : c = '\n' <;> simp [hfeed, eq_comm]
    | inside =>
      rw [fold_inside_cons]
      by_cases hreturn : c = '\r'
      · simp [hreturn, ih, Quoting.next]
      · by_cases hfeed : c = '\n'
        · simp [hfeed, ih, Quoting.next]
        · simp [hreturn, hfeed, Ne.symm hfeed, ih]
    | escaped =>
      rw [fold_escaped_cons, List.mem_cons, ih, eq_comm]
      simp [Quoting.next]

/-- A character that comes out and is no line feed is the first one before the line feed. -/
theorem exists_of_cons_eq_append {c : Char} {out before rest : List Char} (hc : c ≠ '\n')
    (h : c :: out = before ++ '\n' :: rest) :
    ∃ before', before = c :: before' ∧ out = before' ++ '\n' :: rest := by
  rcases List.cons_eq_append_iff.mp h with ⟨-, hrest⟩ | hmore
  · exact absurd (List.cons.inj hrest).1.symm hc
  · exact hmore

/-- The first line feed that comes out stands behind a backslash in a string of what comes out. -/
theorem after_eq_escaped {quoting : Quoting} {text before rest : List Char}
    (h : fold quoting text = before ++ '\n' :: rest) (hfirst : '\n' ∉ before) :
    quoting.after before = .escaped := by
  induction text generalizing quoting before with
  | nil => simp [fold] at h
  | cons c text ih =>
    cases quoting with
    | outside =>
      by_cases hreturn : c = '\r'
      · subst hreturn
        rw [fold_outside_return] at h
        split at h
        · exact ih h hfirst
        · obtain ⟨before, rfl, hout⟩ := exists_of_cons_eq_append (by decide) h
          exact (Quoting.after_cons ..).trans (ih hout fun hmem => hfirst (by simp [hmem]))
      · rw [fold_outside_cons text hreturn] at h
        by_cases hfeed : c = '\n'
        · rw [if_pos hfeed] at h
          obtain ⟨before, rfl, hout⟩ := exists_of_cons_eq_append (by decide) h
          rw [hfeed, Quoting.next_outside (by decide)] at hout
          exact (Quoting.after_cons ..).trans (ih hout fun hmem => hfirst (by simp [hmem]))
        · rw [if_neg hfeed] at h
          obtain ⟨before, rfl, hout⟩ := exists_of_cons_eq_append hfeed h
          exact (Quoting.after_cons ..).trans (ih hout fun hmem => hfirst (by simp [hmem]))
    | inside =>
      -- A break is folded to the two characters of its escape.
      rw [fold_inside_cons] at h
      split at h
      · obtain ⟨_, rfl, hmore⟩ := exists_of_cons_eq_append (by decide) h
        obtain ⟨before, rfl, hout⟩ := exists_of_cons_eq_append (by decide) hmore
        rw [Quoting.after_cons, Quoting.after_cons]
        exact ih hout fun hmem => hfirst (by simp [hmem])
      · split at h
        · obtain ⟨_, rfl, hmore⟩ := exists_of_cons_eq_append (by decide) h
          obtain ⟨before, rfl, hout⟩ := exists_of_cons_eq_append (by decide) hmore
          rw [Quoting.after_cons, Quoting.after_cons]
          exact ih hout fun hmem => hfirst (by simp [hmem])
        · next hfeed =>
          obtain ⟨before, rfl, hout⟩ := exists_of_cons_eq_append hfeed h
          exact (Quoting.after_cons ..).trans (ih hout fun hmem => hfirst (by simp [hmem]))
    | escaped =>
      rw [fold_escaped_cons] at h
      rcases List.cons_eq_append_iff.mp h with ⟨rfl, -⟩ | ⟨before, rfl, hout⟩
      · rfl
      · exact (Quoting.after_cons ..).trans (ih hout fun hmem => hfirst (by simp [hmem]))

/-! ## The ends -/

theorem fold_ne_nil {quoting : Quoting} {text : List Char} (h : text ≠ []) :
    fold quoting text ≠ [] := by
  fun_cases fold quoting text <;> simp_all

theorem fold_concat (quoting : Quoting) (text : List Char) {c : Char} (hreturn : c ≠ '\r')
    (hfeed : c ≠ '\n') : fold quoting (text ++ [c]) = fold quoting text ++ [c] := by
  induction text generalizing quoting with
  | nil => cases quoting <;> simp [fold, hreturn, hfeed]
  | cons d text ih =>
    rw [List.cons_append]
    cases quoting with
    | outside =>
      by_cases hd : d = '\r'
      · subst hd
        have hhead : (text ++ [c]).head? = some '\n' ↔ text.head? = some '\n' := by
          cases text <;> simp [hfeed]
        rw [fold_outside_return, fold_outside_return, ih, if_congr hhead rfl rfl]
        split <;> rfl
      · rw [fold_outside_cons _ hd, fold_outside_cons _ hd, ih, List.cons_append]
    | inside =>
      rw [fold_inside_cons, fold_inside_cons, ih, ih]
      split
      · rfl
      · split <;> rfl
    | escaped => rw [fold_escaped_cons, fold_escaped_cons, ih, List.cons_append]

theorem ne_break_of_isBlank {c : Char} (h : isBlank c = false) : c ≠ '\r' ∧ c ≠ '\n' := by
  constructor <;> rintro rfl <;> exact absurd h (by decide)

/-- A trimmed expression stays trimmed. -/
theorem isTrimmed_fold {code : List Char} (h : IsTrimmed code) :
    IsTrimmed (fold .outside code) where
  head c hc := by
    cases code with
    | nil => cases hc
    | cons d code =>
      obtain ⟨hreturn, hfeed⟩ := ne_break_of_isBlank (h.head d rfl)
      rw [fold_outside_cons code hreturn, if_neg hfeed, List.head?_cons] at hc
      rw [← Option.some.inj hc]
      exact h.head d rfl
  last c hc := by
    cases code using List.reverseRecOn with
    | nil => simp [fold] at hc
    | append_singleton code d _ =>
      obtain ⟨hreturn, hfeed⟩ := ne_break_of_isBlank (h.last d List.getLast?_concat)
      rw [fold_concat _ _ hreturn hfeed, List.getLast?_concat] at hc
      rw [← Option.some.inj hc]
      exact h.last d List.getLast?_concat

end Source

end Stencil
