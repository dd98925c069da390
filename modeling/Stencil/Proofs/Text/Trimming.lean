import Mathlib
import Stencil.Model
import Stencil.Proofs.Text.Runs
import Stencil.Text.Identifier
import Stencil.Text.Lines

/-!
# Trimmed texts

A text is trimmed when neither of its ends is blank. Trimming yields such a text and leaves such a
text alone; identifiers and the names of model types in source are trimmed.
-/

namespace Stencil.Text

/-- Whether no blank stands at an end of the text. -/
structure IsTrimmed (text : List Char) : Prop where
  head : ∀ c, text.head? = some c → isBlank c = false
  last : ∀ c, text.getLast? = some c → isBlank c = false

theorem isTrimmed_trim (text : List Char) : IsTrimmed (trim text) where
  head c hc := by
    -- What is left after the blanks at the end starts like what was there before.
    have hprefix : trim text <+: text.dropWhile isBlank := by
      have := List.reverse_prefix.mpr
        (List.dropWhile_suffix (l := (text.dropWhile isBlank).reverse) isBlank)
      rwa [List.reverse_reverse] at this
    obtain ⟨rest, hrest⟩ := hprefix
    have hhead : (text.dropWhile isBlank).head? = some c := by
      rw [← hrest, List.head?_append, hc]
      rfl
    exact head?_dropWhile hhead
  last c hc := by
    rw [trim, List.getLast?_reverse] at hc
    exact head?_dropWhile hc

/-- Trimming takes blanks off both ends. -/
theorem exists_trim (text : List Char) :
    ∃ before after, text = before ++ trim text ++ after ∧ (∀ c ∈ before, isBlank c = true)
      ∧ ∀ c ∈ after, isBlank c = true := by
  have hsplit := List.takeWhile_append_dropWhile (p := isBlank)
    (l := (text.dropWhile isBlank).reverse)
  refine ⟨text.takeWhile isBlank, ((text.dropWhile isBlank).reverse.takeWhile isBlank).reverse, ?_,
    fun c hc => List.mem_takeWhile_imp hc,
    fun c hc => List.mem_takeWhile_imp (List.mem_reverse.mp hc)⟩
  rw [trim, List.append_assoc, ← List.reverse_append, hsplit, List.reverse_reverse,
    List.takeWhile_append_dropWhile]

theorem dropWhile_isBlank_eq_self {text : List Char}
    (h : ∀ c, text.head? = some c → isBlank c = false) : text.dropWhile isBlank = text := by
  cases text with
  | nil => rfl
  | cons c rest => rw [List.dropWhile_cons, h c rfl, if_neg Bool.false_ne_true]

theorem trim_eq_self {text : List Char} (h : IsTrimmed text) : trim text = text := by
  have hreverse : text.reverse.dropWhile isBlank = text.reverse :=
    dropWhile_isBlank_eq_self fun c hc => h.last c (by rwa [List.head?_reverse] at hc)
  rw [trim, dropWhile_isBlank_eq_self h.head, hreverse, List.reverse_reverse]

theorem trim_cons_of_isBlank {c : Char} (h : isBlank c = true) (text : List Char) :
    trim (c :: text) = trim text := by
  rw [trim, List.dropWhile_cons, if_pos h, trim]

theorem trim_concat_of_isBlank {c : Char} (h : isBlank c = true) (text : List Char) :
    trim (text ++ [c]) = trim text := by
  by_cases hblank : text.dropWhile isBlank = []
  · simp [trim, List.dropWhile_append, hblank, h]
  · simp [trim, List.dropWhile_append, hblank, h]

/-- Blanks at the front do not count. -/
theorem trim_append_of_isBlank {blanks : List Char} (h : ∀ c ∈ blanks, isBlank c = true)
    (text : List Char) : trim (blanks ++ text) = trim text := by
  induction blanks with
  | nil => rfl
  | cons c blanks ih =>
    rw [List.cons_append, trim_cons_of_isBlank (h c List.mem_cons_self),
      ih fun c hc => h c (List.mem_cons_of_mem _ hc)]

/-- The carriage return of a line break does not count. -/
theorem trim_dropReturn (line : List Char) : trim (dropReturn line) = trim line := by
  rw [dropReturn]
  split
  · next hlast =>
    obtain ⟨front, rfl⟩ := List.getLast?_eq_some_iff.mp hlast
    rw [List.dropLast_concat, trim_concat_of_isBlank (by decide)]
  · rfl

theorem isTrimmed_of_ends {c d : Char} {text middle : List Char} (hc : isBlank c = false)
    (hd : isBlank d = false) (htext : text = c :: middle ++ [d]) : IsTrimmed text where
  head e he := by
    rw [htext, List.cons_append, List.head?_cons] at he
    rwa [← Option.some.inj he]
  last e he := by
    rw [htext, List.getLast?_concat] at he
    rwa [← Option.some.inj he]

/-- What stands between trimmed texts is not at an end. -/
theorem IsTrimmed.append {front back : List Char} (hfront : IsTrimmed front) (hfront' : front ≠ [])
    (hback : IsTrimmed back) (hback' : back ≠ []) (middle : List Char) :
    IsTrimmed (front ++ (middle ++ back)) where
  head c hc := by
    obtain ⟨first, more, rfl⟩ := List.exists_cons_of_ne_nil hfront'
    exact hfront.head c hc
  last c hc := by
    rw [List.getLast?_append_of_ne_nil _ (by simp [hback']),
      List.getLast?_append_of_ne_nil _ hback'] at hc
    exact hback.last c hc

/-- Trimming leaves nothing exactly of a text of blanks. -/
theorem trim_eq_nil_iff {text : List Char} : trim text = [] ↔ ∀ c ∈ text, isBlank c = true := by
  rw [trim, List.reverse_eq_nil_iff, List.dropWhile_eq_nil_iff]
  simp only [List.mem_reverse]
  constructor
  · intro h
    -- What is left at the front starts with a character that is not blank, if there is one.
    have hnil : text.dropWhile isBlank = [] := by
      cases hrest : text.dropWhile isBlank with
      | nil => rfl
      | cons c rest =>
        have hhead : (text.dropWhile isBlank).head? = some c := by rw [hrest]; rfl
        have hblank := h c (List.mem_of_head? hhead)
        rw [head?_dropWhile hhead] at hblank
        exact absurd hblank Bool.false_ne_true
    exact List.dropWhile_eq_nil_iff.mp hnil
  · intro h c hc
    exact h c ((List.dropWhile_suffix isBlank).subset hc)

theorem ne_nil_of_trim_ne_nil {text : List Char} (h : trim text ≠ []) : text ≠ [] := by
  rintro rfl
  exact h rfl

/-- Whether a text is blank depends only on which characters it has. -/
theorem trim_ne_nil_congr {text text' : List Char} (h : ∀ c, c ∈ text ↔ c ∈ text') :
    trim text ≠ [] ↔ trim text' ≠ [] := by
  rw [Ne, Ne, trim_eq_nil_iff, trim_eq_nil_iff]
  simp only [h]

/-! ## Identifiers -/

theorem toNat_lt_of_isAlphanum {c : Char} (h : c.isAlphanum = true) : c.toNat < 128 := by
  simp only [Char.isAlphanum, Char.isAlpha, Char.isUpper, Char.isLower, Char.isDigit,
    Bool.or_eq_true, Bool.and_eq_true, decide_eq_true_eq, UInt32.le_iff_toNat_le] at h
  have hval : c.val.toNat = c.toNat := rfl
  rw [hval] at h
  simp at h
  omega

theorem toNat_lt_of_isDigit {c : Char} (h : c.isDigit = true) : c.toNat < 128 :=
  toNat_lt_of_isAlphanum (by rw [Char.isAlphanum, h, Bool.or_true])

/-- A digit may stand in an identifier, but not at its start. -/
theorem identifier_of_isDigit {c : Char} (h : c.isDigit = true) :
    continuesIdentifier c = true ∧ startsIdentifier c = false := by
  have hascii := toNat_lt_of_isDigit h
  have halpha : c.isAlpha = false := by
    grind [Char.isDigit, Char.isAlpha, Char.isUpper, Char.isLower]
  have hunderscore : c ≠ '_' := by
    rintro rfl
    exact absurd h (by decide)
  rw [continuesIdentifier, startsIdentifier, isNumeric_of_ascii hascii, isLetter_of_ascii hascii, h,
    halpha]
  simpa using hunderscore

/-- No blank character may stand in an identifier. -/
theorem isBlank_of_continuesIdentifier {c : Char} (h : continuesIdentifier c = true) :
    isBlank c = false := by
  -- There are few blanks, so each of them is looked up in the tables of letters and of numerics.
  have hblanks : ∀ range ∈ blankRanges, ∀ n < range.2 + 1 - range.1,
      continuesIdentifier (Char.ofNat (range.1 + n)) = false := by
    decide +kernel
  rw [isBlank, Ranges.contains, List.any_eq_false]
  intro range hrange hc
  rw [Bool.and_eq_true, decide_eq_true_eq, decide_eq_true_eq] at hc
  have hnot := hblanks range hrange (c.toNat - range.1) (by omega)
  rw [Nat.add_sub_cancel' hc.1, Char.ofNat_toNat, h] at hnot
  exact Bool.false_ne_true hnot.symm

theorem continuesIdentifier_of_isIdentifier {text : List Char} (h : isIdentifier text = true) :
    ∀ c ∈ text, continuesIdentifier c = true := by
  cases text with
  | nil => exact fun c hc => nomatch hc
  | cons first rest =>
    rw [isIdentifier, Bool.and_eq_true, List.all_eq_true] at h
    intro c hc
    rcases List.mem_cons.mp hc with rfl | hc
    · exact continuesIdentifier_of_starts h.1
    · exact h.2 c hc

theorem isTrimmed_of_isIdentifier {text : List Char} (h : isIdentifier text = true) :
    IsTrimmed text where
  head c hc := isBlank_of_continuesIdentifier
    (continuesIdentifier_of_isIdentifier h c (List.mem_of_head? hc))
  last c hc := isBlank_of_continuesIdentifier
    (continuesIdentifier_of_isIdentifier h c (List.mem_of_getLast? hc))

theorem ne_nil_of_isIdentifier {text : List Char} (h : isIdentifier text = true) : text ≠ [] := by
  rintro rfl
  exact Bool.false_ne_true h

end Stencil.Text

namespace Stencil.ModelType

open Text

/-! ## Names of model types -/

theorem dotted_eq_nil_iff {name : List Char} : dotted name = [] ↔ name = [] := by
  fun_induction dotted name <;> simp

theorem head?_dotted {name : List Char} {c : Char} (h : (dotted name).head? = some c) :
    c = '.' ∨ name.head? = some c := by
  fun_induction dotted name with
  | case1 => exact Or.inr h
  | case2 rest _ => exact Or.inl (Option.some.inj h).symm
  | case3 first rest _ _ =>
    rw [List.head?_cons, Option.some.injEq] at h
    by_cases hplus : first = '+'
    · exact Or.inl (by rw [← h, if_pos hplus])
    · exact Or.inr (by rw [← h, if_neg hplus, List.head?_cons])

theorem getLast?_dotted {name : List Char} {c : Char} (h : (dotted name).getLast? = some c) :
    c = '.' ∨ name.getLast? = some c := by
  fun_induction dotted name with
  | case1 => exact Or.inr h
  | case2 rest ih =>
    rw [List.getLast?_cons] at h
    cases hlast : (dotted rest).getLast? with
    | none =>
      rw [hlast] at h
      exact Or.inl (Option.some.inj h).symm
    | some d =>
      rw [hlast] at h
      refine (ih (hlast.trans h)).imp_right fun hrest => ?_
      rw [List.getLast?_cons, List.getLast?_cons, hrest]
      rfl
  | case3 first rest _ ih =>
    rw [List.getLast?_cons] at h
    cases hlast : (dotted rest).getLast? with
    | none =>
      have hrest : rest = [] := dotted_eq_nil_iff.mp (List.getLast?_eq_none_iff.mp hlast)
      rw [hlast, Option.getD_none, Option.some.injEq] at h
      rw [hrest, List.getLast?_singleton]
      by_cases hplus : first = '+'
      · exact Or.inl (by rw [← h, if_pos hplus])
      · exact Or.inr (by rw [← h, if_neg hplus])
    | some d =>
      rw [hlast] at h
      refine (ih (hlast.trans h)).imp_right fun hrest => ?_
      rw [List.getLast?_cons, hrest]
      rfl

theorem isTrimmed_dotted {name : List Char} (h : IsTrimmed name) : IsTrimmed (dotted name) where
  head c hc := by
    rcases head?_dotted hc with rfl | hc
    · decide
    · exact h.head c hc
  last c hc := by
    rcases getLast?_dotted hc with rfl | hc
    · decide
    · exact h.last c hc

/-- The name of a model type in source is trimmed. -/
theorem isTrimmed_sourceName {model : ModelType} {name : String} (h : model.sourceName = .ok name) :
    IsTrimmed name.toList := by
  rw [sourceName] at h
  split at h
  · cases h
  · split at h
    · cases h
    · rw [← Except.ok.inj h, String.toList_ofList]
      exact isTrimmed_dotted (isTrimmed_trim _)

end Stencil.ModelType
