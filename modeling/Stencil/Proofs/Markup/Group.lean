import Mathlib
import Stencil.Markup.Group

/-!
# Where groups end

A group ends where the nesting of its brackets, counted outside of string literals, returns to zero
for the first time. `group?_eq_some_iff` says that the reader of groups finds this place, and finds
none only when there is none.
-/

namespace Stencil.Markup

/-- By how much a character changes the nesting of brackets. -/
def turn (opening closing : Char) (quoting : Quoting) (c : Char) : Int :=
  if quoting = .outside ∧ c = closing then -1
  else if quoting = .outside ∧ c = opening then 1
  else 0

/-- How many more brackets a text opens than it closes, string literals left out. -/
def nesting (opening closing : Char) (quoting : Quoting) : List Char → Int
  | [] => 0
  | c :: rest =>
    turn opening closing quoting c + nesting opening closing (quoting.next c) rest

/-- Whether a text between brackets makes a group with them: the nesting returns to zero at the
closing bracket and nowhere before it. -/
structure IsGroup (opening closing : Char) (inner : List Char) : Prop where
  closed : nesting opening closing .outside (opening :: inner ++ [closing]) = 0
  first : ∀ front, front <+: inner → nesting opening closing .outside (opening :: front) ≠ 0

section

variable {opening closing : Char} {depth : Nat} {quoting : Quoting}

theorem neg_one_le_turn (c : Char) : -1 ≤ turn opening closing quoting c := by
  unfold turn
  split
  · exact le_refl _
  · split <;> decide

/-- One step of the reader: it stops where the nesting returns to zero. -/
theorem readGroup_cons (hclosing : closing ≠ '"') (c : Char) (rest : List Char) :
    readGroup opening closing depth quoting (c :: rest)
      = if (depth : Int) + 1 + turn opening closing quoting c = 0 then some ([], rest)
        else
          (readGroup opening closing (depth + turn opening closing quoting c).toNat
            (quoting.next c) rest).map fun read => (c :: read.1, read.2) := by
  rw [readGroup.eq_def]
  dsimp only
  by_cases hclose : quoting = .outside ∧ c = closing
  · have hnext : quoting.next c = .outside := by
      rw [hclose.1, hclose.2, Quoting.next, if_neg hclosing]
    rw [if_pos hclose, turn, if_pos hclose, hnext]
    cases depth with
    | zero => rfl
    | succ depth =>
      rw [if_neg (by omega)]
      have hdepth : ((depth + 1 : Nat) + -1 : Int).toNat = depth := by omega
      rw [hdepth]
  · rw [if_neg hclose, turn, if_neg hclose]
    by_cases hopen : quoting = .outside ∧ c = opening
    · rw [if_pos hopen, if_pos hopen, if_neg (by omega)]
      rfl
    · rw [if_neg hopen, if_neg hopen, if_neg (by omega), add_zero, Int.toNat_natCast]

theorem nesting_singleton (c : Char) :
    nesting opening closing quoting [c] = turn opening closing quoting c := by
  rw [nesting, nesting, add_zero]

theorem eq_closing_of_turn {c : Char} (h : (depth : Int) + 1 + turn opening closing quoting c = 0) :
    c = closing := by
  by_contra hne
  have hturn : 0 ≤ turn opening closing quoting c := by
    rw [turn, if_neg fun hclose => hne hclose.2]
    split <;> decide
  omega

/-- Whether the closing bracket behind a text is the first place where the nesting returns to zero,
`depth` more groups than the one to be closed being open before the text. -/
def ClosesFirst (opening closing : Char) (depth : Nat) (quoting : Quoting) (inner : List Char) :
    Prop :=
  depth + 1 + nesting opening closing quoting (inner ++ [closing]) = 0
    ∧ ∀ front, front <+: inner → depth + 1 + nesting opening closing quoting front ≠ 0

theorem closesFirst_nil (h : (depth : Int) + 1 + turn opening closing quoting closing = 0) :
    ClosesFirst opening closing depth quoting [] := by
  refine ⟨?_, fun front hfront => ?_⟩
  · rw [List.nil_append, nesting_singleton, h]
  · rw [List.prefix_nil.mp hfront, nesting]
    omega

theorem turn_of_closesFirst_nil (h : ClosesFirst opening closing depth quoting []) :
    (depth : Int) + 1 + turn opening closing quoting closing = 0 := by
  have hclosed := h.1
  rwa [List.nil_append, nesting_singleton] at hclosed

theorem turn_ne_of_closesFirst_cons {c : Char} {inner : List Char}
    (h : ClosesFirst opening closing depth quoting (c :: inner)) :
    (depth : Int) + 1 + turn opening closing quoting c ≠ 0 := by
  have hfirst := h.2 [c] (List.prefix_append [c] inner)
  rwa [nesting_singleton] at hfirst

/-- The first character of the text opens a group, closes one or leaves their number as it is. -/
theorem closesFirst_cons_iff {c : Char} {inner : List Char}
    (h : (depth : Int) + 1 + turn opening closing quoting c ≠ 0) :
    ClosesFirst opening closing depth quoting (c :: inner)
      ↔ ClosesFirst opening closing (depth + turn opening closing quoting c).toNat
          (quoting.next c) inner := by
  have hturn : -1 ≤ turn opening closing quoting c := neg_one_le_turn c
  have hdepth : ((depth + turn opening closing quoting c).toNat : Int)
      = depth + turn opening closing quoting c := by omega
  simp only [ClosesFirst, List.cons_append, nesting, hdepth]
  constructor
  · rintro ⟨hclosed, hfirst⟩
    refine ⟨by omega, fun front hfront => ?_⟩
    have hcons := hfirst (c :: front) (List.cons_prefix_cons.mpr ⟨rfl, hfront⟩)
    rw [nesting] at hcons
    omega
  · rintro ⟨hclosed, hfirst⟩
    refine ⟨by omega, fun front hfront => ?_⟩
    rcases List.prefix_cons_iff.mp hfront with rfl | ⟨front, rfl, htail⟩
    · rw [nesting]
      omega
    · have hfront := hfirst front htail
      rw [nesting]
      omega

/-- With some groups open, the reader finds the first place where the nesting returns to zero. -/
theorem readGroup_eq_some_iff (hclosing : closing ≠ '"') {text inner after : List Char} :
    readGroup opening closing depth quoting text = some (inner, after)
      ↔ text = inner ++ closing :: after ∧ ClosesFirst opening closing depth quoting inner := by
  induction text generalizing depth quoting inner with
  | nil => simp [readGroup]
  | cons c rest ih =>
    rw [readGroup_cons hclosing]
    by_cases hend : (depth : Int) + 1 + turn opening closing quoting c = 0
    · rw [if_pos hend, Option.some.injEq, Prod.mk.injEq]
      constructor
      · rintro ⟨rfl, rfl⟩
        obtain rfl := eq_closing_of_turn hend
        exact ⟨rfl, closesFirst_nil hend⟩
      · rintro ⟨heq, hfirst⟩
        rcases List.cons_eq_append_iff.mp heq with ⟨rfl, hafter⟩ | ⟨inner, rfl, -⟩
        · exact ⟨rfl, (List.cons.inj hafter).2.symm⟩
        · exact absurd hend (turn_ne_of_closesFirst_cons hfirst)
    · rw [if_neg hend, Option.map_eq_some_iff]
      constructor
      · rintro ⟨⟨inner, after⟩, hread, heq⟩
        simp only [Prod.mk.injEq] at heq
        obtain ⟨rfl, rfl⟩ := heq
        obtain ⟨rfl, hfirst⟩ := ih.mp hread
        exact ⟨rfl, (closesFirst_cons_iff hend).mpr hfirst⟩
      · rintro ⟨heq, hfirst⟩
        rcases List.cons_eq_append_iff.mp heq with ⟨rfl, hafter⟩ | ⟨inner, rfl, hrest⟩
        · obtain ⟨rfl, -⟩ := List.cons.inj hafter
          exact absurd (turn_of_closesFirst_nil hfirst) hend
        · exact ⟨(inner, after), ih.mpr ⟨hrest, (closesFirst_cons_iff hend).mp hfirst⟩, rfl⟩

end

/-- The reader of groups finds exactly the groups that a text starts with. -/
theorem group?_eq_some_iff {opening closing : Char} (hopening : opening ≠ '"')
    (hclosing : closing ≠ '"') (hne : opening ≠ closing) {text inner after : List Char} :
    group? opening closing text = some (inner, after)
      ↔ text = inner ++ closing :: after ∧ IsGroup opening closing inner := by
  have hturn : turn opening closing .outside opening = 1 := by
    rw [turn, if_neg fun h => hne h.2, if_pos ⟨rfl, rfl⟩]
  have hnext : Quoting.outside.next opening = .outside := if_neg hopening
  have hcons : ∀ row, nesting opening closing .outside (opening :: row)
      = 1 + nesting opening closing .outside row := by
    intro row
    rw [nesting, hturn, hnext]
  rw [group?, readGroup_eq_some_iff hclosing, ClosesFirst]
  refine and_congr_right fun _ =>
    ⟨fun h => ⟨?_, fun front hfront => ?_⟩, fun h => ⟨?_, fun front hfront => ?_⟩⟩
  · rw [List.cons_append, hcons, ← h.1]
    simp
  · rw [hcons]
    simpa using h.2 front hfront
  · have := h.closed
    rw [List.cons_append, hcons] at this
    simpa using this
  · have := h.first front hfront
    rw [hcons] at this
    simpa using this

theorem parentheses_eq_some_iff {text inner after : List Char} :
    group? '(' ')' text = some (inner, after)
      ↔ text = inner ++ ')' :: after ∧ IsGroup '(' ')' inner :=
  group?_eq_some_iff (by decide) (by decide) (by decide)

theorem brackets_eq_some_iff {text inner after : List Char} :
    group? '[' ']' text = some (inner, after)
      ↔ text = inner ++ ']' :: after ∧ IsGroup '[' ']' inner :=
  group?_eq_some_iff (by decide) (by decide) (by decide)

end Stencil.Markup
