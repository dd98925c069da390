import Mathlib
import Stencil.Proofs.Expression.Nesting
import Stencil.Proofs.Markup.Failure

/-!
# Expressions between parentheses

Whatever can be read as an expression can stand between the parentheses of a construct: the
construct ends at the parenthesis behind the expression, and the text behind that is scanned as if
it stood alone (`scanned_explicit`).
-/

namespace Stencil.Markup

open Text
open Expression (isGroup_of_parse)

variable {code : List Char} {e : Expression}

theorem trim_ne_nil_of_parse (h : Expression.parse code = .ok e) : trim code ≠ [] := by
  intro hblank
  obtain ⟨ts, htokens, hderived⟩ := Expression.parse_eq_ok_iff_exists_tokens.mp h
  -- A blank code has no tokens, and no expression derives from none.
  obtain rfl := (Expression.tokens_eq_ok_iff.mp htokens).eq_nil_of_isBlank
    (trim_eq_nil_iff.mp hblank)
  have hread := hderived.readOperand_eq
  rw [Expression.readOperand] at hread
  cases hread

/-- An expression with parentheses around it is a construct, whatever follows. -/
theorem isConstruct_of_parse (h : Expression.parse code = .ok e) (injected : List (List Char))
    (after : List Char) :
    IsConstruct injected ('(' :: code ++ [')']) after (.expression (trim code)) :=
  .explicit (isGroup_of_parse h) (trim_ne_nil_of_parse h)

theorem scan_explicit (h : Expression.parse code = .ok e) {injected : List (List Char)}
    {last : Option Char} (hlive : isLive last '@' = true) (tail : List Char) :
    scan injected last ('@' :: '(' :: code ++ ')' :: tail)
      = (scan injected none tail).map (.expression (trim code) :: ·) := by
  obtain ⟨next, hread, hnext⟩ := exists_readConstruct (isConstruct_of_parse h injected tail)
  -- The parenthesis before the tail makes no sign in it dead.
  have htail : scan injected (some next) tail = scan injected none tail := by
    refine scan_congr fun hne => ?_
    have hlast : ('(' :: code ++ [')']).getLast? = some ')' := List.getLast?_concat
    rw [← hnext hne, hlast]
    rfl
  have htext : '@' :: '(' :: code ++ ')' :: tail = '@' :: ('(' :: code ++ [')'] ++ tail) := by simp
  rw [htext, scan_cons_live hlive hread, ← htail]
  rfl

/-- What is read as an expression and put between parentheses behind a sign is the segment of the
expression, followed by the segments of the text behind it. The scan fails exactly if that text
fails on its own, and at the same sign. -/
theorem scanned_explicit (h : Expression.parse code = .ok e) (tail : List Char) :
    scanned ('@' :: '(' :: code ++ ')' :: tail)
        = (scanned tail).map (.expression (String.ofList (trim code)) :: ·)
      ∧ ∀ failure, scanned tail = .error failure →
          ∃ front, tail = front ++ failure.rest ∧ (failure.place tail).IsAfter front
            ∧ (failure.place ('@' :: '(' :: code ++ ')' :: tail)).IsAfter
                ('@' :: '(' :: code ++ ')' :: front) := by
  refine ⟨?_, fun failure hfailure => ?_⟩
  · rw [scanned, pieces, scan_explicit h rfl, scanned, pieces]
    cases scan [] none tail <;> rfl
  · obtain ⟨front, -, -, htail, -⟩ := exists_front_of_scanned_error hfailure
    have hwhole : '@' :: '(' :: code ++ ')' :: tail
        = '@' :: '(' :: code ++ ')' :: front ++ failure.rest := by
      conv => lhs; rw [htail]
      simp
    refine ⟨front, htail, ?_, ?_⟩
    · rw [Failure.place_eq htail]
      exact Position.isAfter_after front
    · rw [Failure.place_eq hwhole]
      exact Position.isAfter_after _

/-- A key with a parenthesis and a quote in it, before a text with an address and an open comment. -/
theorem scanned_explicit_quoted :
    Expression.parse " a[\")\\\"\"] ?? (b)".toList
        = .ok (.coalesce [.path "a" [.key ")\""], .path "b" []])
      ∧ scanned "! a@b\n @*".toList = .error ⟨.openComment, "@*".toList⟩
      ∧ scanned ('@' :: '(' :: " a[\")\\\"\"] ?? (b)".toList ++ ')' :: "! a@b\n @*".toList)
        = (scanned "! a@b\n @*".toList).map
            (.expression (String.ofList (trim " a[\")\\\"\"] ?? (b)".toList)) :: ·)
      ∧ ∃ front, "! a@b\n @*".toList = front ++ "@*".toList
          ∧ (Failure.place ⟨.openComment, "@*".toList⟩ "! a@b\n @*".toList).IsAfter front
          ∧ (Failure.place ⟨.openComment, "@*".toList⟩
              ('@' :: '(' :: " a[\")\\\"\"] ?? (b)".toList ++ ')' :: "! a@b\n @*".toList)).IsAfter
                ('@' :: '(' :: " a[\")\\\"\"] ?? (b)".toList ++ ')' :: front) := by
  have htokens : Expression.tokens " a[\")\\\"\"] ?? (b)".toList
      = .ok [.name "a", .openBracket, .text ")\"", .closeBracket, .coalesce, .openParen, .name "b",
          .closeParen] := by
    decide +kernel
  have hkey : Expression.IsOperand [.name "a", .openBracket, .text ")\"", .closeBracket]
      (.path "a" [.key ")\""]) :=
    .path (by decide) (by decide) (by decide) (.key ")\"" .nil)
  have hname : Expression.IsOperand [.name "b"] (.path "b" []) :=
    .path (by decide) (by decide) (by decide) .nil
  have hwhole := Expression.IsExpression.coalesce
    (.cons hkey (.single (.group (.operand hname)))) (le_refl 2)
  have hparse := Expression.parse_eq_ok_iff_exists_tokens.mpr ⟨_, htokens, hwhole⟩
  have hfailure : scanned "! a@b\n @*".toList = .error ⟨.openComment, "@*".toList⟩ := by
    decide +kernel
  obtain ⟨hsegments, hplace⟩ := scanned_explicit hparse "! a@b\n @*".toList
  exact ⟨hparse, hfailure, hsegments, hplace _ hfailure⟩

end Stencil.Markup
