import Stencil.Expression.Basic
import Stencil.Expression.Token

/-!
# Reading expressions

The grammar is

* expression: operands joined by `??`,
* operand: a path, a literal, or an expression between parentheses,
* path: a name that is not `true`, `false` or `null`, with steps `.name`, `[index]` and `["key"]`.

The reader goes through the tokens once. It keeps the operands before every parenthesis that is
still open, innermost first, so parentheses may nest without bound.
-/

namespace Stencil.Expression

/-- The value of a name that is a literal. -/
def word? : String → Option Value
  | "true" => some (.bool true)
  | "false" => some (.bool false)
  | "null" => some .null
  | _ => none

/-- Reads the steps of a path with the given root, as many as follow. -/
def readSteps (root : String) : List Token → Except SyntaxError (List Step × List Token)
  | .dot :: .name name :: rest =>
    match readSteps root rest with
    | .ok (steps, after) => .ok (.member name :: steps, after)
    | .error e => .error e
  | .dot :: _ => .error (.missingMember root)
  | .openBracket :: .whole i :: .closeBracket :: rest =>
    if i < 0 then .error (.negativeIndex i)
    else
      match readSteps root rest with
      | .ok (steps, after) => .ok (.index i.toNat :: steps, after)
      | .error e => .error e
  | .openBracket :: .whole i :: _ =>
    if i < 0 then .error (.negativeIndex i) else .error .missingBracket
  | .openBracket :: .text key :: .closeBracket :: rest =>
    match readSteps root rest with
    | .ok (steps, after) => .ok (.key key :: steps, after)
    | .error e => .error e
  | .openBracket :: .text _ :: _ => .error .missingBracket
  | .openBracket :: _ => .error .missingIndex
  | rest => .ok ([], rest)

/-- Reading steps adds nothing to the tokens. -/
theorem length_of_readSteps {root : String} {ts after : List Token} {steps : List Step}
    (h : readSteps root ts = .ok (steps, after)) : after.length ≤ ts.length := by
  fun_induction readSteps root ts generalizing steps with
  | case1 name rest steps' after' hrest ih =>
    obtain ⟨-, rfl⟩ := Prod.mk.inj (Except.ok.inj h)
    have := ih hrest
    simp only [List.length_cons]
    omega
  | case5 i rest _ steps' after' hrest ih =>
    obtain ⟨-, rfl⟩ := Prod.mk.inj (Except.ok.inj h)
    have := ih hrest
    simp only [List.length_cons]
    omega
  | case9 key rest steps' after' hrest ih =>
    obtain ⟨-, rfl⟩ := Prod.mk.inj (Except.ok.inj h)
    have := ih hrest
    simp only [List.length_cons]
    omega
  | case13 ts =>
    obtain ⟨-, rfl⟩ := Prod.mk.inj (Except.ok.inj h)
    exact Nat.le_refl _
  | _ => simp at h

mutual

/-- Reads an operand and what follows it. `opened` holds the operands before every parenthesis that
is still open, innermost first, and `seen` the operands since then. -/
def readOperand (opened : List (List Expression)) (seen : List Expression)
    (ts : List Token) : Except SyntaxError Expression :=
  match ts with
  | [] => .error .missingOperand
  | .openParen :: rest => readOperand (seen :: opened) [] rest
  | .name root :: rest =>
    match word? root with
    | some value => readNext opened (seen ++ [.literal value]) rest
    | none =>
      match _h : readSteps root rest with
      | .ok (steps, after) => readNext opened (seen ++ [.path root steps]) after
      | .error e => .error e
  | .text text :: rest => readNext opened (seen ++ [.literal (.string text)]) rest
  | .whole value :: rest => readNext opened (seen ++ [.literal (.number (.whole value))]) rest
  | .double value :: rest => readNext opened (seen ++ [.literal (.number (.double value))]) rest
  | token :: _ => .error (.unexpected token)
termination_by ts.length
decreasing_by
  all_goals simp only [List.length_cons]
  all_goals try omega
  have := length_of_readSteps ‹_›
  omega

/-- Goes on after an operand. -/
def readNext (opened : List (List Expression)) (seen : List Expression)
    (ts : List Token) : Except SyntaxError Expression :=
  match ts, opened with
  | [], [] => .ok (join seen)
  | .coalesce :: rest, opened => readOperand opened seen rest
  | .closeParen :: rest, outer :: opened => readNext opened (outer ++ [join seen]) rest
  | token :: _, [] => .error (.trailing token)
  | _, _ :: _ => .error .missingParen
termination_by ts.length
decreasing_by
  all_goals simp only [List.length_cons]
  all_goals omega

end

/-- Reads an expression. -/
def parse (code : List Char) : Except SyntaxError Expression :=
  match tokens code with
  | .error e => .error e
  | .ok [] => .error .empty
  | .ok ts => readOperand [] [] ts

end Stencil.Expression
