import Mathlib
import Stencil.Expression.Format
import Stencil.Proofs.Expression.Canonical
import Stencil.Proofs.Json.Decoding

/-!
# Expressions read back

An expression reads back from its tree when its literals are plain data and its indexes fit 64 bits
(`Expression.inverts_decode`). What the parser of expressions returns is always such an expression
(`Expression.isPlain_of_parse`), because it takes no number that does not fit.
-/

namespace Stencil

open Decoder (Inverts)

/-- A tree of one member nests one deeper than the member. -/
@[simp] theorem Json.depth_member (name : String) (json : Json) :
    (Json.object [(name, json)]).depth = json.depth + 1 := by
  simp [Json.depth, Json.membersDepth]

/-! ## Trees of expressions -/

namespace Step

/-- Whether a step can be written: an index fits 64 bits. -/
def IsPlain : Step → Prop
  | .index position => position < 18446744073709551616
  | _ => True

theorem inverts_decode {step : Step} (h : step.IsPlain) : Inverts decode toJson step := by
  intro depth
  cases depth with
  | zero => cases step <;> simp [decode, toJson, Json.depth]
  | succ depth =>
    cases step with
    | index position =>
      have hindex := Decoder.inverts_index h depth
      simp only [Json.depth, Nat.zero_le, if_true] at hindex
      simp [decode, toJson, Json.depth, hindex]
    | _ => simp [decode, toJson, Json.depth, Decoder.text]

theorem isWritten_toJson (step : Step) : step.toJson.IsWritten := by
  cases step with
  | member name => exact .object (by simpa using .string name)
  | index position => exact .object (by simpa using .number (Decimal.isWritten_ofInt position))
  | key name => exact .object (by simpa using .string name)

end Step

namespace Expression

/-- Whether an expression can be written: its literals are plain data, its indexes fit 64 bits. -/
inductive IsPlain : Expression → Prop
  | path (root : String) {steps : List Step} (h : ∀ step ∈ steps, step.IsPlain) :
      IsPlain (.path root steps)
  | literal {value : Value} (h : value.IsPlain) : IsPlain (.literal value)
  | coalesce {operands : List Expression} (h : ∀ operand ∈ operands, IsPlain operand) :
      IsPlain (.coalesce operands)

theorem operandsToJson_eq_map (operands : List Expression) :
    operandsToJson operands = operands.map toJson := by
  induction operands with
  | nil => rfl
  | cons operand operands ih => rw [operandsToJson, ih, List.map_cons]

theorem decodeOperands_operandsToJson {operands : List Expression}
    (h : ∀ operand ∈ operands, Inverts decode toJson operand) (depth : Nat) :
    decodeOperands depth (operandsToJson operands)
      = if Json.itemsDepth (operandsToJson operands) ≤ depth then some operands else none := by
  induction operands with
  | nil => rfl
  | cons operand operands ih =>
    rw [operandsToJson, decodeOperands, h operand List.mem_cons_self depth,
      ih fun operand hoperand => h operand (List.mem_cons_of_mem _ hoperand), Json.itemsDepth]
    by_cases hoperand : operand.toJson.depth ≤ depth <;>
      by_cases hoperands : Json.itemsDepth (operandsToJson operands) ≤ depth <;>
        simp [hoperand, hoperands]

theorem inverts_decodePath {root : String} {steps : List Step} (h : ∀ step ∈ steps, step.IsPlain)
    (depth : Nat) :
    decodePath depth (.object [("root", .string root), ("steps", .array (steps.map Step.toJson))])
      = if Json.itemsDepth (steps.map Step.toJson) + 2 ≤ depth then some (.path root steps)
        else none := by
  have hsteps := Decoder.inverts_list fun step hstep => Step.inverts_decode (h step hstep)
  cases depth with
  | zero => simp [decodePath]
  | succ depth =>
    have hdepth := hsteps depth
    simp only [Json.depth] at hdepth
    by_cases hle : Json.itemsDepth (steps.map Step.toJson) + 1 ≤ depth <;>
      simp [decodePath, Decoder.fields?, Decoder.field?, Decoder.required, Decoder.text, hdepth,
        hle]

/-- An expression reads back from its tree. -/
theorem inverts_decode {e : Expression} (h : e.IsPlain) : Inverts decode toJson e := by
  induction h with
  | path root hsteps =>
    intro depth
    cases depth with
    | zero => simp [decode, toJson, Json.depth]
    | succ depth =>
      rw [toJson, decode, inverts_decodePath hsteps depth]
      simp [Json.depth, Json.membersDepth, Nat.add_assoc]
  | @literal value hvalue =>
    intro depth
    cases depth with
    | zero => simp [decode, toJson]
    | succ depth =>
      rw [toJson, decode, Decoder.value, Value.inverts_ofJson? hvalue depth, Json.depth_member]
      by_cases hle : value.toJson.depth ≤ depth <;> simp [hle]
  | @coalesce operands _ ih =>
    intro depth
    cases depth with
    | zero => simp [decode, toJson, Json.depth]
    | succ depth =>
      cases depth with
      | zero => simp [decode, toJson, Json.depth]
      | succ depth =>
        rw [toJson, decode, decodeOperands_operandsToJson ih, Json.depth_member, Json.depth]
        by_cases hle : Json.itemsDepth (operandsToJson operands) ≤ depth <;> simp [hle]

theorem isWritten_toJson {e : Expression} (h : e.IsPlain) : e.toJson.IsWritten := by
  induction h with
  | @path root steps _ =>
    have hsteps : (Json.array (steps.map Step.toJson)).IsWritten :=
      .array (List.forall_mem_map.mpr fun step _ => step.isWritten_toJson)
    have hpath : (Json.object
        [("root", .string root), ("steps", .array (steps.map Step.toJson))]).IsWritten :=
      .object (by simpa using ⟨.string root, hsteps⟩)
    exact .object (by simpa using hpath)
  | literal hvalue => exact .object (by simpa using Value.isWritten_toJson hvalue)
  | coalesce _ ih =>
    rw [toJson, operandsToJson_eq_map]
    exact .object (by simpa using .array (List.forall_mem_map.mpr ih))

end Expression

/-! ## Expressions that have been parsed -/

theorem Value.IsLiteralOrDouble.isPlain {value : Value} (h : value.IsLiteralOrDouble) :
    value.IsPlain := by
  rcases h with h | ⟨x, rfl⟩
  · cases h with
    | null => exact .null
    | bool value => exact .bool value
    | @whole value h =>
      have hwritten : Number.fits value = true := by rw [Number.fits, h, Bool.true_or]
      exact .number hwritten
    | string text => exact .string text
  · have hwritten : Number.IsWritten (.double x) := trivial
    exact .number hwritten

theorem Step.IsCanonical.isPlain {step : Step} (h : step.IsCanonical) : step.IsPlain := by
  cases step with
  | index position =>
    -- A position is a whole number of the language, so it is far below what a unit can hold.
    exact Nat.lt_trans (show position < 2 ^ 63 from h) (by decide)
  | _ => trivial

namespace Expression

theorem IsCanonical.isPlain {e : Expression} (h : e.IsCanonical Value.IsLiteralOrDouble) :
    e.IsPlain := by
  induction h with
  | path _ _ _ _ hsteps => exact .path _ fun step hstep => (hsteps step hstep).isPlain
  | literal h => exact .literal h.isPlain
  | coalesce _ _ ih => exact .coalesce ih

/-- An expression that has been parsed can be written. -/
theorem isPlain_of_parse {code : List Char} {e : Expression} (h : parse code = .ok e) :
    e.IsPlain :=
  (isCanonical_of_parse h).isPlain

end Expression

end Stencil
