import Mathlib
import Stencil.Proofs.Text.Trimming
import Stencil.Url.Percent

/-!
# Form encoding read back

A text in form encoding decodes to the bytes of the text (`formDecode_formEncode`), so different
texts have different encodings (`formEncode_injective`). An encoding holds nothing but letters,
digits and a few marks, so no part of a path changes it.
-/

namespace Stencil.Url

open Text (toNat_lt_of_isAlphanum)

/-! ## Characters -/

theorem hexValue?_upperHexDigit {n : Nat} (h : n < 16) : hexValue? (upperHexDigit n) = some n := by
  have hall : ∀ n : Fin 16, hexValue? (upperHexDigit n) = some n.val := by decide
  exact hall ⟨n, h⟩

theorem isAlphanum_upperHexDigit {n : Nat} (h : n < 16) :
    (upperHexDigit n).isAlphanum = true := by
  have hall : ∀ n : Fin 16, (upperHexDigit n).isAlphanum = true := by decide
  exact hall ⟨n, h⟩

theorem toNat_lt_of_isFormSafe {c : Char} (h : isFormSafe c = true) : c.toNat < 128 := by
  rw [isFormSafe, Bool.or_eq_true] at h
  rcases h with h | h
  · exact toNat_lt_of_isAlphanum h
  · simp at h
    rcases h with rfl | rfl | rfl | rfl <;> decide

/-! ## Reading percent signs -/

theorem percentDecode_percentByte (b : UInt8) (rest : List Char) :
    percentDecode (percentByte b ++ rest) = b :: percentDecode rest := by
  have hhigh := hexValue?_upperHexDigit (n := b.toNat / 16) (by have := b.toNat_lt; omega)
  have hlow := hexValue?_upperHexDigit (n := b.toNat % 16) (Nat.mod_lt _ (by decide))
  rw [percentByte, List.cons_append, List.cons_append, List.cons_append, List.nil_append,
    percentDecode, hhigh, hlow]
  dsimp only
  rw [Nat.div_add_mod', UInt8.ofNat_toNat]

theorem percentDecode_percentChar (c : Char) (rest : List Char) :
    percentDecode (percentChar c ++ rest) = utf8 c ++ percentDecode rest := by
  rw [percentChar]
  induction utf8 c with
  | nil => rfl
  | cons b bytes ih =>
    rw [List.flatMap_cons, List.append_assoc, percentDecode_percentByte, ih, List.cons_append]

theorem percentDecode_cons {c : Char} (h : c ≠ '%') (rest : List Char) :
    percentDecode (c :: rest) = utf8 c ++ percentDecode rest := by
  rw [percentDecode]
  rintro a b after ⟨⟩
  exact absurd rfl h

/-! ## Reading form encoding -/

/-- What a character of form encoding stands for: a plus sign for a space. -/
def unplus (c : Char) : Char :=
  if c = '+' then ' ' else c

/-- The bytes of a text in form encoding. -/
def formDecode (text : List Char) : List UInt8 :=
  percentDecode (text.map unplus)

theorem unplus_of_isFormSafe {c : Char} (h : isFormSafe c = true) : unplus c = c := by
  refine if_neg ?_
  rintro rfl
  exact absurd h (by decide)

theorem isFormSafe_of_mem_percentChar {c d : Char} (h : d ∈ percentChar c) :
    d = '%' ∨ isFormSafe d = true := by
  obtain ⟨b, -, hmem⟩ := List.mem_flatMap.mp h
  have hhigh := isAlphanum_upperHexDigit (n := b.toNat / 16) (by have := b.toNat_lt; omega)
  have hlow := isAlphanum_upperHexDigit (n := b.toNat % 16) (Nat.mod_lt _ (by decide))
  rw [percentByte, List.mem_cons, List.mem_cons, List.mem_singleton] at hmem
  rcases hmem with rfl | rfl | rfl
  · exact Or.inl rfl
  · exact Or.inr (by rw [isFormSafe, hhigh, Bool.true_or])
  · exact Or.inr (by rw [isFormSafe, hlow, Bool.true_or])

theorem map_unplus_percentChar (c : Char) : (percentChar c).map unplus = percentChar c := by
  refine (List.map_congr_left fun d hd => ?_).trans (List.map_id _)
  rcases isFormSafe_of_mem_percentChar hd with rfl | hsafe
  · rfl
  · exact unplus_of_isFormSafe hsafe

theorem formDecode_formChar (c : Char) (rest : List Char) :
    formDecode (formChar c ++ rest) = utf8 c ++ formDecode rest := by
  rw [formDecode, List.map_append, formChar]
  split
  · next hsafe =>
    have hne : c ≠ '%' := by
      rintro rfl
      exact absurd hsafe (by decide)
    rw [List.map_singleton, unplus_of_isFormSafe hsafe]
    exact percentDecode_cons hne _
  · split
    · next hspace =>
      rw [hspace]
      exact percentDecode_cons (by decide) _
    · rw [map_unplus_percentChar, percentDecode_percentChar]
      rfl

/-- A text in form encoding decodes to the bytes of the text. -/
theorem formDecode_formEncode (text : List Char) :
    formDecode (formEncode text) = text.flatMap utf8 := by
  induction text with
  | nil => rfl
  | cons c text ih =>
    rw [formEncode, List.flatMap_cons, formDecode_formChar, List.flatMap_cons]
    exact congrArg (utf8 c ++ ·) ih

theorem flatMap_utf8_injective : Function.Injective fun text : List Char => text.flatMap utf8 := by
  intro text other h
  have hbytes : (String.ofList text).toByteArray = (String.ofList other).toByteArray :=
    congrArg List.toByteArray h
  exact String.ofList_injective (String.toByteArray_inj.mp hbytes)

/-- Different texts have different form encodings. -/
theorem formEncode_injective : Function.Injective formEncode := by
  intro text other h
  have hbytes := congrArg formDecode h
  rw [formDecode_formEncode, formDecode_formEncode] at hbytes
  exact flatMap_utf8_injective hbytes

/-! ## Form encoding in a path -/

/-- What form encoding writes: safe characters, plus signs and percent signs. -/
theorem mem_formEncode {text : List Char} {c : Char} (h : c ∈ formEncode text) :
    c = '%' ∨ c = '+' ∨ isFormSafe c = true := by
  obtain ⟨d, -, hmem⟩ := List.mem_flatMap.mp h
  rw [formChar] at hmem
  split at hmem
  · next hsafe => exact Or.inr (Or.inr (List.mem_singleton.mp hmem ▸ hsafe))
  · split at hmem
    · exact Or.inr (Or.inl (List.mem_singleton.mp hmem))
    · exact (isFormSafe_of_mem_percentChar hmem).imp id Or.inr

theorem inert_of_isFormSafe {c : Char} (h : isFormSafe c = true) :
    inPathSet c = false ∧ c ≠ '/' ∧ c ≠ '\\' := by
  have hall : ∀ n : Fin 128, isFormSafe (Char.ofNat n) = true →
      inPathSet (Char.ofNat n) = false ∧ Char.ofNat n ≠ '/' ∧ Char.ofNat n ≠ '\\' := by
    decide +kernel
  have hchar := hall ⟨c.toNat, toNat_lt_of_isFormSafe h⟩
  rw [Char.ofNat_toNat] at hchar
  exact hchar h

/-- No character of form encoding has a meaning in a path. -/
theorem inert_of_mem_formEncode {text : List Char} {c : Char} (h : c ∈ formEncode text) :
    inPathSet c = false ∧ c ≠ '/' ∧ c ≠ '\\' := by
  rcases mem_formEncode h with rfl | rfl | hsafe
  · decide
  · decide
  · exact inert_of_isFormSafe hsafe

theorem percentEncode_eq_self {set : Char → Bool} {text : List Char}
    (h : ∀ c ∈ text, set c = false) : percentEncode set text = text := by
  induction text with
  | nil => rfl
  | cons c text ih =>
    obtain ⟨hc, htext⟩ := List.forall_mem_cons.mp h
    rw [percentEncode, List.flatMap_cons, hc]
    exact congrArg (c :: ·) (ih htext)

/-- Percent-encoding writes no character of the set, and none that is neither there before nor a
sign, a digit or a letter of an encoded byte. -/
theorem mem_percentEncode {set : Char → Bool} {text : List Char} {c : Char}
    (h : c ∈ percentEncode set text) : c ∈ text ∨ c = '%' ∨ isFormSafe c = true := by
  obtain ⟨d, hd, hmem⟩ := List.mem_flatMap.mp h
  split at hmem
  · exact Or.inr (isFormSafe_of_mem_percentChar hmem)
  · exact Or.inl (List.mem_singleton.mp hmem ▸ hd)

end Stencil.Url
