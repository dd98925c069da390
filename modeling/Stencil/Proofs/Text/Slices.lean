import Mathlib
import Stencil.Expression.Token

/-!
# Slices of a text

A place in a text is told in bytes of its UTF-8. A text can be sliced between two places when both
are within it, none is inside a character, and they stand in order. The places before the rests of a
text are such places: slicing between two of them gives the characters between
(`slice?_placeBefore`).
-/

namespace Stencil.Text

open Expression (byteSize)

/-- Whether a place is within a text and not inside a character. -/
abbrev IsBoundary (text : String) (place : Nat) : Prop :=
  String.Pos.Raw.IsValid text ⟨place⟩

/-- The characters of a text between two places. -/
def slice? (text : String) (start stop : Nat) : Option (List Char) :=
  if h : IsBoundary text start ∧ IsBoundary text stop ∧ start ≤ stop then
    some (text.extract (text.pos ⟨start⟩ h.1) (text.pos ⟨stop⟩ h.2.1)).toList
  else none

/-- The place in a text before a rest of it. -/
def placeBefore (text : String) (rest : List Char) : Nat :=
  text.utf8ByteSize - byteSize rest

/-! ## Sizes -/

@[simp] theorem byteSize_append (front rest : List Char) :
    byteSize (front ++ rest) = byteSize front + byteSize rest := by
  induction front with
  | nil => simp [byteSize]
  | cons c front ih => rw [List.cons_append, byteSize, byteSize, ih, Nat.add_assoc]

theorem byteSize_pos {text : List Char} (h : text ≠ []) : 0 < byteSize text := by
  obtain ⟨c, rest, rfl⟩ := List.exists_cons_of_ne_nil h
  rw [byteSize]
  have := c.utf8Size_pos
  omega

theorem utf8ByteSize_ofList (text : List Char) :
    (String.ofList text).utf8ByteSize = byteSize text := by
  induction text with
  | nil => rfl
  | cons c text ih =>
    rw [← List.singleton_append, String.ofList_append, String.utf8ByteSize_append, ih,
      byteSize_append, ← String.singleton_eq_ofList, String.utf8ByteSize_singleton]
    rfl

theorem byteSize_toList (text : String) : byteSize text.toList = text.utf8ByteSize := by
  rw [← utf8ByteSize_ofList, String.ofList_toList]

theorem eq_append_of_toList {text : String} {front back : List Char}
    (h : text.toList = front ++ back) : text = String.ofList front ++ String.ofList back := by
  rw [← String.ofList_append, ← h, String.ofList_toList]

/-! ## Places -/

theorem isBoundary_byteSize {text : String} {front back : List Char}
    (h : text.toList = front ++ back) : IsBoundary text (byteSize front) := by
  refine String.Pos.Raw.isValid_iff_exists_append.mpr ⟨_, _, eq_append_of_toList h, ?_⟩
  rw [String.Pos.Raw.ext_iff, String.byteIdx_rawEndPos, utf8ByteSize_ofList]

theorem byteSize_eq_size (row : List Char) : byteSize row = row.utf8Encode.size := by
  rw [← utf8ByteSize_ofList, ← String.size_toByteArray, String.toByteArray_ofList]

/-- Between the end of a front and the end of what follows it stands what follows it. -/
theorem slice?_byteSize {text : String} {front middle back : List Char}
    (h : text.toList = front ++ middle ++ back) :
    slice? text (byteSize front) (byteSize (front ++ middle)) = some middle := by
  have hstart : IsBoundary text (byteSize front) :=
    isBoundary_byteSize (h.trans (List.append_assoc ..))
  have hstop : IsBoundary text (byteSize (front ++ middle)) := isBoundary_byteSize h
  have hle : byteSize front ≤ byteSize (front ++ middle) := by simp
  have hbytes : text.toByteArray = front.utf8Encode ++ (middle.utf8Encode ++ back.utf8Encode) := by
    rw [eq_append_of_toList (h.trans (List.append_assoc ..)), String.ofList_append,
      String.toByteArray_append, String.toByteArray_append, String.toByteArray_ofList,
      String.toByteArray_ofList, String.toByteArray_ofList]
  have hslice : text.extract (text.pos ⟨byteSize front⟩ hstart)
      (text.pos ⟨byteSize (front ++ middle)⟩ hstop) = String.ofList middle := by
    rw [← String.toByteArray_inj, String.toByteArray_extract, String.toByteArray_ofList, hbytes]
    show ByteArray.extract _ (byteSize front + 0) (byteSize (front ++ middle)) = _
    rw [byteSize_append, ByteArray.extract_append_size_add' (byteSize_eq_size front),
      ByteArray.extract_append_eq_left (byteSize_eq_size middle)]
  rw [slice?, dif_pos ⟨hstart, hstop, hle⟩, hslice, String.toList_ofList]

section

variable {text : String} {front rest : List Char}

theorem placeBefore_eq (h : text.toList = front ++ rest) :
    placeBefore text rest = byteSize front := by
  rw [placeBefore, ← byteSize_toList, h, byteSize_append, Nat.add_sub_cancel]

@[simp] theorem placeBefore_nil (text : String) : placeBefore text [] = text.utf8ByteSize := rfl

@[simp] theorem placeBefore_toList (text : String) : placeBefore text text.toList = 0 :=
  placeBefore_eq (List.nil_append _).symm

theorem placeBefore_le (text : String) (rest : List Char) :
    placeBefore text rest ≤ text.utf8ByteSize :=
  Nat.sub_le ..

theorem placeBefore_append (h : front ++ rest <:+ text.toList) :
    placeBefore text (front ++ rest) + byteSize front = placeBefore text rest := by
  obtain ⟨before, hbefore⟩ := h
  have htext : text.toList = before ++ front ++ rest :=
    hbefore.symm.trans (List.append_assoc ..).symm
  rw [placeBefore_eq hbefore.symm, placeBefore_eq htext, byteSize_append]

theorem placeBefore_cons {c : Char} (h : c :: rest <:+ text.toList) :
    placeBefore text (c :: rest) + c.utf8Size = placeBefore text rest := by
  rw [← List.singleton_append] at h ⊢
  rw [← placeBefore_append h]
  rfl

theorem placeBefore_lt (h : front ++ rest <:+ text.toList) (hfront : front ≠ []) :
    placeBefore text (front ++ rest) < placeBefore text rest := by
  have := placeBefore_append h
  have := byteSize_pos hfront
  omega

/-- The places at which a text may be sliced are those before its rests. -/
theorem isBoundary_iff {place : Nat} :
    IsBoundary text place ↔ ∃ rest, rest <:+ text.toList ∧ place = placeBefore text rest := by
  constructor
  · intro h
    obtain ⟨front, back, rfl, hplace⟩ := String.Pos.Raw.isValid_iff_exists_append.mp h
    have htext : (front ++ back).toList = front.toList ++ back.toList := String.toList_append
    refine ⟨back.toList, ⟨front.toList, htext.symm⟩, ?_⟩
    rw [placeBefore_eq htext, byteSize_toList, ← String.byteIdx_rawEndPos, ← hplace]
  · rintro ⟨rest, ⟨front, hfront⟩, rfl⟩
    rw [placeBefore_eq hfront.symm]
    exact isBoundary_byteSize hfront.symm

theorem isBoundary_placeBefore (h : rest <:+ text.toList) :
    IsBoundary text (placeBefore text rest) :=
  isBoundary_iff.mpr ⟨rest, h, rfl⟩

/-- Between the places before two rests stands what the one has more than the other. -/
theorem slice?_placeBefore (h : front ++ rest <:+ text.toList) :
    slice? text (placeBefore text (front ++ rest)) (placeBefore text rest) = some front := by
  obtain ⟨before, hbefore⟩ := h
  have htext : text.toList = before ++ front ++ rest :=
    hbefore.symm.trans (List.append_assoc ..).symm
  rw [placeBefore_eq hbefore.symm, placeBefore_eq htext, slice?_byteSize htext]

end

end Stencil.Text
