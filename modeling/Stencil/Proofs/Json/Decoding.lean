import Mathlib
import Stencil.Proofs.Entries
import Stencil.Json.Decoder
import Stencil.Proofs.Json.ReadBack

/-!
# Decoding what has been encoded

A decoder gives back what a tree was made from exactly when the tree does not nest deeper than the
decoder may go. `Decoder.Inverts` states this for one value, its tree and a decoder; the lemmas here
carry it from the items of arrays and the members of plain data to the whole.
-/

namespace Stencil

/-! ## Nesting -/

namespace Json

mutual

/-- How many arrays and objects nest in a tree. -/
def depth : Json → Nat
  | .array items => itemsDepth items + 1
  | .object members => membersDepth members + 1
  | _ => 0

/-- How deep the deepest of some items nests. -/
def itemsDepth : List Json → Nat
  | [] => 0
  | item :: items => max (depth item) (itemsDepth items)

/-- How deep the deepest of some members nests. -/
def membersDepth : List (String × Json) → Nat
  | [] => 0
  | (_, member) :: members => max (depth member) (membersDepth members)

end

end Json

/-- Whether a decoder gives a value back from the tree it is encoded as, as deep as it may go. -/
def Decoder.Inverts (decoder : Decoder α) (encode : α → Json) (a : α) : Prop :=
  ∀ depth, decoder depth (encode a) = if (encode a).depth ≤ depth then some a else none

/-! ## Plain data -/

/-- Whether a number can be written: a whole number fits 64 bits. -/
def Number.IsWritten : Number → Prop
  | .whole i => Number.fits i = true
  | .double _ => True

/-- A number reads back from its numeral. -/
theorem Number.ofNumeral?_numeral {n : Number} (h : n.IsWritten) :
    Number.ofNumeral? n.numeral = some n := by
  cases n with
  | whole i =>
    have hfits : Number.fits i = true := h
    have hvalue : (if (i < 0 : Bool) then -((i.natAbs : Nat) : Int) else (i.natAbs : Nat)) = i := by
      by_cases hi : i < 0
      · simp only [hi, decide_true, if_true]
        omega
      · simp only [hi, decide_false, Bool.false_eq_true, if_false]
        omega
    have hzero : (decide (i < 0) && ((i.natAbs : Nat) : Int) == 0) = false := by
      rw [Bool.and_eq_false_imp]
      intro hi
      have : i < 0 := of_decide_eq_true hi
      exact beq_false_of_ne (by omega)
    simp only [Number.ofNumeral?, Number.numeral, Decimal.Numeral.ofInt, Decimal.Numeral.isWhole,
      Decimal.ofDigits_digitsOf, List.isEmpty_nil, Option.isNone_none, Bool.and_self, hvalue, hfits,
      hzero, Bool.not_false, if_true]
  | double x =>
    rw [Number.ofNumeral?, Number.numeral, Decimal.isWhole_numeral, Bool.false_and, Bool.false_and,
      if_neg Bool.false_ne_true, Decimal.Double.ofNumeral?_numeral, Option.map_some]

theorem Number.isWritten_numeral (n : Number) : n.numeral.IsWritten := by
  cases n with
  | whole i => exact Decimal.isWritten_ofInt i
  | double x => exact Decimal.isWritten_numeral _ x

namespace Value

/-- Whether a value is such as JSON is read into: whole numbers fit 64 bits, and the names of
objects increase. -/
inductive IsPlain : Value → Prop
  | null : IsPlain .null
  | bool (value : Bool) : IsPlain (.bool value)
  | number {n : Number} (h : n.IsWritten) : IsPlain (.number n)
  | string (text : String) : IsPlain (.string text)
  | array {items : List Value} (h : ∀ item ∈ items, IsPlain item) : IsPlain (.array items)
  | object {members : List (String × Value)} (horder : Entries.Increasing members)
      (h : ∀ member ∈ members, IsPlain member.2) : IsPlain (.object members)

theorem ofItems?_itemsToJson {items : List Value}
    (h : ∀ item ∈ items, Decoder.Inverts ofJson? toJson item) (depth : Nat) :
    ofItems? depth (itemsToJson items)
      = if Json.itemsDepth (itemsToJson items) ≤ depth then some items else none := by
  induction items with
  | nil => rfl
  | cons item items ih =>
    rw [itemsToJson, ofItems?, h item List.mem_cons_self depth,
      ih fun item hitem => h item (List.mem_cons_of_mem _ hitem), Json.itemsDepth]
    by_cases hitem : item.toJson.depth ≤ depth <;>
      by_cases hitems : Json.itemsDepth (itemsToJson items) ≤ depth <;>
        simp [hitem, hitems]

theorem ofMembers?_membersToJson {members : List (String × Value)}
    (h : ∀ member ∈ members, Decoder.Inverts ofJson? toJson member.2) (depth : Nat) :
    ofMembers? depth (membersToJson members)
      = if Json.membersDepth (membersToJson members) ≤ depth then some members else none := by
  induction members with
  | nil => rfl
  | cons member members ih =>
    rw [membersToJson, ofMembers?, h member List.mem_cons_self depth,
      ih fun member hmember => h member (List.mem_cons_of_mem _ hmember), Json.membersDepth]
    by_cases hmember : member.2.toJson.depth ≤ depth <;>
      by_cases hmembers : Json.membersDepth (membersToJson members) ≤ depth <;>
        simp [hmember, hmembers]

/-- Plain data reads back from its tree. -/
theorem inverts_ofJson? {value : Value} (h : value.IsPlain) :
    Decoder.Inverts ofJson? toJson value := by
  induction h with
  | null | bool | string =>
    intro depth
    simp [toJson, ofJson?, Json.depth]
  | number hn =>
    intro depth
    simp [toJson, ofJson?, Json.depth, Number.ofNumeral?_numeral hn]
  | @array items _ ih =>
    intro depth
    cases depth with
    | zero => simp [toJson, ofJson?, Json.depth]
    | succ depth =>
      rw [toJson, ofJson?, ofItems?_itemsToJson ih, Json.depth]
      by_cases hdepth : Json.itemsDepth (itemsToJson items) ≤ depth <;> simp [hdepth]
  | @object members horder _ ih =>
    intro depth
    cases depth with
    | zero => simp [toJson, ofJson?, Json.depth]
    | succ depth =>
      rw [toJson, ofJson?, ofMembers?_membersToJson ih, Json.depth]
      by_cases hdepth : Json.membersDepth (membersToJson members) ≤ depth <;>
        simp [hdepth, Entries.ofList_of_increasing horder]

theorem itemsToJson_eq_map (items : List Value) : itemsToJson items = items.map toJson := by
  induction items with
  | nil => rfl
  | cons item items ih => rw [itemsToJson, ih, List.map_cons]

theorem membersToJson_eq_map (members : List (String × Value)) :
    membersToJson members = members.map fun member => (member.1, member.2.toJson) := by
  induction members with
  | nil => rfl
  | cons member members ih => rw [membersToJson, ih, List.map_cons]

theorem isWritten_toJson {value : Value} (h : value.IsPlain) : value.toJson.IsWritten := by
  induction h with
  | null => exact .null
  | bool value => exact .bool value
  | @number n _ => exact .number n.isWritten_numeral
  | string text => exact .string text
  | array _ ih =>
    rw [toJson, itemsToJson_eq_map]
    exact .array (List.forall_mem_map.mpr ih)
  | object _ _ ih =>
    rw [toJson, membersToJson_eq_map]
    exact .object (List.forall_mem_map.mpr ih)

end Value

/-! ## Parts of records -/

namespace Decoder

theorem inverts_text (text : String) : Inverts Decoder.text Json.string text := by
  intro depth
  simp [Decoder.text, Json.depth]

theorem index_number {n : Decimal.Numeral} {i : Nat}
    (h : Number.ofNumeral? n = some (.whole i)) (depth : Nat) :
    Decoder.index depth (.number n) = some i := by
  simp [Decoder.index, h]

theorem fits_natCast {i : Nat} (h : i < 18446744073709551616) : Number.fits i = true := by
  rw [Number.fits, Bool.or_eq_true, Bool.and_eq_true, decide_eq_true_eq, decide_eq_true_eq]
  exact Or.inr ⟨by omega, by omega⟩

theorem inverts_index {i : Nat} (h : i < 18446744073709551616) :
    Inverts Decoder.index (fun i => .number (.ofInt i)) i := by
  intro depth
  have hread : Number.ofNumeral? (.ofInt i) = some (.whole i) :=
    Number.ofNumeral?_numeral (n := .whole i) (fits_natCast h)
  exact (index_number hread depth).trans (if_pos (Nat.zero_le depth)).symm

theorem itemsDepth_le_iff {items : List Json} {depth : Nat} :
    Json.itemsDepth items ≤ depth ↔ ∀ item ∈ items, item.depth ≤ depth := by
  induction items with
  | nil => simp [Json.itemsDepth]
  | cons item items ih => simp [Json.itemsDepth, ih]

theorem inverts_list {decoder : Decoder α} {encode : α → Json} {items : List α}
    (h : ∀ item ∈ items, Inverts decoder encode item) :
    Inverts (Decoder.list decoder) (fun items => .array (items.map encode)) items := by
  intro depth
  cases depth with
  | zero => simp [Decoder.list, Json.depth]
  | succ depth =>
    have hitems : (items.map encode).mapM (decoder depth)
        = if Json.itemsDepth (items.map encode) ≤ depth then some items else none := by
      induction items with
      | nil => simp [Json.itemsDepth]
      | cons item items ih =>
        have hitem := h item List.mem_cons_self depth
        have hrest := ih fun item hitem => h item (List.mem_cons_of_mem _ hitem)
        by_cases hfirst : (encode item).depth ≤ depth <;>
          by_cases hmore : Json.itemsDepth (items.map encode) ≤ depth <;>
            simp_all [Json.itemsDepth, List.mapM_cons]
    rw [Decoder.list, hitems]
    by_cases hdepth : Json.itemsDepth (items.map encode) ≤ depth <;> simp [hdepth, Json.depth]

theorem orNull_of_ne {decoder : Decoder α} {json : Json} (h : json ≠ .null) (depth : Nat) :
    orNull decoder depth json = (decoder depth json).map some := by
  rw [orNull]
  exact h

theorem mapM_members {decoder : Decoder α} {encode : α → Json} {entries : List (String × α)}
    (h : ∀ entry ∈ entries, Inverts decoder encode entry.2) (depth : Nat) :
    ((entries.map fun entry => (entry.1, encode entry.2)).mapM
        fun member => (decoder depth member.2).map (member.1, ·))
      = if Json.membersDepth (entries.map fun entry => (entry.1, encode entry.2)) ≤ depth
        then some entries else none := by
  induction entries with
  | nil => simp [Json.membersDepth]
  | cons entry entries ih =>
    have hentry := h entry List.mem_cons_self depth
    have hrest := ih fun entry hentry => h entry (List.mem_cons_of_mem _ hentry)
    rw [List.map_cons, List.mapM_cons, hentry, hrest, Json.membersDepth]
    by_cases hfirst : (encode entry.2).depth ≤ depth <;>
      by_cases hmore :
        Json.membersDepth (entries.map fun entry => (entry.1, encode entry.2)) ≤ depth <;>
        simp [hfirst, hmore]

theorem inverts_dictionary {decoder : Decoder α} {encode : α → Json} {d : Dictionary α}
    (h : ∀ entry ∈ d.entries, Inverts decoder encode entry.2) :
    Inverts (Decoder.dictionary decoder)
      (fun d => .object (d.entries.map fun entry => (entry.1, encode entry.2))) d := by
  intro depth
  cases depth with
  | zero => simp [Decoder.dictionary, Json.depth]
  | succ depth =>
    rw [Decoder.dictionary, mapM_members h depth]
    by_cases hdepth :
        Json.membersDepth (d.entries.map fun entry => (entry.1, encode entry.2)) ≤ depth <;>
      simp [hdepth, Json.depth, Dictionary.ofList_entries]

/-! ## Bytes -/

theorem textOfBytes_toUTF8 (text : String) : textOfBytes text.toUTF8 = text.toList := by
  have hread : String.fromUTF8? text.toUTF8 = some text :=
    dif_pos text.isValidUTF8
  rw [textOfBytes, hread]

/-- The bytes of a tree's text are decoded as the tree is. -/
theorem runBytes_text (decoder : Decoder α) {json : Json} (h : json.IsWritten) :
    decoder.runBytes json.text.toUTF8 = decoder nestingLimit json := by
  rw [runBytes, textOfBytes_toUTF8, run, Json.text, String.toList_ofList, Json.read_chars h,
    Option.bind_some]

end Decoder

end Stencil
