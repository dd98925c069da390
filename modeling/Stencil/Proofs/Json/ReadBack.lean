import Mathlib
import Stencil.Json.Reader
import Stencil.Json.Writer
import Stencil.Proofs.Decimal.ReadBack
import Stencil.Proofs.Text.Runs

/-!
# JSON texts read back

`Json.read_chars` says that the text of a tree reads back as that tree, whatever its strings hold
and however deep it nests. The tree may hold no garbled string, and its numerals must be such as
numbers are written with; `Json.IsWritten` says so. The text is first cut into the tokens it was put
together from (`tokens_chars`), and the tokens of a value then lead the reader of trees from before
the value to behind it (`readValue_tokenRow`).
-/

namespace Stencil.Json

open Decimal

/-! ## Strings -/

theorem hexValue_hexDigit : ∀ n < 16, hexValue (hexDigit n) = some n := by
  decide

theorem hexDigit_ne_feed {n : Nat} (h : n < 16) : '\n' ≠ hexDigit n := by
  intro heq
  have hvalue := hexValue_hexDigit n h
  rw [← heq, show hexValue '\n' = none by decide] at hvalue
  cases hvalue

/-- A written string stands on one line. -/
theorem not_mem_stringChars (text : List Char) : '\n' ∉ stringChars text := by
  have hchar : ∀ c, '\n' ∉ escapeChar c := by
    intro c
    unfold escapeChar
    split
    case h_8 hfeed _ _ =>
      split
      · next hlow =>
        have hhigh := hexDigit_ne_feed (show c.toNat / 16 < 16 by omega)
        have hrest := hexDigit_ne_feed (show c.toNat % 16 < 16 by omega)
        simp [hhigh, hrest]
      · simpa using Ne.symm hfeed
    all_goals decide
  simpa [stringChars] using fun c _ => hchar c

theorem unitOfHex_hexDigit {n : Nat} (h : n < 32) :
    unitOfHex '0' '0' (hexDigit (n / 16)) (hexDigit (n % 16)) = some (.char (Char.ofNat n)) := by
  have hzero : hexValue '0' = some 0 := by decide
  have hsum : ((0 * 16 + 0) * 16 + n / 16) * 16 + n % 16 = n := by omega
  rw [unitOfHex, hzero, hexValue_hexDigit _ (by omega), hexValue_hexDigit _ (by omega)]
  simp only [Option.bind_eq_bind, Option.bind_some, hsum]
  rw [if_neg (by omega)]

section

attribute [local simp] readString

theorem readString_escaped {c d : Char} (rest : List Char) (hu : c ≠ 'u')
    (hc : unescapeChar c = some d) :
    readString ('\\' :: c :: rest)
      = (readString rest).map fun read => (.char d :: read.1, read.2) := by
  rw [readString, hc]
  · cases readString rest <;> rfl
  · intros
    simp_all

theorem readString_plain {c : Char} (rest : List Char) (hquote : c ≠ '"') (hescape : c ≠ '\\')
    (hlow : ¬ c.toNat < 32) :
    readString (c :: rest) = (readString rest).map fun read => (.char c :: read.1, read.2) := by
  rw [readString, if_neg (by simp [hescape, hlow])]
  · cases readString rest <;> rfl
  all_goals simp_all

/-- What one character is written as reads back as that character. -/
theorem readString_escapeChar (c : Char) (rest : List Char) :
    readString (escapeChar c ++ rest)
      = (readString rest).map fun read => (.char c :: read.1, read.2) := by
  unfold escapeChar
  split
  case h_8 c hquote hescape _ _ _ _ _ =>
    split
    · next hlow =>
      simp only [List.cons_append, List.nil_append, readString, unitOfHex_hexDigit hlow,
        Char.ofNat_toNat]
      cases readString rest <;> rfl
    · next hlow => exact readString_plain rest hquote hescape hlow
  all_goals exact readString_escaped rest (by decide) rfl

/-- A written string reads back, and what follows its closing quote is left. -/
theorem readString_flatMap_escapeChar (text rest : List Char) :
    readString (text.flatMap escapeChar ++ '"' :: rest) = some (text.map .char, rest) := by
  induction text with
  | nil => simp
  | cons c text ih =>
    rw [List.flatMap_cons, List.append_assoc, readString_escapeChar, ih]
    rfl

end

theorem textOfUnits_map_char (text : List Char) : textOfUnits (text.map .char) = some text := by
  induction text with
  | nil => rfl
  | cons c text ih =>
    rw [List.map_cons, textOfUnits, ih]
    rfl

/-! ## Numerals -/

/-- Whether a numeral ends where the given text follows it. -/
def EndsNumeral (rest : List Char) : Prop :=
  ∀ c ∈ rest.head?, c.isDigit = false ∧ c ≠ '.' ∧ c ≠ 'e' ∧ c ≠ 'E'

theorem spanDigits_append {digits rest : List Char} (hdigits : ∀ c ∈ digits, c.isDigit = true)
    (hrest : ∀ c ∈ rest.head?, c.isDigit = false) :
    spanDigits (digits ++ rest) = (digits, rest) := by
  rw [spanDigits, Text.takeWhile_run hdigits hrest, Text.dropWhile_run hdigits hrest]

/-- The characters of a written exponent read back. -/
theorem readExponent_exponentChars (e : Int) {rest : List Char} (hrest : EndsNumeral rest) :
    readExponent (exponentChars true e ++ rest) = some (some e, rest) := by
  have hspan : spanDigits (digitsOf e.natAbs ++ rest) = (digitsOf e.natAbs, rest) :=
    spanDigits_append (fun c => isDigit_of_mem_digitsOf) fun c hc => (hrest c hc).1
  have hsize : ((ofDigits (digitsOf e.natAbs) : Nat) : Int) = e.natAbs := by
    rw [ofDigits_digitsOf]
  have hne : (digitsOf e.natAbs).isEmpty = false := by
    simpa using digitsOf_ne_nil e.natAbs
  by_cases he : e < 0
  · simp only [exponentChars, if_pos he, List.cons_append, List.nil_append, readExponent,
      readExponentDigits, hspan, hne, Bool.false_eq_true, if_false, if_true, hsize]
    congr 3
    omega
  · simp only [exponentChars, if_neg he, if_true, List.cons_append, List.nil_append, readExponent,
      readExponentDigits, hspan, hne, Bool.false_eq_true, if_false, hsize]
    congr 3
    omega

theorem readExponent_of_endsNumeral {rest : List Char} (hrest : EndsNumeral rest) :
    readExponent rest = some (none, rest) := by
  cases rest with
  | nil => rfl
  | cons c rest =>
    obtain ⟨-, -, he, hE⟩ := hrest c rfl
    unfold readExponent
    split <;> simp_all

/-- The characters of an exponent, if there is one, read back. -/
theorem readExponent_getD (exponent : Option Int) {rest : List Char} (hrest : EndsNumeral rest) :
    readExponent ((exponent.map (exponentChars true)).getD [] ++ rest) = some (exponent, rest) := by
  cases exponent with
  | none => exact readExponent_of_endsNumeral hrest
  | some e => exact readExponent_exponentChars e hrest

theorem head?_exponent (exponent : Option Int) {rest : List Char} (hrest : EndsNumeral rest) :
    ∀ c ∈ ((exponent.map (exponentChars true)).getD [] ++ rest).head?,
      c.isDigit = false ∧ c ≠ '.' := by
  intro c hc
  cases exponent with
  | none => exact ⟨(hrest c hc).1, (hrest c hc).2.1⟩
  | some e =>
    obtain rfl : 'e' = c := by simpa [exponentChars] using hc
    decide

theorem readFraction_append {fraction rest : List Char} (h : ∀ c ∈ fraction, c.isDigit = true)
    (hrest : ∀ c ∈ rest.head?, c.isDigit = false ∧ c ≠ '.') :
    readFraction ((if fraction.isEmpty then [] else '.' :: fraction) ++ rest)
      = some (fraction, rest) := by
  have hspan := spanDigits_append h fun c hc => (hrest c hc).1
  cases fraction with
  | nil =>
    cases rest with
    | nil => rfl
    | cons c rest =>
      have hpoint := (hrest c rfl).2
      unfold readFraction
      split <;> simp_all
  | cons d fraction =>
    simp only [List.isEmpty_cons, Bool.false_eq_true, if_false, List.cons_append, readFraction]
    rw [← List.cons_append, hspan]
    rfl

/-- The characters of a numeral read back as the numeral. -/
theorem readUnsigned_chars {n : Numeral} (h : n.IsWritten) {rest : List Char}
    (hrest : EndsNumeral rest) :
    readUnsigned n.negative (n.whole ++ ((if n.fraction.isEmpty then [] else '.' :: n.fraction)
      ++ ((n.exponent.map (exponentChars true)).getD [] ++ rest))) = some (n, rest) := by
  have hhead := head?_exponent n.exponent hrest
  have hfraction := readFraction_append h.isDigit_fraction hhead
  have hfirst : ∀ c ∈ ((if n.fraction.isEmpty then [] else '.' :: n.fraction)
      ++ ((n.exponent.map (exponentChars true)).getD [] ++ rest)).head?, c.isDigit = false := by
    intro c hc
    by_cases hempty : n.fraction.isEmpty = true
    · rw [if_pos hempty] at hc
      exact (hhead c hc).1
    · rw [if_neg hempty] at hc
      obtain rfl : '.' = c := by simpa using hc
      decide
  have hspan := spanDigits_append h.isDigit_whole hfirst
  have hwhole :
      (n.whole.isEmpty || (n.whole.head? == some '0' && n.whole.length != 1)) = false := by
    have hne := h.whole_ne_nil
    have hlength := h.length_whole
    by_cases hzero : n.whole.head? = some '0'
    · simp [hne, hlength hzero]
    · simp [hne, hzero]
  simp only [readUnsigned, hspan, hwhole, Bool.false_eq_true, if_false, hfraction,
    readExponent_getD n.exponent hrest, Option.bind_eq_bind, Option.bind_some]

theorem readNumeral_chars {n : Numeral} (h : n.IsWritten) {rest : List Char}
    (hrest : EndsNumeral rest) : readNumeral (n.chars true ++ rest) = some (n, rest) := by
  have hread := readUnsigned_chars h hrest
  cases hsign : n.negative with
  | true =>
    simp only [Numeral.chars, hsign, if_true, List.append_assoc, List.cons_append, List.nil_append,
      readNumeral]
    rwa [hsign] at hread
  | false =>
    simp only [Numeral.chars, hsign, Bool.false_eq_true, if_false, List.append_assoc,
      List.nil_append]
    rw [hsign] at hread
    rw [← hread]
    obtain ⟨d, digits, hwhole⟩ := List.exists_cons_of_ne_nil h.whole_ne_nil
    have hd := h.isDigit_whole d (by simp [hwhole])
    rw [hwhole]
    unfold readNumeral
    split
    · next heq =>
      have := (List.cons.inj heq).1
      subst this
      exact absurd hd (by decide)
    · rfl

/-! ## Tokens -/

/-- Whether a tree can be written: it holds no garbled string, and its numerals can be written. -/
inductive IsWritten : Json → Prop
  | null : IsWritten .null
  | bool (value : Bool) : IsWritten (.bool value)
  | number {n : Numeral} (h : n.IsWritten) : IsWritten (.number n)
  | string (text : String) : IsWritten (.string text)
  | array {items : List Json} (h : ∀ item ∈ items, IsWritten item) : IsWritten (.array items)
  | object {members : List (String × Json)} (h : ∀ member ∈ members, IsWritten member.2) :
      IsWritten (.object members)

mutual

/-- The tokens that the text of a tree is put together from. -/
def tokenRow : Json → List Token
  | .null => [.null]
  | .bool value => [.bool value]
  | .number n => [.number n]
  | .string text => [.string (some text)]
  | .array [] => [.openArray, .closeArray]
  | .array (item :: items) => .openArray :: (tokenRow item ++ itemRow items)
  | .object [] => [.openObject, .closeObject]
  | .object ((name, value) :: members) =>
    .openObject :: .string (some name) :: .colon :: (tokenRow value ++ memberRow members)
  | .garbled => [.string none]

/-- The tokens of the items after the first one, up to the end of the array. -/
def itemRow : List Json → List Token
  | [] => [.closeArray]
  | item :: items => .comma :: (tokenRow item ++ itemRow items)

/-- The tokens of the members after the first one, up to the end of the object. -/
def memberRow : List (String × Json) → List Token
  | [] => [.closeObject]
  | (name, value) :: members =>
    .comma :: .string (some name) :: .colon :: (tokenRow value ++ memberRow members)

end

theorem tokens_cons {c : Char} {rest after : List Char} {t : Token} (hspace : isSpace c = false)
    (h : readToken (c :: rest) = some (t, after)) :
    tokens (c :: rest) = (tokens after).map (t :: ·) := by
  rw [tokens, hspace]
  simp only [Bool.false_eq_true, if_false]
  split
  · next hnone => rw [h] at hnone; cases hnone
  · next t' after' hsome =>
    rw [h] at hsome
    obtain ⟨rfl, rfl⟩ := Prod.mk.inj (Option.some.inj hsome)
    rfl

/-- A mark is no space and opens no string. -/
theorem ofMark?_eq_some {c : Char} {mark : Token} (h : Token.ofMark? c = some mark) :
    isSpace c = false ∧ c ≠ '"' := by
  unfold Token.ofMark? at h
  split at h
  case h_7 => cases h
  all_goals decide

theorem tokens_mark {c : Char} {mark : Token} (rest : List Char) (h : Token.ofMark? c = some mark) :
    tokens (c :: rest) = (tokens rest).map (mark :: ·) := by
  obtain ⟨hspace, hquote⟩ := ofMark?_eq_some h
  apply tokens_cons hspace
  rw [readToken, h]
  exact hquote

theorem tokens_stringChars (text : String) (rest : List Char) :
    tokens (stringChars text.toList ++ rest)
      = (tokens rest).map (.string (some text) :: ·) := by
  rw [stringChars, List.cons_append]
  apply tokens_cons (by decide)
  rw [List.append_assoc, List.singleton_append, readToken, readString_flatMap_escapeChar]
  simp [textOfUnits_map_char]

/-- A numeral starts with a digit or a minus sign. -/
theorem exists_chars_eq {n : Numeral} (h : n.IsWritten) :
    ∃ c tail, n.chars true = c :: tail ∧ (c.isDigit = true ∨ c = '-') := by
  rw [Numeral.chars]
  cases n.negative with
  | true => exact ⟨'-', _, rfl, Or.inr rfl⟩
  | false =>
    obtain ⟨d, digits, hwhole⟩ := List.exists_cons_of_ne_nil h.whole_ne_nil
    rw [hwhole]
    exact ⟨d, _, rfl, Or.inl (h.isDigit_whole d (by simp [hwhole]))⟩

theorem tokens_numeral {n : Numeral} (h : n.IsWritten) {rest : List Char}
    (hrest : EndsNumeral rest) :
    tokens (n.chars true ++ rest) = (tokens rest).map (.number n :: ·) := by
  have hread := readNumeral_chars h hrest
  obtain ⟨c, tail, hchars, hc⟩ := exists_chars_eq h
  rw [hchars, List.cons_append] at hread ⊢
  -- The first character is none of those that start another token.
  have hnot : ∀ m : Char, (m.isDigit || m == '-') = false → c ≠ m := by
    rintro m hm rfl
    rw [Bool.or_eq_false_iff, beq_eq_false_iff_ne] at hm
    rcases hc with hc | hc
    · exact Bool.false_ne_true (hm.1.symm.trans hc)
    · exact hm.2 hc
  have hspace : isSpace c = false := by
    simp [isSpace, hnot ' ' rfl, hnot '\t' rfl, hnot '\n' rfl, hnot '\r' rfl]
  have hmark : Token.ofMark? c = none := by
    unfold Token.ofMark?
    split <;> first | rfl | exact absurd rfl (hnot _ rfl)
  have hword : readWord (c :: (tail ++ rest)) = none := by
    unfold readWord
    split
    case h_4 => rfl
    all_goals
      next heq => exact absurd (List.cons.inj heq).1 (hnot _ rfl)
  apply tokens_cons hspace
  rw [readToken, hmark, hword, hread]
  · rfl
  · exact hnot '"' rfl

theorem endsNumeral_itemChars (items : List Json) (rest : List Char) :
    EndsNumeral (itemChars items ++ rest) := by
  intro c hc
  cases items <;> simp only [itemChars, List.cons_append, List.head?_cons, Option.mem_def,
    Option.some.injEq] at hc <;> subst hc <;> decide

theorem endsNumeral_memberChars (members : List (String × Json)) (rest : List Char) :
    EndsNumeral (memberChars members ++ rest) := by
  intro c hc
  cases members <;> simp only [memberChars, List.cons_append, List.head?_cons, Option.mem_def,
    Option.some.injEq] at hc <;> subst hc <;> decide

/-- Whether the text of a tree is cut into its tokens, whatever follows it. -/
def CutsBack (json : Json) : Prop :=
  ∀ rest, EndsNumeral rest →
    tokens (json.chars ++ rest) = (tokens rest).map (json.tokenRow ++ ·)

theorem tokens_itemChars {items : List Json} (h : ∀ item ∈ items, CutsBack item)
    (rest : List Char) :
    tokens (itemChars items ++ rest) = (tokens rest).map (itemRow items ++ ·) := by
  induction items with
  | nil => exact tokens_mark rest rfl
  | cons item items ih =>
    rw [List.forall_mem_cons] at h
    rw [itemChars, List.cons_append, tokens_mark _ rfl, List.append_assoc,
      h.1 _ (endsNumeral_itemChars items rest), ih h.2]
    simp [itemRow, Option.map_map, Function.comp_def]

theorem tokens_memberChars {members : List (String × Json)}
    (h : ∀ member ∈ members, CutsBack member.2) (rest : List Char) :
    tokens (memberChars members ++ rest) = (tokens rest).map (memberRow members ++ ·) := by
  induction members with
  | nil => exact tokens_mark rest rfl
  | cons member members ih =>
    rw [List.forall_mem_cons] at h
    rw [memberChars, List.cons_append, tokens_mark _ rfl, List.append_assoc, tokens_stringChars,
      List.cons_append, tokens_mark _ rfl, List.append_assoc,
      h.1 _ (endsNumeral_memberChars members rest), ih h.2]
    simp [memberRow, Option.map_map, Function.comp_def]

/-- The text of a tree is cut into the tokens it was put together from. -/
theorem tokens_chars {json : Json} (h : json.IsWritten) : CutsBack json := by
  induction h with
  | null =>
    intro rest _
    exact tokens_cons rfl rfl
  | bool value =>
    intro rest _
    cases value with
    | true => exact tokens_cons rfl rfl
    | false => exact tokens_cons rfl rfl
  | number hn =>
    intro rest hrest
    exact tokens_numeral hn hrest
  | string text =>
    intro rest _
    exact tokens_stringChars text rest
  | @array items _ ih =>
    intro rest _
    cases items with
    | nil =>
      rw [chars, List.cons_append, tokens_mark _ rfl, List.cons_append, tokens_mark _ rfl]
      simp [tokenRow, Option.map_map, Function.comp_def]
    | cons item items =>
      rw [List.forall_mem_cons] at ih
      rw [chars, List.cons_append, tokens_mark _ rfl, List.append_assoc,
        ih.1 _ (endsNumeral_itemChars items rest), tokens_itemChars ih.2]
      simp [tokenRow, Option.map_map, Function.comp_def]
  | @object members _ ih =>
    intro rest _
    cases members with
    | nil =>
      rw [chars, List.cons_append, tokens_mark _ rfl, List.cons_append, tokens_mark _ rfl]
      simp [tokenRow, Option.map_map, Function.comp_def]
    | cons member members =>
      rw [List.forall_mem_cons] at ih
      rw [chars, List.cons_append, tokens_mark _ rfl, List.append_assoc, tokens_stringChars,
        List.cons_append, tokens_mark _ rfl, List.append_assoc,
        ih.1 _ (endsNumeral_memberChars members rest), tokens_memberChars ih.2]
      simp [tokenRow, Option.map_map, Function.comp_def]

/-! ## Trees -/

/-- The tokens of a value start with none that closes an array or an object. -/
theorem exists_tokenRow_eq (json : Json) :
    ∃ t tail, json.tokenRow = t :: tail ∧ t ≠ .closeArray ∧ t ≠ .closeObject := by
  rcases json with _ | _ | _ | _ | (_ | _) | (_ | ⟨⟨_, _⟩, _⟩) | _ <;>
    exact ⟨_, _, rfl, by simp, by simp⟩

/-- An item is never taken for the name of a member. -/
theorem tokenRow_append_itemRow_ne (item : Json) (items : List Json) (name : Option String)
    (ts rest : List Token) :
    item.tokenRow ++ (itemRow items ++ ts) ≠ .string name :: .colon :: rest := by
  rcases item with _ | _ | _ | _ | (_ | _) | (_ | ⟨⟨_, _⟩, _⟩) | _ <;> cases items <;>
    simp [tokenRow, itemRow]

theorem readValue_openArray (frames : List Frame) (item : Json) (ts : List Token) :
    readValue frames (.openArray :: (item.tokenRow ++ ts))
      = readValue (.array [] :: frames) (item.tokenRow ++ ts) := by
  obtain ⟨t, tail, htail, hclose, -⟩ := exists_tokenRow_eq item
  rw [htail, List.cons_append, readValue]
  rintro rest heq
  exact hclose (List.cons.inj heq).1

theorem readNext_comma (frames : List Frame) (seen : List Json) (value item : Json)
    (items : List Json) (ts : List Token) :
    readNext (.array seen :: frames) value (.comma :: (item.tokenRow ++ (itemRow items ++ ts)))
      = readValue (.array (value :: seen) :: frames) (item.tokenRow ++ (itemRow items ++ ts)) := by
  rw [readNext]
  intro name rest
  exact tokenRow_append_itemRow_ne item items name ts rest

theorem ofMembers_named (members : List (String × Json)) :
    ofMembers (members.map fun member => (some member.1, member.2)) = .object members := by
  have hnamed : (members.map fun member => (some member.1, member.2)).mapM
      (fun member : Option String × Json => member.1.map (·, member.2)) = some members := by
    induction members with
    | nil => rfl
    | cons member members ih => simp [ih]
  rw [ofMembers, hnamed]
  rfl

/-- Whether the tokens of a value lead the reader from before the value to behind it. -/
def ReadsBack (json : Json) : Prop :=
  ∀ frames ts, readValue frames (json.tokenRow ++ ts) = readNext frames json ts

/-- The tokens behind the first item of an array close the array over all its items. -/
theorem readNext_itemRow {items : List Json} (hitems : ∀ item ∈ items, ReadsBack item)
    (frames : List Frame) (seen : List Json) (value : Json) (ts : List Token) :
    readNext (.array seen :: frames) value (itemRow items ++ ts)
      = readNext frames (.array (seen.reverse ++ value :: items)) ts := by
  -- `seen` holds the items in reverse, so it grows at its head while the row gets shorter.
  induction items generalizing seen value with
  | nil => rw [itemRow, List.singleton_append, readNext, List.reverse_cons]
  | cons item items ih =>
    rw [List.forall_mem_cons] at hitems
    rw [itemRow, List.cons_append, List.append_assoc, readNext_comma, hitems.1, ih hitems.2]
    simp

/-- The tokens behind the first value of an object close the object over all its members. -/
theorem readNext_memberRow {members : List (String × Json)}
    (hmembers : ∀ member ∈ members, ReadsBack member.2) (frames : List Frame)
    (seen : List (String × Json)) (name : String) (value : Json) (ts : List Token) :
    readNext (.object (seen.map fun member => (some member.1, member.2)) (some name) :: frames)
        value (memberRow members ++ ts)
      = readNext frames (.object (seen.reverse ++ (name, value) :: members)) ts := by
  induction members generalizing seen name value with
  | nil =>
    have hmap : (some name, value) :: seen.map (fun member => (some member.1, member.2))
        = ((name, value) :: seen).map fun member => (some member.1, member.2) := rfl
    rw [memberRow, List.singleton_append, readNext, hmap, ← List.map_reverse, ofMembers_named,
      List.reverse_cons]
  | cons member members ih =>
    have hmap : (some name, value) :: seen.map (fun member => (some member.1, member.2))
        = ((name, value) :: seen).map fun member => (some member.1, member.2) := rfl
    rw [List.forall_mem_cons] at hmembers
    rw [memberRow, List.cons_append, List.cons_append, List.cons_append, List.append_assoc,
      readNext, hmap, hmembers.1, ih hmembers.2]
    simp

/-- The tokens of a tree read back as the tree, within any open arrays and objects. -/
theorem readValue_tokenRow {json : Json} (h : json.IsWritten) : ReadsBack json := by
  induction h with
  | null | bool | number | string =>
    intro frames ts
    rw [tokenRow, List.singleton_append, readValue]
  | @array items _ ih =>
    intro frames ts
    cases items with
    | nil => rw [tokenRow, List.cons_append, List.singleton_append, readValue]
    | cons item items =>
      rw [List.forall_mem_cons] at ih
      rw [tokenRow, List.cons_append, List.append_assoc, readValue_openArray, ih.1,
        readNext_itemRow ih.2]
      rfl
  | @object members _ ih =>
    intro frames ts
    cases members with
    | nil => rw [tokenRow, List.cons_append, List.singleton_append, readValue]
    | cons member members =>
      rw [List.forall_mem_cons] at ih
      have hmembers := readNext_memberRow ih.2 frames [] member.1 member.2 ts
      rw [tokenRow, List.cons_append, List.cons_append, List.cons_append, List.append_assoc,
        readValue, ih.1]
      exact hmembers

/-- The text of a tree reads back as the tree. -/
theorem read_chars {json : Json} (h : json.IsWritten) : read json.chars = some json := by
  have htokens := tokens_chars h [] fun c hc => nomatch hc
  have hvalue := readValue_tokenRow h [] []
  simp only [List.append_nil, tokens, Option.map_some] at htokens hvalue
  rw [read, htokens, Option.bind_some, hvalue, readNext]
  rfl

end Stencil.Json
