import Mathlib
import Stencil.Decimal.Shortest

/-!
# Doubles read back from their numerals

A double is written with the shortest decimal that reads back as it, without the zeros at the end of
that decimal, and with or without an exponent. `Double.ofNumeral?_numeral` shows that none of this
changes the number: reading depends on the ratio that a decimal stands for (`nearestUnits_mul`), so
zeros may move between the coefficient and the exponent (`toUnits?_mul_pow`).
-/

namespace Stencil.Decimal

/-! ## Digits -/

@[simp] theorem ofDigits_digitsOf (n : Nat) : ofDigits (digitsOf n) = n :=
  Nat.ofDigitChars_ten_toDigits

theorem ofDigits_append_zeros (digits : List Char) (k : Nat) :
    ofDigits (digits ++ List.replicate k '0') = ofDigits digits * 10 ^ k := by
  rw [ofDigits, Nat.ofDigitChars_append, Nat.ofDigitChars_replicate_zero, Nat.mul_comm]
  rfl

theorem ofDigits_zeros_append (digits : List Char) (k : Nat) :
    ofDigits (List.replicate k '0' ++ digits) = ofDigits digits := by
  rw [ofDigits, Nat.ofDigitChars_append, Nat.ofDigitChars_replicate_zero, Nat.mul_zero]
  rfl

theorem digitsOf_ne_nil (n : Nat) : digitsOf n ≠ [] :=
  Nat.toDigits_ne_nil

theorem isDigit_of_mem_digitsOf {n : Nat} {c : Char} (h : c ∈ digitsOf n) : c.isDigit = true :=
  Nat.isDigit_of_mem_toDigits (by decide) (by decide) h

theorem digitsOf_mul_ten {n : Nat} (h : n ≠ 0) : digitsOf (n * 10) = digitsOf n ++ ['0'] := by
  have := Nat.toDigits_append_toDigits (b := 10) (d := 0) (by decide) (Nat.pos_of_ne_zero h)
    (by decide)
  rw [digitsOf, digitsOf, Nat.mul_comm, ← Nat.add_zero (10 * n), ← this, Nat.toDigits_zero]

/-- The first digit of a number is a zero only when the number is. -/
theorem head?_digitsOf {n : Nat} (h : n ≠ 0) : (digitsOf n).head? ≠ some '0' := by
  induction n using Nat.strong_induction_on with
  | _ n ih =>
    by_cases hn : n < 10
    · rw [digitsOf, Nat.toDigits_of_lt_base hn]
      interval_cases n <;> first | exact absurd rfl h | decide
    · have hdiv : n / 10 ≠ 0 := by omega
      have hsplit := Nat.toDigits_append_toDigits (b := 10) (d := n % 10) (by decide)
        (Nat.pos_of_ne_zero hdiv) (by omega)
      rw [Nat.div_add_mod] at hsplit
      rw [digitsOf, ← hsplit, List.head?_append_of_ne_nil _ Nat.toDigits_ne_nil]
      exact ih (n / 10) (by omega) hdiv

/-- Dropping the zeros at the end of a number's digits leaves zeros only. -/
theorem exists_digitsOf_eq (n : Nat) :
    ∃ k, digitsOf n = significantDigits n ++ List.replicate k '0' := by
  refine ⟨((digitsOf n).reverse.takeWhile (· == '0')).length, ?_⟩
  have hzeros : (digitsOf n).reverse.takeWhile (· == '0')
      = List.replicate ((digitsOf n).reverse.takeWhile (· == '0')).length '0' :=
    List.eq_replicate_of_mem fun c hc => by simpa using List.mem_takeWhile_imp hc
  rw [significantDigits, ← List.reverse_replicate, ← hzeros, ← List.reverse_append,
    List.takeWhile_append_dropWhile, List.reverse_reverse]

/-! ## Rounding depends on the ratio only -/

theorem roundHalfEven_mul {n d k : Nat} (hk : 0 < k) :
    roundHalfEven (n * k) (d * k) = roundHalfEven n d := by
  have hlt : 2 * (n % d * k) < d * k ↔ 2 * (n % d) < d := by
    rw [← Nat.mul_assoc]
    exact Nat.mul_lt_mul_right hk
  have heq : (2 * (n % d * k) == d * k) = (2 * (n % d) == d) := by
    rw [← Nat.mul_assoc, Bool.eq_iff_iff, beq_iff_eq, beq_iff_eq]
    exact Nat.mul_left_inj (Nat.pos_iff_ne_zero.mp hk)
  simp only [roundHalfEven, Nat.mul_div_mul_right _ _ hk, Nat.mul_mod_mul_right, hlt, heq]

theorem nearestUnits_mul {n d k : Nat} (hk : 0 < k) :
    nearestUnits (n * k) (d * k) = nearestUnits n d := by
  rw [nearestUnits, nearestUnits, Nat.mul_div_mul_right _ _ hk, Nat.mul_right_comm,
    roundHalfEven_mul hk]

/-- A zero at the end of the coefficient counts like one in the exponent. -/
theorem nearestUnits_fraction_mul_ten (c : Nat) (e : Int) :
    nearestUnits (Magnitude.fraction ⟨c * 10, e⟩).1 (Magnitude.fraction ⟨c * 10, e⟩).2
      = nearestUnits (Magnitude.fraction ⟨c, e + 1⟩).1 (Magnitude.fraction ⟨c, e + 1⟩).2 := by
  match e with
  | .ofNat e =>
    have hsucc : (Int.ofNat e + 1) = Int.ofNat (e + 1) := rfl
    rw [hsucc]
    simp only [Magnitude.fraction, Nat.pow_eq]
    rw [pow_succ, Nat.mul_assoc c 10, Nat.mul_comm 10]
  | .negSucc 0 =>
    have hsucc : Int.negSucc 0 + 1 = Int.ofNat 0 := rfl
    rw [hsucc]
    simp only [Magnitude.fraction, Nat.pow_eq, zero_add, pow_one, pow_zero, mul_one]
    rw [Nat.mul_right_comm]
    simpa using nearestUnits_mul (n := c * one) (d := 1) (k := 10) (by decide)
  | .negSucc (e + 1) =>
    have hsucc : Int.negSucc (e + 1) + 1 = Int.negSucc e := rfl
    rw [hsucc]
    simp only [Magnitude.fraction, Nat.pow_eq]
    rw [Nat.mul_right_comm, pow_succ 10 (e + 1)]
    exact nearestUnits_mul (by decide)

theorem toUnits?_zero (e : Int) : Magnitude.toUnits? ⟨0, e⟩ = some 0 := by
  simp [Magnitude.toUnits?]

theorem toUnits?_mul_ten (c : Nat) (e : Int) :
    Magnitude.toUnits? ⟨c * 10, e⟩ = Magnitude.toUnits? ⟨c, e + 1⟩ := by
  by_cases hc : c = 0
  · simp [Magnitude.toUnits?, hc]
  · have hlen : ((digitsOf (c * 10)).length : Int) + e = (digitsOf c).length + (e + 1) := by
      rw [digitsOf_mul_ten hc, List.length_append, List.length_singleton]
      omega
    have hzero : (c * 10 = 0) = (c = 0) := by simp
    simp only [Magnitude.toUnits?, hlen, hzero, nearestUnits_fraction_mul_ten]

/-- Zeros at the end of the coefficient count like tens in the exponent. -/
theorem toUnits?_mul_pow (c k : Nat) (e : Int) :
    Magnitude.toUnits? ⟨c * 10 ^ k, e⟩ = Magnitude.toUnits? ⟨c, e + k⟩ := by
  induction k generalizing e with
  | zero => simp
  | succ k ih =>
    rw [pow_succ, ← Nat.mul_assoc, toUnits?_mul_ten, ih]
    congr 2
    omega

/-! ## The shortest decimal reads back -/

theorem toUnits?_of_onGrid {tiesUp : Bool} {units : Nat} {p : Int} {x : Magnitude}
    (h : onGrid tiesUp units p = some x) : x.toUnits? = some units := by
  simp only [onGrid] at h
  split at h
  case h_1 hlow _ =>
    rw [← Option.some.inj h]
    simpa [readsBack] using hlow
  case h_2 _ hhigh =>
    rw [← Option.some.inj h]
    simpa [readsBack] using hhigh
  case h_3 hlow hhigh =>
    simp only [readsBack, beq_iff_eq] at hlow hhigh
    split at h
    · rwa [← Option.some.inj h]
    · split at h
      · rwa [← Option.some.inj h]
      · split at h <;> rwa [← Option.some.inj h]
  case h_4 => simp at h

/-- A size that a double can have is nearest to itself. -/
theorem nearestUnits_one {units : Nat} (h : Representable units) :
    nearestUnits units 1 = units := by
  have hpos : 0 < spacing units := Nat.pos_of_ne_zero fun hzero => by
    simp [spacing] at hzero
  have hmod : units % spacing units = 0 := h.1
  have hround : roundHalfEven units (spacing units) = units / spacing units := by
    simp only [roundHalfEven, hmod, Nat.mul_zero]
    simp [hpos]
  rw [nearestUnits, Nat.div_one, Nat.one_mul, hround]
  exact Nat.div_mul_cancel (Nat.dvd_of_mod_eq_zero hmod)

private theorem natPow_pos {b : Nat} (h : 0 < b) (n : Nat) : 0 < Nat.pow b n :=
  Nat.pow_pos h

private theorem natPow_five_mul_two (n : Nat) : Nat.pow 5 n * Nat.pow 2 n = Nat.pow 10 n :=
  (Nat.mul_pow 5 2 n).symm

private theorem nearestUnits_expansion {units n : Nat} (h : Representable units)
    (hone : one = Nat.pow 2 n) :
    nearestUnits (units * Nat.pow 5 n * one) (Nat.pow 10 n) = units := by
  have hscale := nearestUnits_mul (n := units) (d := 1) (natPow_pos (b := 10) (by decide) n)
  rw [hone, Nat.mul_assoc, natPow_five_mul_two, ← Nat.one_mul (Nat.pow 10 n), ← Nat.mul_assoc,
    Nat.mul_one, hscale, nearestUnits_one h]

/-- A product has more than `low` and at most `high` digits when its factors are in these bounds. -/
private theorem length_digitsOf_mul {a b bound low high : Nat} (ha : a ≠ 0) (hbound : a < bound)
    (hlow : Nat.pow 10 low ≤ b) (hhigh : bound * b ≤ Nat.pow 10 high) (hl : 0 < low)
    (hh : 0 < high) :
    low < (digitsOf (a * b)).length ∧ (digitsOf (a * b)).length ≤ high := by
  have hb : 0 < b := (natPow_pos (by decide) _).trans_le hlow
  constructor
  · by_contra hlen
    have hlt := (Nat.length_toDigits_le_iff (by decide) hl).mp (Nat.le_of_not_lt hlen)
    exact absurd (hlow.trans (Nat.le_mul_of_pos_left b (Nat.pos_of_ne_zero ha)))
      (Nat.not_le.mpr hlt)
  · exact (Nat.length_toDigits_le_iff (by decide) hh).mpr
      ((Nat.mul_lt_mul_of_pos_right hbound hb).trans_le hhigh)

private theorem one_eq_pow : one = Nat.pow 2 1074 := by
  decide +kernel

private theorem exists_ten_pow_le : ∃ low, 743 ≤ low ∧ Nat.pow 10 low ≤ Nat.pow 5 1074 :=
  ⟨743, by decide, by decide +kernel⟩

private theorem exists_le_ten_pow :
    ∃ high, 0 < high ∧ high ≤ 1384 ∧ Nat.pow 2 2098 * Nat.pow 5 1074 ≤ Nat.pow 10 high :=
  ⟨1384, by decide, by decide, by decide +kernel⟩

/-- Every size reads back from its own expansion. -/
theorem toUnits?_expansion {units : Nat} (h : Representable units) (hne : units ≠ 0) :
    Magnitude.toUnits? ⟨units * Nat.pow 5 1074, -1074⟩ = some units := by
  have hexponent : (-1074 : Int) = Int.negSucc 1073 := rfl
  have hpow := natPow_pos (b := 5) (by decide) 1074
  have hratio := nearestUnits_expansion h one_eq_pow
  have hbound := h.2
  obtain ⟨low, hlow, hfive⟩ := exists_ten_pow_le
  obtain ⟨high, hpos, hhigh, hten⟩ := exists_le_ten_pow
  -- The powers stay names from here on, so that nothing tries to work them out.
  generalize Nat.pow 5 1074 = five at hpow hratio hfive hten ⊢
  generalize Nat.pow 2 2098 = bound at hbound hten
  obtain ⟨hfew, hmany⟩ := length_digitsOf_mul hne hbound hfive hten (by omega) hpos
  simp only [Magnitude.toUnits?, if_neg (Nat.mul_ne_zero hne hpow.ne')]
  rw [if_neg (by omega), if_neg (by omega)]
  simp only [hexponent, Magnitude.fraction]
  rw [hratio]

/-- The shortest decimal of a size that is not zero reads back as that size. -/
theorem toUnits?_shortest (tiesUp : Bool) {units : Nat} (h : Representable units)
    (hne : units ≠ 0) : (shortest tiesUp units).toUnits? = some units := by
  rw [shortest]
  cases hfound : (List.range 17).findSome? fun (n : Nat) =>
      onGrid tiesUp units (leadingExponent units - (n : Int)) with
  | none => exact toUnits?_expansion h hne
  | some x =>
    obtain ⟨n, -, hgrid⟩ := List.exists_of_findSome?_eq_some hfound
    exact toUnits?_of_onGrid hgrid

/-! ## Layout keeps the number -/

theorem toUnits?_plainNumeral (negative : Bool) {digits : List Char} (first : Int) :
    (plainNumeral negative digits first).magnitude.toUnits?
      = Magnitude.toUnits? ⟨ofDigits digits, first + 1 - digits.length⟩ := by
  match first with
  | .ofNat e =>
    by_cases hlen : digits.length ≤ e + 1
    · -- All digits stand before the point, with `e + 1 - digits.length` zeros behind them.
      have hdrop : digits.drop (e + 1) = [] := List.drop_eq_nil_of_le hlen
      have htake : digits.take (e + 1) = digits := List.take_of_length_le hlen
      have hzeros : digits ++ List.replicate (e + 1 - digits.length) '0' ++ ['0']
          = digits ++ List.replicate (e + 1 - digits.length + 1) '0' := by
        rw [List.append_assoc, List.replicate_succ']
      simp only [plainNumeral, Numeral.magnitude, hdrop, htake, List.isEmpty_nil, if_true]
      rw [hzeros, ofDigits_append_zeros, toUnits?_mul_pow]
      congr 2
      simp only [Option.getD_none, List.length_singleton, Int.ofNat_eq_natCast]
      omega
    · -- The point stands between two of the digits, and no zero is added.
      have hsplit : digits.length - (e + 1) ≠ 0 := by omega
      have hzeros : e + 1 - digits.length = 0 := by omega
      have hdrop : (digits.drop (e + 1)).isEmpty = false := by
        rw [List.isEmpty_eq_false_iff, ← List.length_pos_iff, List.length_drop]
        omega
      simp only [plainNumeral, Numeral.magnitude, hdrop, hzeros, List.replicate_zero,
        List.append_nil, Bool.false_eq_true, if_false, List.take_append_drop]
      congr 2
      simp only [Option.getD_none, List.length_drop, Int.ofNat_eq_natCast]
      omega
  | .negSucc e =>
    -- All digits stand behind the point, with zeros before them.
    simp only [plainNumeral, Numeral.magnitude]
    rw [← List.append_assoc, ← List.replicate_one, List.replicate_append_replicate,
      ofDigits_zeros_append]
    congr 2
    simp only [Option.getD_none, List.length_append, List.length_replicate, Int.negSucc_eq]
    omega

theorem toUnits?_scientificNumeral (negative : Bool) {digits : List Char} (first : Int)
    (h : digits ≠ []) :
    (scientificNumeral negative digits first).magnitude.toUnits?
      = Magnitude.toUnits? ⟨ofDigits digits, first + 1 - digits.length⟩ := by
  have hlen : 0 < digits.length := List.length_pos_iff.mpr h
  simp only [scientificNumeral, Numeral.magnitude, List.take_append_drop]
  congr 2
  simp only [Option.getD_some, List.length_drop]
  omega

theorem significantDigits_ne_nil {c : Nat} (h : c ≠ 0) : significantDigits c ≠ [] := by
  intro hnil
  obtain ⟨k, hk⟩ := exists_digitsOf_eq c
  rw [hnil, List.nil_append] at hk
  apply head?_digitsOf h
  cases k with
  | zero => exact absurd hk (digitsOf_ne_nil c)
  | succ k => rw [hk, List.replicate_succ, List.head?_cons]

/-- The significant digits of a decimal number, with the exponent of the first one, denote it. -/
theorem toUnits?_significantDigits (x : Magnitude) :
    Magnitude.toUnits? ⟨ofDigits (significantDigits x.coefficient),
        x.exponent + (digitsOf x.coefficient).length - 1 + 1
          - (significantDigits x.coefficient).length⟩
      = x.toUnits? := by
  obtain ⟨k, hk⟩ := exists_digitsOf_eq x.coefficient
  have hlen := congrArg List.length hk
  rw [List.length_append, List.length_replicate] at hlen
  have hvalue : x.coefficient = ofDigits (significantDigits x.coefficient) * 10 ^ k := by
    rw [← ofDigits_append_zeros, ← hk, ofDigits_digitsOf]
  have hexponent : x.exponent + (digitsOf x.coefficient).length - 1 + 1
      - (significantDigits x.coefficient).length = x.exponent + k := by
    rw [hlen]
    omega
  rw [hexponent, ← toUnits?_mul_pow, ← hvalue]

/-- A double that is not zero is written with the significant digits of its shortest decimal, with
or without an exponent. -/
theorem Layout.numeral_eq_or (layout : Layout) {x : Double} (h : x.units ≠ 0) :
    let decimal := shortest layout.tiesUp x.units
    let digits := significantDigits decimal.coefficient
    let first := decimal.exponent + (digitsOf decimal.coefficient).length - 1
    layout.numeral x = plainNumeral x.negative digits first
      ∨ layout.numeral x = scientificNumeral x.negative digits first := by
  rw [Layout.numeral, if_neg h]
  exact ite_eq_or_eq _ _ _

theorem coefficient_shortest_ne_zero (tiesUp : Bool) {x : Double} (h : x.units ≠ 0) :
    (shortest tiesUp x.units).coefficient ≠ 0 := by
  intro hzero
  have hread := toUnits?_shortest tiesUp x.representable h
  rw [Magnitude.toUnits?, if_pos hzero] at hread
  exact h (Option.some.inj hread).symm

/-- The size of a double reads back from the numeral it is written as. -/
theorem toUnits?_numeral (layout : Layout) (x : Double) :
    (layout.numeral x).magnitude.toUnits? = some x.units := by
  by_cases hzero : x.units = 0
  · have hdigit : ofDigits ['0'] = 0 := by decide
    rw [Layout.numeral, if_pos hzero, toUnits?_plainNumeral, hdigit, toUnits?_zero, hzero]
  · have hread := toUnits?_shortest layout.tiesUp x.representable hzero
    have hdigits := significantDigits_ne_nil (coefficient_shortest_ne_zero layout.tiesUp hzero)
    rcases layout.numeral_eq_or hzero with heq | heq
    · rw [heq, toUnits?_plainNumeral, toUnits?_significantDigits, hread]
    · rw [heq, toUnits?_scientificNumeral _ _ hdigits, toUnits?_significantDigits, hread]

theorem negative_plainNumeral (negative : Bool) (digits : List Char) (first : Int) :
    (plainNumeral negative digits first).negative = negative := by
  unfold plainNumeral
  split <;> rfl

theorem negative_numeral (layout : Layout) (x : Double) :
    (layout.numeral x).negative = x.negative := by
  by_cases hzero : x.units = 0
  · rw [Layout.numeral, if_pos hzero, negative_plainNumeral]
  · rcases layout.numeral_eq_or hzero with heq | heq
    · rw [heq, negative_plainNumeral]
    · rw [heq, scientificNumeral]

/-- A double reads back from the numeral it is written as. -/
theorem Double.ofNumeral?_numeral (layout : Layout) (x : Double) :
    Double.ofNumeral? (layout.numeral x) = some x := by
  rw [Double.ofNumeral?, Double.ofMagnitude?, toUnits?_numeral, negative_numeral,
    Option.bind_eq_bind, Option.bind_some, dif_pos x.representable]

theorem isWhole_plainNumeral (negative : Bool) {digits : List Char} (first : Int)
    (hne : digits ≠ []) : (plainNumeral negative digits first).isWhole = false := by
  match first with
  | .ofNat e =>
    rw [plainNumeral, Numeral.isWhole, Option.isNone_none, Bool.and_true]
    by_cases hempty : (digits.drop (e + 1)).isEmpty = true
    · rw [if_pos hempty]
      rfl
    · rw [if_neg hempty]
      exact Bool.eq_false_of_not_eq_true hempty
  | .negSucc e =>
    rw [plainNumeral, Numeral.isWhole, Option.isNone_none, Bool.and_true,
      List.isEmpty_eq_false_iff]
    exact List.append_ne_nil_of_right_ne_nil _ hne

/-- A double is never written like a whole number. -/
theorem isWhole_numeral (layout : Layout) (x : Double) :
    (layout.numeral x).isWhole = false := by
  by_cases hzero : x.units = 0
  · rw [Layout.numeral, if_pos hzero, isWhole_plainNumeral _ _ (List.cons_ne_nil _ _)]
  · have hdigits := significantDigits_ne_nil (coefficient_shortest_ne_zero layout.tiesUp hzero)
    rcases layout.numeral_eq_or hzero with heq | heq
    · rw [heq, isWhole_plainNumeral _ _ hdigits]
    · rw [heq, scientificNumeral, Numeral.isWhole, Option.isNone_some, Bool.and_false]

/-! ## Numerals that can be written -/

/-- A numeral whose characters are digits, with no zero in front of other digits. -/
structure Numeral.IsWritten (n : Numeral) : Prop where
  /-- There is a digit before the point. -/
  whole_ne_nil : n.whole ≠ []
  /-- Before the point there are digits only. -/
  isDigit_whole : ∀ c ∈ n.whole, c.isDigit = true
  /-- A zero in front stands alone. -/
  length_whole : n.whole.head? = some '0' → n.whole.length = 1
  /-- After the point there are digits only. -/
  isDigit_fraction : ∀ c ∈ n.fraction, c.isDigit = true

theorem isWritten_ofInt (i : Int) : (Numeral.ofInt i).IsWritten where
  whole_ne_nil := digitsOf_ne_nil _
  isDigit_whole := fun _ hc => isDigit_of_mem_digitsOf hc
  length_whole := fun hhead => by
    by_cases hzero : i.natAbs = 0
    · rw [Numeral.ofInt, hzero]
      rfl
    · exact absurd hhead (head?_digitsOf hzero)
  isDigit_fraction := fun _ hc => absurd hc List.not_mem_nil

theorem isDigit_of_mem_replicate {k : Nat} {c : Char} (h : c ∈ List.replicate k '0') :
    c.isDigit = true := by
  rw [List.eq_of_mem_replicate h]
  decide

theorem isWritten_plainNumeral (negative : Bool) {digits : List Char} (first : Int)
    (hdigits : ∀ c ∈ digits, c.isDigit = true) (hne : digits ≠ [])
    (hhead : digits.head? ≠ some '0') : (plainNumeral negative digits first).IsWritten := by
  match first with
  | .ofNat e =>
    have hwhole : (digits.take (e + 1) ++ List.replicate (e + 1 - digits.length) '0').head?
        = digits.head? := by
      rw [List.head?_append_of_ne_nil _ (by simpa using hne), List.head?_take]
      simp
    constructor
    · simpa [plainNumeral] using fun h => absurd h hne
    · intro c hc
      rcases List.mem_append.mp hc with hc | hc
      · exact hdigits c (List.mem_of_mem_take hc)
      · exact isDigit_of_mem_replicate hc
    · intro hzero
      exact absurd (hwhole.symm.trans hzero) hhead
    · intro c hc
      simp only [plainNumeral] at hc
      split at hc
      · exact isDigit_of_mem_replicate (k := 1) hc
      · exact hdigits c (List.mem_of_mem_drop hc)
  | .negSucc e =>
    constructor
    · simp [plainNumeral]
    · intro c hc
      exact isDigit_of_mem_replicate (k := 1) hc
    · intro _
      rfl
    · intro c hc
      rcases List.mem_append.mp hc with hc | hc
      · exact isDigit_of_mem_replicate hc
      · exact hdigits c hc

theorem isWritten_scientificNumeral (negative : Bool) {digits : List Char} (first : Int)
    (hdigits : ∀ c ∈ digits, c.isDigit = true) (hne : digits ≠ [])
    (hhead : digits.head? ≠ some '0') : (scientificNumeral negative digits first).IsWritten where
  whole_ne_nil := by simpa [scientificNumeral] using hne
  isDigit_whole := fun c hc => hdigits c (List.mem_of_mem_take hc)
  length_whole := fun hzero =>
    absurd (by simpa [scientificNumeral, List.head?_take] using hzero) hhead
  isDigit_fraction := fun c hc => hdigits c (List.mem_of_mem_drop hc)

theorem isDigit_of_mem_significantDigits {n : Nat} {c : Char} (h : c ∈ significantDigits n) :
    c.isDigit = true := by
  obtain ⟨k, hk⟩ := exists_digitsOf_eq n
  exact isDigit_of_mem_digitsOf (hk ▸ List.mem_append_left _ h)

theorem head?_significantDigits {n : Nat} (h : n ≠ 0) :
    (significantDigits n).head? ≠ some '0' := by
  obtain ⟨k, hk⟩ := exists_digitsOf_eq n
  have hhead := head?_digitsOf h
  rwa [hk, List.head?_append_of_ne_nil _ (significantDigits_ne_nil h)] at hhead

/-- The numeral of a double can be written. -/
theorem isWritten_numeral (layout : Layout) (x : Double) : (layout.numeral x).IsWritten := by
  by_cases hzero : x.units = 0
  · rw [Layout.numeral, if_pos hzero]
    constructor <;> simp [plainNumeral]
  · have hne := coefficient_shortest_ne_zero layout.tiesUp hzero
    rcases layout.numeral_eq_or hzero with heq | heq
    · rw [heq]
      exact isWritten_plainNumeral _ _ (fun _ => isDigit_of_mem_significantDigits)
        (significantDigits_ne_nil hne) (head?_significantDigits hne)
    · rw [heq]
      exact isWritten_scientificNumeral _ _ (fun _ => isDigit_of_mem_significantDigits)
        (significantDigits_ne_nil hne) (head?_significantDigits hne)

end Stencil.Decimal
