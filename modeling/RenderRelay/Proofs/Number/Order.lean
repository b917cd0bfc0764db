import RenderRelay.Proofs.Number.Rounding

/-! # The order of binary64 numbers

Finite numbers are compared by their exact values, and rounding does not lead past a number.

* `value` is the exact value of a finite number; `less_iff_value`.
* `ofRatio_le`: a quotient that is at most a number rounds to a number that is, and
  `ofRatio_overflow`: one beyond all numbers becomes infinite.
* `IsAmount` is a finite number without a sign, and `IsUnsigned` may also be infinite; `mul_le` and
  `add_isUnsigned` are their products and sums.
* `least_le` and `greatest_zero`: what a bound makes of them. -/

namespace RenderRelay

namespace Number

theorem le_roundQuotient {n num den : Nat} (hden : 0 < den) (h : n * den ≤ num) :
    n ≤ roundQuotient num den := by
  have hfloor := (Nat.le_div_iff_mul_le hden).mpr h
  obtain hround | hround := roundQuotient_eq_or num den
  · omega
  · omega

theorem roundQuotient_le {n num den : Nat} (hden : 0 < den) (h : num ≤ n * den) :
    roundQuotient num den ≤ n := by
  obtain rfl | hlt := Nat.eq_or_lt_of_le h
  · rw [roundQuotient_mul n hden]
  · have hfloor := (Nat.div_lt_iff_lt_mul hden).mpr hlt
    obtain hround | hround := roundQuotient_eq_or num den
    · omega
    · omega

end Number

namespace Double

open Number

/-! ### Rounding past a number -/

/-- The mantissa at an exponent is a rounded quotient, in units of that power of two. -/
theorem exists_mantissaAt (num : Nat) {den : Nat} (hden : 0 < den) (k : Int) :
    ∃ a b : Nat, 0 < b ∧ mantissaAt num den k = roundQuotient a b ∧
      (num / den : ℚ) = a / b * 2 ^ k := by
  have hden' : (den : ℚ) ≠ 0 := Nat.cast_ne_zero.mpr hden.ne'
  cases k with
  | ofNat k =>
      refine ⟨num, den * Nat.pow 2 k, Nat.mul_pos hden (Nat.pow_pos two_pos), rfl, ?_⟩
      simp only [Int.ofNat_eq_natCast, zpow_natCast, Nat.pow_eq, Nat.cast_mul, Nat.cast_pow,
        Nat.cast_ofNat]
      field_simp
  | negSucc k =>
      refine ⟨num * Nat.pow 2 (k + 1), den, hden, rfl, ?_⟩
      simp only [zpow_negSucc, Nat.pow_eq, Nat.cast_mul, Nat.cast_pow, Nat.cast_ofNat]
      field_simp

theorem le_mantissaAt {n num den : Nat} (hden : 0 < den) {k : Int}
    (h : (n * 2 ^ k : ℚ) ≤ num / den) : n ≤ mantissaAt num den k := by
  obtain ⟨a, b, hb, hmantissa, hvalue⟩ := exists_mantissaAt num hden k
  have hb' : (0 : ℚ) < b := Nat.cast_pos.mpr hb
  rw [hvalue, mul_le_mul_iff_left₀ (by positivity), le_div_iff₀ hb'] at h
  rw [hmantissa]
  exact le_roundQuotient hb (by exact_mod_cast h)

theorem mantissaAt_le {n num den : Nat} (hden : 0 < den) {k : Int}
    (h : (num / den : ℚ) ≤ n * 2 ^ k) : mantissaAt num den k ≤ n := by
  obtain ⟨a, b, hb, hmantissa, hvalue⟩ := exists_mantissaAt num hden k
  have hb' : (0 : ℚ) < b := Nat.cast_pos.mpr hb
  rw [hvalue, mul_le_mul_iff_left₀ (by positivity), div_le_iff₀ hb'] at h
  rw [hmantissa]
  exact roundQuotient_le hb (by exact_mod_cast h)

/-- The exponent at which a quotient is rounded is no greater than that of a greater number. -/
theorem exponentFor_le {m : Nat} {e : Int} (h : Canonical m e) {num den : Nat} (hnum : 0 < num)
    (hden : 0 < den) (hle : (num / den : ℚ) ≤ m * 2 ^ e) : exponentFor num den ≤ e := by
  have hpos : (0 : ℚ) < num / den := by positivity
  have hm : 0 < m := by
    obtain rfl | hm := Nat.eq_zero_or_pos m
    · rw [Nat.cast_zero, zero_mul] at hle
      exact absurd hpos hle.not_gt
    · exact hm
  have hnum' : 0 < (asQuotient m e).1 := by
    have hvalue : (0 : ℚ) < (asQuotient m e).1 / (asQuotient m e).2 := by
      rw [asQuotient_value]
      exact hpos.trans_le hle
    rw [div_pos_iff_of_pos_right (Nat.cast_pos.mpr (asQuotient_den_pos m e))] at hvalue
    exact_mod_cast hvalue
  rw [← asQuotient_value] at hle
  have hlog : floorLog2 num den ≤ floorLog2 (asQuotient m e).1 (asQuotient m e).2 := by
    rw [floorLog2_eq hnum hden, floorLog2_eq hnum' (asQuotient_den_pos m e)]
    exact Int.log_mono_right hpos hle
  rw [← exponentFor_asQuotient h hm]
  unfold exponentFor
  omega

/-- The mantissa at the exponent at which a quotient is rounded has at most one bit too many, and
has all of its bits unless the exponent is least. -/
theorem mantissaAt_bounds {num den : Nat} (hnum : 0 < num) (hden : 0 < den) :
    mantissaAt num den (exponentFor num den) ≤ Nat.pow 2 53 ∧
      (exponentFor num den = -1074 ∨
        Nat.pow 2 52 ≤ mantissaAt num den (exponentFor num den)) := by
  have hpos : (0 : ℚ) < num / den := by positivity
  have hlog := floorLog2_eq hnum hden
  constructor
  · refine mantissaAt_le hden ?_
    have hlt : (num / den : ℚ) < ((2 : ℕ) : ℚ) ^ (53 + exponentFor num den) := by
      rw [Int.lt_zpow_iff_log_lt one_lt_two hpos, ← hlog]
      unfold exponentFor
      omega
    rw [Nat.cast_ofNat, zpow_add₀ two_ne_zero] at hlt
    exact_mod_cast hlt.le
  · rw [or_iff_not_imp_left]
    intro hleast
    refine le_mantissaAt hden ?_
    have hle : ((2 : ℕ) : ℚ) ^ (52 + exponentFor num den) ≤ num / den := by
      rw [Int.zpow_le_iff_le_log one_lt_two hpos, ← hlog]
      unfold exponentFor at hleast ⊢
      omega
    rw [Nat.cast_ofNat, zpow_add₀ two_ne_zero] at hle
    exact_mod_cast hle

/-- A quotient that is at most a number rounds to a number that is. -/
theorem ofRatio_le {m : Nat} {e : Int} (h : Canonical m e) (negative : Bool) {num den : Nat}
    (hden : 0 < den) (hle : (num / den : ℚ) ≤ m * 2 ^ e) :
    ∃ n f, ∃ hcanonical : Canonical n f,
      ofRatio negative num den = .finite negative n f hcanonical ∧ (n * 2 ^ f : ℚ) ≤ m * 2 ^ e := by
  obtain rfl | hnum := Nat.eq_zero_or_pos num
  · refine ⟨0, -1074, by decide, by simp [ofRatio, zero], ?_⟩
    rw [Nat.cast_zero, zero_mul]
    positivity
  obtain ⟨hmost, hbits⟩ := mantissaAt_bounds hnum hden
  have hexponent := exponentFor_le h hnum hden hle
  have hleast : -1074 ≤ exponentFor num den := Int.le_max_right _ _
  have hgreatest := h.2.2.1
  -- the number is a multiple of the unit in which the quotient is rounded
  have hunits : (m * 2 ^ e : ℚ) =
      (m * 2 ^ (e - exponentFor num den).toNat : ℕ) * 2 ^ exponentFor num den := by
    have hdifference : ((e - exponentFor num den).toNat : ℤ) = e - exponentFor num den := by omega
    rw [Nat.cast_mul, Nat.cast_pow, Nat.cast_ofNat, mul_assoc, ← zpow_natCast, hdifference,
      ← zpow_add₀ two_ne_zero, sub_add_cancel]
  have hvalue : (mantissaAt num den (exponentFor num den) * 2 ^ exponentFor num den : ℚ) ≤
      m * 2 ^ e := by
    rw [hunits] at hle ⊢
    have hmantissa := mantissaAt_le hden hle
    gcongr
  unfold ofRatio
  rw [if_neg (by simp [hnum.ne', hden.ne'])]
  dsimp only
  generalize mantissaAt num den (exponentFor num den) = mantissa at hmost hbits hvalue
  generalize exponentFor num den = exponent at *
  split_ifs with hcarry
  · have hmore : exponent < e := by
      by_contra hnot
      obtain rfl : exponent = e := by omega
      have hlt : (m : ℚ) < mantissa := by
        rw [hcarry]
        exact_mod_cast h.1
      exact absurd hvalue (mul_lt_mul_of_pos_right hlt (by positivity)).not_ge
    have hcanonical : Canonical (Nat.pow 2 52) (exponent + 1) :=
      ⟨by decide, by omega, by omega, Or.inr (Nat.le_refl _)⟩
    refine ⟨_, _, hcanonical, ofParts_of_canonical negative hcanonical, ?_⟩
    rw [zpow_add₀ two_ne_zero, zpow_one]
    rw [hcarry] at hvalue
    calc ((Nat.pow 2 52 : ℕ) * (2 ^ exponent * 2) : ℚ) = (Nat.pow 2 53 : ℕ) * 2 ^ exponent := by
          push_cast [Nat.pow_eq]
          ring
      _ ≤ m * 2 ^ e := hvalue
  · have hcanonical : Canonical mantissa exponent :=
      ⟨by omega, hleast, by omega, hbits⟩
    exact ⟨_, _, hcanonical, ofParts_of_canonical negative hcanonical, hvalue⟩

/-- A quotient beyond all numbers becomes infinite. -/
theorem ofRatio_overflow (negative : Bool) {num den : Nat} (hden : 0 < den)
    (h : (2 : ℚ) ^ (1024 : ℤ) ≤ num / den) : ofRatio negative num den = .infinite negative := by
  have hpos : (0 : ℚ) < num / den := lt_of_lt_of_le (by positivity) h
  have hnum : 0 < num := by
    rw [div_pos_iff_of_pos_right (Nat.cast_pos.mpr hden)] at hpos
    exact_mod_cast hpos
  have hexponent : 971 < exponentFor num den := by
    have hlog : (1024 : ℤ) ≤ floorLog2 num den := by
      rw [floorLog2_eq hnum hden, ← Int.zpow_le_iff_le_log one_lt_two hpos, Nat.cast_ofNat]
      exact h
    unfold exponentFor
    omega
  have hparts : ∀ {m e}, 971 < e → ofParts negative m e = .infinite negative := by
    intro m e he
    unfold ofParts
    exact dif_neg fun hcanonical => absurd hcanonical.2.2.1 (by omega)
  unfold ofRatio
  rw [if_neg (by simp [hnum.ne', hden.ne'])]
  dsimp only
  split_ifs
  · exact hparts (by omega)
  · exact hparts hexponent

/-! ### Values -/

/-- The exact value of a finite number. -/
def value : Double → ℚ
  | .finite negative m e _ => signed negative m * 2 ^ e
  | _ => 0

theorem alignTo_value {least e : Int} (h : least ≤ e) (s : Int) :
    (alignTo least s e * 2 ^ least : ℚ) = s * 2 ^ e := by
  have hdifference : ((e - least).toNat : ℤ) = e - least := by omega
  unfold alignTo
  rw [Int.ofNat_eq_natCast, Nat.pow_eq, Int.cast_mul, Int.cast_natCast, Nat.cast_pow,
    Nat.cast_ofNat, mul_assoc, ← zpow_natCast, hdifference, ← zpow_add₀ two_ne_zero,
    sub_add_cancel]

/-- Finite numbers are compared by their values. -/
theorem less_iff_value {s t : Bool} {m n : Nat} {e f : Int} (h : Canonical m e)
    (g : Canonical n f) : less (.finite s m e h) (.finite t n f g) = true ↔
      value (.finite s m e h) < value (.finite t n f g) := by
  unfold less value
  dsimp only
  rw [decide_eq_true_eq, ← alignTo_value (min_le_left e f), ← alignTo_value (min_le_right e f),
    mul_lt_mul_iff_left₀ (by positivity), Int.cast_lt]

/-! ### Numbers without a sign -/

/-- A finite number without a sign. -/
def IsAmount (x : Double) : Prop := ∃ m e, ∃ h : Canonical m e, x = .finite false m e h

/-- A number without a sign, which may be infinite. -/
def IsUnsigned (x : Double) : Prop := x.IsAmount ∨ x = .infinite false

variable {x y : Double}

theorem IsAmount.value_nonneg (h : x.IsAmount) : 0 ≤ x.value := by
  obtain ⟨m, e, hx, rfl⟩ := h
  change (0 : ℚ) ≤ ((m : ℤ) : ℚ) * 2 ^ e
  positivity

theorem isAmount_zero : (zero false).IsAmount := ⟨0, -1074, by decide, rfl⟩

theorem value_zero : (zero false).value = 0 := by simp [zero, value, signed]

/-- A number is zero if its value is. -/
theorem IsAmount.eq_zero (h : x.IsAmount) (hvalue : x.value = 0) : x = zero false := by
  obtain ⟨m, e, hx, rfl⟩ := h
  change (((m : ℤ) : ℚ) * 2 ^ e) = 0 at hvalue
  obtain rfl : m = 0 := by
    have hpow : (2 : ℚ) ^ e ≠ 0 := by positivity
    exact_mod_cast (mul_eq_zero.mp hvalue).resolve_right hpow
  obtain ⟨-, -, -, rfl | hbits⟩ := hx
  · rfl
  · exact absurd hbits (by decide)

theorem ofScaled_eq (negative : Bool) (m : Nat) (e : Int) :
    ofScaled negative m e = ofRatio negative (asQuotient m e).1 (asQuotient m e).2 := by
  cases e <;> rfl

theorem isUnsigned_ofRatio (num den : Nat) : (ofRatio false num den).IsUnsigned := by
  have hparts : ∀ m e, (ofParts false m e).IsUnsigned := by
    intro m e
    unfold ofParts
    split_ifs with hcanonical
    · exact Or.inl ⟨m, e, hcanonical, rfl⟩
    · exact Or.inr rfl
  unfold ofRatio
  dsimp only
  split_ifs
  · exact Or.inl isAmount_zero
  · exact hparts _ _
  · exact hparts _ _

theorem isUnsigned_ofScaled (m : Nat) (e : Int) : (ofScaled false m e).IsUnsigned := by
  rw [ofScaled_eq]
  exact isUnsigned_ofRatio _ _

/-- An amount of at most one. -/
structure IsShare (x : Double) : Prop where
  amount : x.IsAmount
  le_one : x.value ≤ 1

/-- A part of an amount is an amount that is no greater. -/
theorem mul_le (hx : x.IsAmount) (hy : y.IsShare) :
    (x * y).IsAmount ∧ (x * y).value ≤ x.value := by
  obtain ⟨m, e, hx, rfl⟩ := hx
  obtain ⟨⟨n, f, hy, rfl⟩, hle⟩ := hy
  change (((n : ℤ) : ℚ) * 2 ^ f) ≤ 1 at hle
  have hproduct : ((asQuotient (m * n) (e + f)).1 / (asQuotient (m * n) (e + f)).2 : ℚ) ≤
      m * 2 ^ e := by
    rw [asQuotient_value, zpow_add₀ two_ne_zero]
    calc ((m * n : ℕ) * (2 ^ e * 2 ^ f) : ℚ) = m * 2 ^ e * (n * 2 ^ f) := by
          push_cast
          ring
      _ ≤ m * 2 ^ e * 1 := by
          gcongr
          exact_mod_cast hle
      _ = m * 2 ^ e := mul_one _
  obtain ⟨k, d, hcanonical, heq, hvalue⟩ :=
    ofRatio_le hx false (asQuotient_den_pos (m * n) (e + f)) hproduct
  have hmul : Double.finite false m e hx * .finite false n f hy =
      .finite false k d hcanonical := by
    change ofScaled (false != false) (m * n) (e + f) = _
    rw [ofScaled_eq]
    exact heq
  rw [hmul]
  exact ⟨⟨k, d, hcanonical, rfl⟩, by exact_mod_cast hvalue⟩

theorem mul_isUnsigned (hx : x.IsAmount) (hy : y.IsAmount) : (x * y).IsUnsigned := by
  obtain ⟨m, e, hx, rfl⟩ := hx
  obtain ⟨n, f, hy, rfl⟩ := hy
  exact isUnsigned_ofScaled (m * n) (e + f)

theorem add_isUnsigned (hx : x.IsUnsigned) (hy : y.IsAmount) : (x + y).IsUnsigned := by
  obtain ⟨n, f, hy, rfl⟩ := hy
  obtain ⟨m, e, hx, rfl⟩ | rfl := hx
  · change (add _ _).IsUnsigned
    unfold add
    dsimp only
    have hterm : ∀ least (k : Nat) d, 0 ≤ alignTo least (signed false k) d := fun least k d =>
      Int.mul_nonneg (Int.natCast_nonneg k) (Int.natCast_nonneg _)
    have hsum := Int.add_nonneg (hterm (min e f) m e) (hterm (min e f) n f)
    split_ifs with hzero
    · exact Or.inl isAmount_zero
    · rw [decide_eq_false hsum.not_gt]
      exact isUnsigned_ofScaled _ _
  · exact Or.inr rfl

/-- The lesser of a number and an amount is an amount that is no greater. -/
theorem least_le (hx : x.IsUnsigned) (hy : y.IsAmount) :
    (least x y).IsAmount ∧ (least x y).value ≤ y.value := by
  unfold least
  split_ifs with hless
  · exact ⟨hy, le_refl _⟩
  · obtain ⟨n, f, hy, rfl⟩ := hy
    obtain ⟨m, e, hx, rfl⟩ | rfl := hx
    · rw [less_iff_value, not_lt] at hless
      exact ⟨⟨m, e, hx, rfl⟩, hless⟩
    · exact absurd rfl hless

theorem greatest_zero (hx : x.IsAmount) : greatest (zero false) x = x := by
  unfold greatest
  split_ifs with hless
  · rfl
  · have hle : x.value ≤ 0 := by
      obtain ⟨m, e, hx, rfl⟩ := hx
      unfold zero at hless
      rw [less_iff_value, not_lt] at hless
      exact hless.trans_eq value_zero
    exact (hx.eq_zero (le_antisymm hle hx.value_nonneg)).symm

/-- Powers of two are amounts. -/
theorem ofRatio_two_pow {num den : Nat} (hden : 0 < den) {k : Int} (hk : -1022 ≤ k)
    (hk' : k ≤ 1023) (hvalue : (num / den : ℚ) = 2 ^ k) :
    (ofRatio false num den).IsAmount ∧ (ofRatio false num den).value = 2 ^ k := by
  have hcanonical : Canonical (Nat.pow 2 52) (k - 52) :=
    ⟨by decide, by omega, by omega, Or.inr (Nat.le_refl _)⟩
  have hmantissa : ((Nat.pow 2 52 : ℕ) * 2 ^ (k - 52) : ℚ) = 2 ^ k := by
    rw [Nat.pow_eq, Nat.cast_pow, Nat.cast_ofNat, ← zpow_natCast, ← zpow_add₀ two_ne_zero]
    congr 1
    omega
  rw [ofRatio_of_value false hcanonical (by decide) hden (hvalue.trans hmantissa.symm)]
  exact ⟨⟨_, _, hcanonical, rfl⟩, by exact_mod_cast hmantissa⟩

end Double

end RenderRelay
