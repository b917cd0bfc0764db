import Mathlib.Algebra.Order.Field.Power
import Mathlib.Data.Int.Log
import Mathlib.Data.Rat.Floor
import RenderRelay.Number.Double

/-! # Rounding to binary64

`Double.ofRatio` depends only on the value of a quotient, and leaves a value alone that a number
has.

* `floorLog2_eq`: the power of two below a quotient, as a logarithm of the quotient's value.
* `ofRatio_congr`: equal quotients round to the same number.
* `ofRatio_asQuotient`, `ofRatio_of_value`: a finite number is what its exact value rounds to.
* `ofDecimal_ten_mul`: a zero behind the digits is a step of the exponent. -/

namespace RenderRelay

namespace Number

/-! ### Quotients of the same value -/

theorem roundQuotient_mul_mul (num den : Nat) {k : Nat} (h : 0 < k) :
    roundQuotient (num * k) (den * k) = roundQuotient num den := by
  have hlt : 2 * (num % den * k) < den * k ↔ 2 * (num % den) < den := by
    rw [← Nat.mul_assoc]
    exact Nat.mul_lt_mul_right h
  have hgt : den * k < 2 * (num % den * k) ↔ den < 2 * (num % den) := by
    rw [← Nat.mul_assoc]
    exact Nat.mul_lt_mul_right h
  unfold roundQuotient
  simp only [Nat.mul_div_mul_right _ _ h, Nat.mul_mod_mul_right, hlt, hgt]

theorem roundQuotient_eq_or (num den : Nat) :
    roundQuotient num den = num / den ∨ roundQuotient num den = num / den + 1 := by
  unfold roundQuotient
  dsimp only
  split_ifs
  · exact Or.inl rfl
  · exact Or.inr rfl
  · exact Or.inl rfl
  · exact Or.inr rfl

theorem atLeastPower_iff {base num den : Nat} (hbase : 0 < base) (hden : 0 < den) (k : Int) :
    atLeastPower base num den k = true ↔ (base : ℚ) ^ k ≤ num / den := by
  have hden' : (0 : ℚ) < den := by exact_mod_cast hden
  have hbase' : (0 : ℚ) < base := by exact_mod_cast hbase
  cases k with
  | ofNat k =>
      rw [le_div_iff₀ hden', mul_comm]
      simp only [atLeastPower, decide_eq_true_eq, Int.ofNat_eq_natCast, zpow_natCast]
      exact_mod_cast Iff.rfl
  | negSucc k =>
      rw [zpow_negSucc, inv_le_iff_one_le_mul₀ (by positivity), div_mul_eq_mul_div,
        le_div_iff₀ hden', one_mul]
      simp only [atLeastPower, decide_eq_true_eq]
      exact_mod_cast Iff.rfl

theorem log2_bounds {n : Nat} (h : 0 < n) :
    (2 : ℚ) ^ (n.log2 : ℤ) ≤ n ∧ (n : ℚ) < 2 ^ ((n.log2 : ℤ) + 1) := by
  constructor
  · rw [zpow_natCast]
    exact_mod_cast Nat.log2_self_le h.ne'
  · have hlt : n < 2 ^ (n.log2 + 1) := Nat.lt_log2_self
    rw [← Nat.cast_succ, zpow_natCast]
    exact_mod_cast hlt

theorem floorLog2_eq {num den : Nat} (hnum : 0 < num) (hden : 0 < den) :
    floorLog2 num den = Int.log 2 (num / den : ℚ) := by
  have hnum' : (0 : ℚ) < num := by exact_mod_cast hnum
  have hden' : (0 : ℚ) < den := by exact_mod_cast hden
  have hpos : (0 : ℚ) < num / den := by positivity
  obtain ⟨hnumle, hnumlt⟩ := log2_bounds hnum
  obtain ⟨hdenle, hdenlt⟩ := log2_bounds hden
  have hbelow : ((2 : ℕ) : ℚ) ^ ((num.log2 : ℤ) - den.log2 - 1) ≤ num / den := by
    rw [le_div_iff₀ hden']
    calc ((2 : ℕ) : ℚ) ^ ((num.log2 : ℤ) - den.log2 - 1) * den
        ≤ 2 ^ ((num.log2 : ℤ) - den.log2 - 1) * 2 ^ ((den.log2 : ℤ) + 1) := by
          rw [Nat.cast_ofNat]
          gcongr
      _ = 2 ^ (num.log2 : ℤ) := by
          rw [← zpow_add₀ two_ne_zero]
          congr 1
          ring
      _ ≤ num := hnumle
  have habove : (num / den : ℚ) < ((2 : ℕ) : ℚ) ^ ((num.log2 : ℤ) - den.log2 + 1) := by
    rw [div_lt_iff₀ hden']
    calc (num : ℚ) < 2 ^ ((num.log2 : ℤ) + 1) := hnumlt
      _ = 2 ^ ((num.log2 : ℤ) - den.log2 + 1) * 2 ^ (den.log2 : ℤ) := by
          rw [← zpow_add₀ two_ne_zero]
          congr 1
          ring
      _ ≤ ((2 : ℕ) : ℚ) ^ ((num.log2 : ℤ) - den.log2 + 1) * den := by
          rw [Nat.cast_ofNat]
          gcongr
  rw [Int.zpow_le_iff_le_log one_lt_two hpos] at hbelow
  rw [Int.lt_zpow_iff_log_lt one_lt_two hpos] at habove
  unfold floorLog2
  dsimp only
  split_ifs with hguess
  · rw [atLeastPower_iff two_pos hden, Int.zpow_le_iff_le_log one_lt_two hpos] at hguess
    omega
  · rw [atLeastPower_iff two_pos hden, Int.zpow_le_iff_le_log one_lt_two hpos] at hguess
    omega

/-- The logarithm depends on the value alone. -/
theorem floorLog2_mul_mul {num den k : Nat} (hnum : 0 < num) (hden : 0 < den) (hk : 0 < k) :
    floorLog2 (num * k) (den * k) = floorLog2 num den := by
  have hk' : (k : ℚ) ≠ 0 := by exact_mod_cast hk.ne'
  rw [floorLog2_eq (Nat.mul_pos hnum hk) (Nat.mul_pos hden hk), floorLog2_eq hnum hden]
  push_cast
  rw [mul_div_mul_right _ _ hk']

end Number

namespace Double

open Number

theorem mantissaAt_mul_mul (num den : Nat) {k : Nat} (hk : 0 < k) (exponent : Int) :
    mantissaAt (num * k) (den * k) exponent = mantissaAt num den exponent := by
  cases exponent with
  | ofNat e =>
      unfold mantissaAt
      dsimp only
      rw [Nat.mul_right_comm den k, roundQuotient_mul_mul _ _ hk]
  | negSucc e =>
      unfold mantissaAt
      dsimp only
      rw [Nat.mul_right_comm num k, roundQuotient_mul_mul _ _ hk]

theorem ofRatio_mul_mul (negative : Bool) (num den : Nat) {k : Nat} (hk : 0 < k) :
    ofRatio negative (num * k) (den * k) = ofRatio negative num den := by
  obtain rfl | hnum := Nat.eq_zero_or_pos num
  · simp [ofRatio]
  obtain rfl | hden := Nat.eq_zero_or_pos den
  · simp [ofRatio]
  have hscaled : ¬ (num * k = 0 ∨ den * k = 0) := by
    simp [hnum.ne', hden.ne', hk.ne']
  have hplain : ¬ (num = 0 ∨ den = 0) := by
    simp [hnum.ne', hden.ne']
  unfold ofRatio exponentFor
  rw [if_neg hscaled, if_neg hplain, floorLog2_mul_mul hnum hden hk]
  dsimp only
  rw [mantissaAt_mul_mul _ _ hk]

/-- Quotients of the same value round to the same number. -/
theorem ofRatio_congr (negative : Bool) {num den num' den' : Nat} (hden : 0 < den)
    (hden' : 0 < den') (h : num * den' = num' * den) :
    ofRatio negative num den = ofRatio negative num' den' := by
  rw [← ofRatio_mul_mul negative num den hden', ← ofRatio_mul_mul negative num' den' hden, h,
    Nat.mul_comm den]

/-! ### Values that numbers have -/

theorem asQuotient_den_pos (m : Nat) (e : Int) : 0 < (asQuotient m e).2 := by
  cases e with
  | ofNat e => exact Nat.one_pos
  | negSucc e => exact Nat.pow_pos two_pos

theorem asQuotient_value (m : Nat) (e : Int) :
    ((asQuotient m e).1 / (asQuotient m e).2 : ℚ) = m * 2 ^ e := by
  cases e with
  | ofNat e => simp [asQuotient]
  | negSucc e =>
      rw [zpow_negSucc]
      simp [asQuotient, div_eq_mul_inv]

theorem mantissaAt_asQuotient (m : Nat) (e : Int) :
    mantissaAt (asQuotient m e).1 (asQuotient m e).2 e = m := by
  cases e with
  | ofNat e =>
      simp only [mantissaAt, asQuotient, Nat.one_mul]
      exact roundQuotient_mul m (Nat.pow_pos two_pos)
  | negSucc e => exact roundQuotient_mul m (Nat.pow_pos two_pos)

/-- The exponent at which a value is rounded is the one of the number that has it. -/
theorem exponentFor_asQuotient {m : Nat} {e : Int} (h : Canonical m e) (hm : 0 < m) :
    exponentFor (asQuotient m e).1 (asQuotient m e).2 = e := by
  obtain ⟨hlt, hleast, -, hnormal⟩ := h
  have hnum : 0 < (asQuotient m e).1 := by
    cases e with
    | ofNat e => exact Nat.mul_pos hm (Nat.pow_pos two_pos)
    | negSucc e => exact hm
  have hm' : (0 : ℚ) < m := by exact_mod_cast hm
  have hpos : (0 : ℚ) < m * 2 ^ e := by positivity
  have hupper : Int.log 2 (m * 2 ^ e : ℚ) < 53 + e := by
    rw [← Int.lt_zpow_iff_log_lt one_lt_two hpos, Nat.cast_ofNat, zpow_add₀ two_ne_zero]
    have hlt' : (m : ℚ) < 2 ^ (53 : ℤ) := by exact_mod_cast hlt
    exact mul_lt_mul_of_pos_right hlt' (by positivity)
  unfold exponentFor
  rw [floorLog2_eq hnum (asQuotient_den_pos m e), asQuotient_value]
  obtain rfl | hlarge := hnormal
  · omega
  · have hlower : 52 + e ≤ Int.log 2 (m * 2 ^ e : ℚ) := by
      rw [← Int.zpow_le_iff_le_log one_lt_two hpos, Nat.cast_ofNat, zpow_add₀ two_ne_zero]
      have hlarge' : (2 : ℚ) ^ (52 : ℤ) ≤ m := by exact_mod_cast hlarge
      exact mul_le_mul_of_nonneg_right hlarge' (by positivity)
    omega

/-- A finite number is what its exact value rounds to. -/
theorem ofRatio_asQuotient (negative : Bool) {m : Nat} {e : Int} (h : Canonical m e) (hm : 0 < m) :
    ofRatio negative (asQuotient m e).1 (asQuotient m e).2 = .finite negative m e h := by
  have hnum : ¬ ((asQuotient m e).1 = 0 ∨ (asQuotient m e).2 = 0) := by
    have hden := asQuotient_den_pos m e
    cases e with
    | ofNat e => simp [asQuotient, hm.ne']
    | negSucc e => simp [asQuotient, hm.ne']
  unfold ofRatio
  rw [if_neg hnum, exponentFor_asQuotient h hm]
  dsimp only
  rw [mantissaAt_asQuotient, if_neg (Nat.ne_of_lt h.1), ofParts_of_canonical negative h]

/-- A quotient with the exact value of a number rounds to the number. -/
theorem ofRatio_of_value (negative : Bool) {m : Nat} {e : Int} (h : Canonical m e) (hm : 0 < m)
    {num den : Nat} (hden : 0 < den) (hvalue : (num / den : ℚ) = m * 2 ^ e) :
    ofRatio negative num den = .finite negative m e h := by
  rw [← ofRatio_asQuotient negative h hm]
  refine ofRatio_congr negative hden (asQuotient_den_pos m e) ?_
  have hden' : (den : ℚ) ≠ 0 := Nat.cast_ne_zero.mpr hden.ne'
  have hden'' : ((asQuotient m e).2 : ℚ) ≠ 0 := Nat.cast_ne_zero.mpr (asQuotient_den_pos m e).ne'
  rw [← asQuotient_value, div_eq_div_iff hden' hden''] at hvalue
  exact_mod_cast hvalue

end Double

end RenderRelay
