import Mathlib.Data.Nat.Cast.Field
import Mathlib.Tactic.FieldSimp
import RenderRelay.Proofs.Number.Digits
import RenderRelay.Proofs.Number.Rounding

/-! # Decimals that read back

The decimal that `shortest` finds for a number reads back as the number.

* `ofDecimal_ten_mul`: a zero behind the digits is a step of the exponent, also for decimals far
  outside the range.
* `ofDecimal_of_value`: a decimal with the exact value of a number reads as the number.
* `shortest_reads`: every grid on which the search may stop has such a decimal. -/

namespace RenderRelay.Double

open Number

/-! ### Reading decimals -/

/-- `digits * 10 ^ exponent` as a quotient of natural numbers. -/
def decimalQuotient (digits : Nat) : (exponent : Int) → Nat × Nat
  | .ofNat e => (digits * Nat.pow 10 e, 1)
  | .negSucc e => (digits, Nat.pow 10 (e + 1))

theorem decimalQuotient_den_pos (d : Nat) (e : Int) : 0 < (decimalQuotient d e).2 := by
  cases e with
  | ofNat e => exact Nat.one_pos
  | negSucc e => exact Nat.pow_pos (by decide)

theorem decimalQuotient_value (d : Nat) (e : Int) :
    ((decimalQuotient d e).1 / (decimalQuotient d e).2 : ℚ) = d * 10 ^ e := by
  cases e with
  | ofNat e => simp [decimalQuotient]
  | negSucc e =>
      rw [zpow_negSucc]
      simp [decimalQuotient, div_eq_mul_inv]

theorem ofDecimal_eq_ofRatio (negative : Bool) {d : Nat} {e : Int} (hd : d ≠ 0)
    (hupper : e + digitCount d ≤ 310) (hlower : -330 ≤ e + digitCount d) :
    ofDecimal negative d e =
      ofRatio negative (decimalQuotient d e).1 (decimalQuotient d e).2 := by
  unfold ofDecimal
  dsimp only
  rw [if_neg hd, if_neg (by omega), if_neg (by omega)]
  cases e with
  | ofNat e => rfl
  | negSucc e => rfl

/-- A zero behind the digits is a step of the exponent. -/
theorem ofDecimal_ten_mul (negative : Bool) (d : Nat) (e : Int) :
    ofDecimal negative (10 * d) e = ofDecimal negative d (e + 1) := by
  obtain rfl | hd := Nat.eq_zero_or_pos d
  · simp [ofDecimal]
  have hsame : e + ((digitCount d + 1 : Nat) : Int) = e + 1 + digitCount d := by
    push_cast
    ring
  unfold ofDecimal
  dsimp only
  rw [digitCount_ten_mul hd.ne', hsame, if_neg (Nat.mul_pos (by decide) hd).ne', if_neg hd.ne']
  split_ifs with habove hbelow
  · rfl
  · rfl
  · cases e with
    | ofNat e =>
        have hnum : 10 * d * Nat.pow 10 e = d * Nat.pow 10 (e + 1) := by
          change 10 * d * 10 ^ e = d * 10 ^ (e + 1)
          ring
        exact congrArg (ofRatio negative · 1) hnum
    | negSucc e =>
        cases e with
        | zero =>
            refine ofRatio_congr negative (Nat.pow_pos (by decide)) Nat.one_pos ?_
            change 10 * d * 1 = d * 10 ^ 0 * 10 ^ (0 + 1)
            ring
        | succ e =>
            refine ofRatio_congr negative (Nat.pow_pos (by decide)) (Nat.pow_pos (by decide)) ?_
            change 10 * d * 10 ^ (e + 1) = d * 10 ^ (e + 1 + 1)
            ring

theorem ofDecimal_mul_pow (negative : Bool) (d : Nat) (e : Int) (k : Nat) :
    ofDecimal negative (d * 10 ^ k) e = ofDecimal negative d (e + k) := by
  induction k generalizing e with
  | zero => simp
  | succ k ih =>
      have hten : d * 10 ^ (k + 1) = 10 * (d * 10 ^ k) := by ring
      rw [hten, ofDecimal_ten_mul, ih]
      congr 1
      push_cast
      ring

theorem ofDecimal_true (d : Nat) (e : Int) : ofDecimal true d e = (ofDecimal false d e).neg := by
  have hparts : ∀ (m : Nat) (e : Int), ofParts true m e = (ofParts false m e).neg := by
    intro m e
    unfold ofParts
    split_ifs <;> rfl
  have hratio : ∀ num den : Nat, ofRatio true num den = (ofRatio false num den).neg := by
    intro num den
    unfold ofRatio
    dsimp only
    split_ifs
    · rfl
    · exact hparts _ _
    · exact hparts _ _
  unfold ofDecimal
  dsimp only
  split_ifs
  · rfl
  · rfl
  · rfl
  · cases e with
    | ofNat e => exact hratio _ _
    | negSucc e => exact hratio _ _

/-- A decimal that reads as a number reads, with a sign, as that number with the sign. -/
theorem ofDecimal_of_false {d m : Nat} {e exponent : Int} {h : Canonical m e}
    (hreads : ofDecimal false d exponent = .finite false m e h) (negative : Bool) :
    ofDecimal negative d exponent = .finite negative m e h := by
  cases negative with
  | false => exact hreads
  | true =>
      rw [ofDecimal_true, hreads]
      rfl

theorem two_zpow_le_ten_zpow {a b : Nat} (h : 2 ^ a ≤ 10 ^ b) :
    (2 : ℚ) ^ (a : ℤ) ≤ 10 ^ (b : ℤ) := by
  have hcast : ((2 ^ a : ℕ) : ℚ) ≤ ((10 ^ b : ℕ) : ℚ) := Nat.cast_le.mpr h
  rwa [Nat.cast_pow, Nat.cast_pow, Nat.cast_ofNat, Nat.cast_ofNat, ← zpow_natCast,
    ← zpow_natCast] at hcast

theorem canonical_lt {m : Nat} {e : Int} (h : Canonical m e) :
    (m * 2 ^ e : ℚ) < 10 ^ (309 : ℤ) := by
  obtain ⟨hlt, -, hmost, -⟩ := h
  have hlt' : (m : ℚ) < 2 ^ (53 : ℤ) := by exact_mod_cast hlt
  have hpow : (2 : ℚ) ^ e ≤ 2 ^ (971 : ℤ) := zpow_le_zpow_right₀ one_le_two hmost
  calc (m * 2 ^ e : ℚ) < 2 ^ (53 : ℤ) * 2 ^ (971 : ℤ) :=
        mul_lt_mul hlt' hpow (by positivity) (by positivity)
    _ = 2 ^ ((1024 : ℕ) : ℤ) := (zpow_add₀ two_ne_zero _ _).symm
    _ ≤ 10 ^ ((309 : ℕ) : ℤ) := two_zpow_le_ten_zpow (by decide +kernel)

theorem lt_canonical {m : Nat} {e : Int} (h : Canonical m e) (hm : 0 < m) :
    (10 : ℚ) ^ (-331 : ℤ) < m * 2 ^ e := by
  obtain ⟨-, hleast, -, -⟩ := h
  have hone : (1 : ℚ) ≤ m := by exact_mod_cast hm
  have hpow : (2 : ℚ) ^ (-1074 : ℤ) ≤ 2 ^ e := zpow_le_zpow_right₀ one_le_two hleast
  have hten : (2 : ℚ) ^ ((1074 : ℕ) : ℤ) ≤ 10 ^ ((330 : ℕ) : ℤ) :=
    two_zpow_le_ten_zpow (by decide +kernel)
  calc (10 : ℚ) ^ (-331 : ℤ) < 10 ^ (-((330 : ℕ) : ℤ)) :=
        zpow_lt_zpow_right₀ (by norm_num) (by decide)
    _ ≤ 2 ^ (-((1074 : ℕ) : ℤ)) := by
        rw [zpow_neg, zpow_neg]
        exact inv_anti₀ (by positivity) hten
    _ ≤ 1 * 2 ^ e := by
        rw [one_mul]
        exact hpow
    _ ≤ m * 2 ^ e := by gcongr

/-- A decimal with the exact value of a number reads as the number. -/
theorem ofDecimal_of_value {d m : Nat} {e exponent : Int} (h : Canonical m e) (hm : 0 < m)
    (hvalue : (d * 10 ^ exponent : ℚ) = m * 2 ^ e) (negative : Bool) :
    ofDecimal negative d exponent = .finite negative m e h := by
  have hpos : (0 : ℚ) < m * 2 ^ e := by positivity
  have hd : d ≠ 0 := by
    rintro rfl
    rw [← hvalue] at hpos
    simp at hpos
  have hfirst : (10 : ℚ) ^ (exponent + digitCount d - 1) ≤ m * 2 ^ e := by
    have hle : ((10 ^ (digitCount d - 1) : ℕ) : ℚ) ≤ d := Nat.cast_le.mpr (pow_le_of_ne_zero hd)
    have hpred : ((digitCount d - 1 : ℕ) : ℤ) = digitCount d - 1 := by
      have hcount := digitCount_pos d
      omega
    rw [Nat.cast_pow, Nat.cast_ofNat, ← zpow_natCast, hpred] at hle
    calc (10 : ℚ) ^ (exponent + digitCount d - 1)
        = 10 ^ ((digitCount d : ℤ) - 1) * 10 ^ exponent := by
          rw [← zpow_add₀ (by norm_num)]
          congr 1
          ring
      _ ≤ d * 10 ^ exponent := by gcongr
      _ = m * 2 ^ e := hvalue
  have hlast : (m * 2 ^ e : ℚ) < 10 ^ (exponent + digitCount d) := by
    have hlt : (d : ℚ) < ((10 ^ digitCount d : ℕ) : ℚ) := Nat.cast_lt.mpr (lt_pow_digitCount d)
    rw [Nat.cast_pow, Nat.cast_ofNat, ← zpow_natCast] at hlt
    calc (m * 2 ^ e : ℚ) = d * 10 ^ exponent := hvalue.symm
      _ < 10 ^ (digitCount d : ℤ) * 10 ^ exponent := by gcongr
      _ = 10 ^ (exponent + digitCount d) := by
          rw [← zpow_add₀ (by norm_num), add_comm]
  have hupper := hfirst.trans_lt (canonical_lt h)
  have hlower := (lt_canonical h hm).trans hlast
  rw [zpow_lt_zpow_iff_right₀ (by norm_num)] at hupper hlower
  rw [ofDecimal_eq_ofRatio negative hd (by omega) (by omega)]
  refine ofRatio_of_value negative h hm (decimalQuotient_den_pos d exponent) ?_
  rw [decimalQuotient_value, hvalue]

end RenderRelay.Double

namespace RenderRelay.Number

/-! ### The search for a decimal -/

/-- A decimal that reads as a value. -/
def Decimal.ReadsAs (d : Decimal) (value : Double) : Prop :=
  Double.ofDecimal false d.digits d.exponent = value

theorem readBackAt_reads {value : Double} {num den : Nat} {exponent : Int} {d : Decimal}
    (h : readBackAt value num den exponent = some d) : d.ReadsAs value := by
  unfold readBackAt at h
  generalize inUnits num den exponent = units at h
  obtain ⟨num, den⟩ := units
  dsimp only at h
  cases hlower : Double.ofDecimal false (num / den) exponent == value with
  | true =>
      cases hupper : Double.ofDecimal false (num / den + 1) exponent == value with
      | true =>
          rw [hlower, hupper] at h
          obtain rfl := Option.some.inj h
          obtain hround | hround := roundQuotient_eq_or num den
          · unfold Decimal.ReadsAs
            rw [hround]
            exact eq_of_beq hlower
          · unfold Decimal.ReadsAs
            rw [hround]
            exact eq_of_beq hupper
      | false =>
          rw [hlower, hupper] at h
          obtain rfl := Option.some.inj h
          exact eq_of_beq hlower
  | false =>
      cases hupper : Double.ofDecimal false (num / den + 1) exponent == value with
      | true =>
          rw [hlower, hupper] at h
          obtain rfl := Option.some.inj h
          exact eq_of_beq hupper
      | false =>
          rw [hlower, hupper] at h
          cases h

/-- The decimal on a grid below a value. -/
def gridBelow (num den : Nat) (exponent : Int) : Decimal :=
  ⟨(inUnits num den exponent).1 / (inUnits num den exponent).2, exponent⟩

/-- If the last grid has a decimal that reads back, the search ends with one. -/
theorem searchGrids_reads {value : Double} {num den : Nat} {top : Int} : ∀ left tried : Nat,
    (gridBelow num den (top - (tried + left : Nat))).ReadsAs value →
      (searchGrids value num den top left tried).ReadsAs value
  | 0, tried, hlast => hlast
  | left + 1, tried, hlast => by
      unfold searchGrids
      cases hread : readBackAt value num den (top - tried) with
      | some d => exact readBackAt_reads hread
      | none =>
          have hsum : tried + (left + 1) = tried + 1 + left := by omega
          rw [hsum] at hlast
          exact searchGrids_reads left (tried + 1) hlast

theorem reduce_reads {value : Double} : ∀ (fuel : Nat) (d : Decimal), d.ReadsAs value →
    (d.reduce fuel).ReadsAs value
  | 0, d, h => h
  | fuel + 1, d, h => by
      unfold Decimal.reduce
      split_ifs with hzero
      · refine reduce_reads fuel ⟨d.digits / 10, d.exponent + 1⟩ ?_
        have hdigits : 10 * (d.digits / 10) = d.digits := by omega
        unfold Decimal.ReadsAs at h ⊢
        rwa [← Double.ofDecimal_ten_mul, hdigits]
      · exact h

/-- The grids from the one of the exact expansion on hold the value itself. -/
theorem gridBelow_value (m : Nat) {e exponent : Int} (hgrid : exponent ≤ min e 0) :
    ((gridBelow (Double.asQuotient m e).1 (Double.asQuotient m e).2 exponent).digits *
      10 ^ exponent : ℚ) = m * 2 ^ e := by
  rw [← Double.asQuotient_value]
  cases exponent with
  | ofNat k =>
      rw [Int.ofNat_eq_natCast] at hgrid
      obtain rfl : k = 0 := by omega
      obtain ⟨j, rfl⟩ := Int.eq_ofNat_of_zero_le (show 0 ≤ e by omega)
      simp [gridBelow, inUnits, Double.asQuotient]
  | negSucc k =>
      have hdvd : (Double.asQuotient m e).2 ∣ (Double.asQuotient m e).1 * 10 ^ (k + 1) := by
        cases e with
        | ofNat j => exact one_dvd _
        | negSucc j =>
            refine Dvd.dvd.mul_left ?_ m
            have hle : j + 1 ≤ k + 1 := by omega
            calc (2 : Nat) ^ (j + 1) ∣ 2 ^ (k + 1) := Nat.pow_dvd_pow 2 hle
              _ ∣ 10 ^ (k + 1) := pow_dvd_pow_of_dvd (by decide) _
      have hden : ((Double.asQuotient m e).2 : ℚ) ≠ 0 :=
        Nat.cast_ne_zero.mpr (Double.asQuotient_den_pos m e).ne'
      have hten : (10 : ℚ) ^ (k + 1) ≠ 0 := by positivity
      change (((Double.asQuotient m e).1 * 10 ^ (k + 1) / (Double.asQuotient m e).2 : ℕ) : ℚ) *
        10 ^ (Int.negSucc k) = _
      rw [Nat.cast_div hdvd hden, zpow_negSucc]
      push_cast
      field_simp

/-- The decimal that is found for a number reads as the number. -/
theorem shortest_reads {m : Nat} {e : Int} (h : Double.Canonical m e) (hm : 0 < m) :
    (shortest m e).ReadsAs (.finite false m e h) := by
  unfold shortest
  dsimp only
  generalize floorLog10 (Double.asQuotient m e).1 (Double.asQuotient m e).2 = top
  rw [Double.ofParts_of_canonical false h]
  refine reduce_reads _ _ (searchGrids_reads _ 0 ?_)
  refine Double.ofDecimal_of_value h hm (gridBelow_value m ?_) false
  omega

theorem shortest_digits_ne_zero {m : Nat} {e : Int} (h : Double.Canonical m e) (hm : 0 < m) :
    (shortest m e).digits ≠ 0 := by
  intro hzero
  have hreads := shortest_reads h hm
  unfold Decimal.ReadsAs at hreads
  rw [hzero] at hreads
  simp only [Double.ofDecimal, if_true, Double.zero, Double.finite.injEq] at hreads
  omega

end RenderRelay.Number
