import Mathlib.Algebra.Ring.Nat
import RenderRelay.Number.Read
import RenderRelay.Number.Shortest

/-! # Decimal digits

What the digits of a natural number are and what they read back as.

* `digitsValue_natDigits`: the digits of a number read back as the number, so that no two numbers
  have the same ones (`natDigits_injective`).
* `head_natDigits`: they start with a zero only for zero itself.
* `digitsValue_append_zeros`, `digitsValue_zeros_append`: zeros behind digits are factors of ten,
  zeros before them are nothing.
* `digitCount_le_iff`: how many digits a number has. -/

namespace RenderRelay.Number

theorem isDigit_of_mem_natDigits {n : Nat} {c : Char} (h : c ∈ natDigits n) : c.isDigit :=
  Nat.isDigit_of_mem_toDigits (by decide) (by decide) h

theorem natDigits_ne_nil (n : Nat) : natDigits n ≠ [] := Nat.toDigits_ne_nil

theorem digitsValue_append (cs ds : List Char) :
    digitsValue (cs ++ ds) = digitsValue cs * 10 ^ ds.length + digitsValue ds := by
  change Nat.ofDigitChars 10 (cs ++ ds) 0 = Nat.ofDigitChars 10 cs 0 * 10 ^ ds.length +
    Nat.ofDigitChars 10 ds 0
  rw [Nat.ofDigitChars_append, Nat.ofDigitChars_eq_ofDigitChars_zero, Nat.mul_comm]

theorem digitsValue_natDigits (n : Nat) : digitsValue (natDigits n) = n :=
  Nat.ofDigitChars_ten_toDigits

theorem natDigits_injective : Function.Injective natDigits :=
  Function.LeftInverse.injective digitsValue_natDigits

theorem digitsValue_zeros (k : Nat) : digitsValue (zeros k) = 0 := by
  change Nat.ofDigitChars 10 (List.replicate k '0') 0 = 0
  rw [Nat.ofDigitChars_replicate_zero, Nat.mul_zero]

theorem digitsValue_append_zeros (cs : List Char) (k : Nat) :
    digitsValue (cs ++ zeros k) = digitsValue cs * 10 ^ k := by
  rw [digitsValue_append, digitsValue_zeros, zeros, List.length_replicate, Nat.add_zero]

theorem digitsValue_zeros_append (k : Nat) (cs : List Char) :
    digitsValue (zeros k ++ cs) = digitsValue cs := by
  rw [digitsValue_append, digitsValue_zeros, Nat.zero_mul, Nat.zero_add]

theorem isDigit_of_mem_zeros {k : Nat} {c : Char} (h : c ∈ zeros k) : c.isDigit := by
  rw [List.eq_of_mem_replicate h]
  decide

/-- The digits of a number do not start with a zero, unless it is zero. -/
theorem head_natDigits {n : Nat} (h : n ≠ 0) : ∃ c rest, natDigits n = c :: rest ∧ c ≠ '0' := by
  induction n using Nat.strongRecOn with
  | ind n ih =>
      unfold natDigits at ih ⊢
      obtain hlt | hle := Nat.lt_or_ge n 10
      · refine ⟨n.digitChar, [], Nat.toDigits_of_lt_base hlt, ?_⟩
        rwa [ne_eq, Nat.digitChar_eq_zero]
      · obtain ⟨c, rest, hdigits, hc⟩ := ih (n / 10) (by omega) (by omega)
        refine ⟨c, rest ++ [(n % 10).digitChar], ?_, hc⟩
        rw [Nat.toDigits_of_base_le (by decide) hle, hdigits]
        rfl

/-! ### How many digits -/

theorem digitCount_pos (n : Nat) : 0 < digitCount n := Nat.length_toDigits_pos

theorem digitCount_le_iff {n k : Nat} (h : 0 < k) : digitCount n ≤ k ↔ n < 10 ^ k :=
  Nat.length_toDigits_le_iff (by decide) h

theorem lt_pow_digitCount (n : Nat) : n < 10 ^ digitCount n :=
  (digitCount_le_iff (digitCount_pos n)).mp (Nat.le_refl _)

theorem pow_le_of_ne_zero {n : Nat} (h : n ≠ 0) : 10 ^ (digitCount n - 1) ≤ n := by
  obtain hone | hmore := Nat.eq_or_lt_of_le (Nat.succ_le_of_lt (digitCount_pos n))
  · rw [← hone]
    simpa using Nat.one_le_iff_ne_zero.mpr h
  · have hnot : ¬ digitCount n ≤ digitCount n - 1 := by omega
    rw [digitCount_le_iff (by omega)] at hnot
    exact Nat.le_of_not_lt hnot

theorem digitCount_ten_mul {n : Nat} (h : n ≠ 0) : digitCount (10 * n) = digitCount n + 1 := by
  have hdigits := Nat.toDigits_append_toDigits (b := 10) (n := n) (d := 0) (by decide)
    (Nat.pos_of_ne_zero h) (by decide)
  unfold digitCount
  rw [Nat.add_zero] at hdigits
  rw [← hdigits, List.length_append, Nat.toDigits_zero]
  rfl

theorem digitsValue_lt {cs : List Char} (h : ∀ c ∈ cs, c.isDigit) :
    digitsValue cs < 10 ^ cs.length := by
  induction cs with
  | nil => decide
  | cons c cs ih =>
      have hrest := ih fun d hd => h d (List.mem_cons_of_mem c hd)
      have hfirst : digitsValue [c] ≤ 9 := by
        have hc := h c List.mem_cons_self
        simp only [Char.isDigit, Bool.and_eq_true, decide_eq_true_eq] at hc
        have hle : c.toNat ≤ 57 := hc.2
        simp only [digitsValue, List.foldl_cons, List.foldl_nil]
        omega
      rw [← List.singleton_append, digitsValue_append, List.length_append, Nat.pow_add]
      have hmul := Nat.mul_le_mul_right (10 ^ cs.length) hfirst
      simp only [List.length_singleton, Nat.pow_one]
      omega

end RenderRelay.Number
