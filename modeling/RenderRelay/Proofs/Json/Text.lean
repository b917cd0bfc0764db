import Mathlib.Tactic.SplitIfs
import RenderRelay.Json.Reader
import RenderRelay.Proofs.Except

/-! # Texts in JSON

Every text reads back from its escaped form.

* `readUnit_hexDigits`: four hexadecimal digits are the unit they were written for.
* `readStringRest_escapeChar`: one escaped character is read in one step, whichever of the forms
  it is written in.
* `readString_escaped`: a text reads back from between its quotes. -/

namespace RenderRelay.Json

open Text

/-! ### Units -/

theorem hexValue?_hexDigit : ∀ n < 16, hexValue? (hexDigit n) = some n := by decide

theorem unitValue?_hexDigits {n : Nat} (h : n < 0x10000) :
    unitValue? (hexDigit (n / 16 / 16 / 16 % 16)) (hexDigit (n / 16 / 16 % 16))
      (hexDigit (n / 16 % 16)) (hexDigit (n % 16)) = some n := by
  have hlt : ∀ m : Nat, m % 16 < 16 := fun m => Nat.mod_lt m (by decide)
  unfold unitValue?
  rw [hexValue?_hexDigit _ (hlt _), hexValue?_hexDigit _ (hlt _), hexValue?_hexDigit _ (hlt _),
    hexValue?_hexDigit _ (hlt _)]
  refine congrArg some ?_
  omega

theorem hexDigits_four (n : Nat) :
    hexDigits 4 n = [hexDigit (n / 16 / 16 / 16 % 16), hexDigit (n / 16 / 16 % 16),
      hexDigit (n / 16 % 16), hexDigit (n % 16)] := rfl

/-- The digits of a unit read as the unit, if the text goes on. -/
theorem readUnit_hexDigits {n : Nat} (h : n < 0x10000) {rest : List Char} (hrest : rest ≠ []) :
    readUnit ('u' :: hexDigits 4 n ++ rest) = .ok (n, rest) := by
  obtain ⟨c, rest, rfl⟩ := List.exists_cons_of_ne_nil hrest
  rw [hexDigits_four]
  simp only [List.cons_append, List.nil_append]
  rw [readUnit, unitValue?_hexDigits h]

theorem readLow?_escapeUnit {n : Nat} (hlow : 0xDC00 ≤ n) (hhigh : n < 0xE000) {rest : List Char}
    (hrest : rest ≠ []) : readLow? (escapeUnit n ++ rest) = some (n, rest) := by
  have hunit := readUnit_hexDigits (n := n) (by omega) hrest
  unfold escapeUnit
  rw [List.cons_append, List.cons_append, readLow?]
  rw [List.cons_append] at hunit
  rw [hunit]
  exact if_pos ⟨hlow, hhigh⟩

/-! ### Steps of the reader -/

section Steps

variable {opened fuel : Nat} {acc rest : List Char}

theorem readStringRest_plain {c : Char} (hquote : c ≠ '"') (hslash : c ≠ '\\')
    (hspace : 0x20 ≤ c.toNat) :
    readStringRest opened (fuel + 1) acc (c :: rest) =
      readStringRest opened fuel (c :: acc) rest := by
  rw [readStringRest]
  · rw [if_neg (Nat.not_lt.mpr hspace)]
  · exact hquote
  · exact hslash

theorem readStringRest_simple {e c : Char} (hunit : e ≠ 'u') (hescape : simpleEscape? e = some c) :
    readStringRest opened (fuel + 1) acc ('\\' :: e :: rest) =
      readStringRest opened fuel (c :: acc) rest := by
  rw [readStringRest]
  · rw [hescape]
  · exact hunit

theorem readStringRest_unit {n : Nat} (h : n < 0x10000) (hsurrogate : n < 0xD800 ∨ 0xE000 ≤ n)
    (hrest : rest ≠ []) :
    readStringRest opened (fuel + 1) acc (escapeUnit n ++ rest) =
      readStringRest opened fuel (Char.ofNat n :: acc) rest := by
  have hunit := readUnit_hexDigits h hrest
  unfold escapeUnit
  rw [List.cons_append] at hunit
  rw [List.cons_append, List.cons_append, readStringRest, hunit]
  change (if 0xD800 ≤ n ∧ n < 0xDC00 then _ else if 0xDC00 ≤ n ∧ n < 0xE000 then _ else _) = _
  rw [if_neg (by omega), if_neg (by omega)]

theorem readStringRest_pair {high low : Nat} (hhigh : 0xD800 ≤ high ∧ high < 0xDC00)
    (hlow : 0xDC00 ≤ low ∧ low < 0xE000) (hrest : rest ≠ []) :
    readStringRest opened (fuel + 1) acc (escapeUnit high ++ escapeUnit low ++ rest) =
      readStringRest opened fuel
        (Char.ofNat (0x10000 + (high - 0xD800) * 0x400 + (low - 0xDC00)) :: acc) rest := by
  have hunit : readUnit ('u' :: (hexDigits 4 high ++ (escapeUnit low ++ rest))) = _ :=
    readUnit_hexDigits (by omega) nofun
  rw [List.append_assoc]
  rw [escapeUnit.eq_def high, List.cons_append, List.cons_append, readStringRest, hunit]
  change (if 0xD800 ≤ high ∧ high < 0xDC00 then _ else _) = _
  rw [if_pos hhigh, readLow?_escapeUnit hlow.1 hlow.2 hrest]

/-- An escaped character is read in one step. -/
theorem readStringRest_escapeChar (c : Char) (hrest : rest ≠ []) :
    readStringRest opened (fuel + 1) acc (escapeChar c ++ rest) =
      readStringRest opened fuel (c :: acc) rest := by
  unfold escapeChar
  split_ifs with hquote hslash hline hreturn htab hfeed hback hplain hunit
  · rw [hquote]
    exact readStringRest_simple (show '"' ≠ 'u' by decide) rfl
  · rw [hslash]
    exact readStringRest_simple (show '\\' ≠ 'u' by decide) rfl
  · rw [hline]
    exact readStringRest_simple (show 'n' ≠ 'u' by decide) rfl
  · rw [hreturn]
    exact readStringRest_simple (show 'r' ≠ 'u' by decide) rfl
  · rw [htab]
    exact readStringRest_simple (show 't' ≠ 'u' by decide) rfl
  · rw [hfeed]
    exact readStringRest_simple (show 'f' ≠ 'u' by decide) rfl
  · rw [hback]
    exact readStringRest_simple (show 'b' ≠ 'u' by decide) rfl
  · exact readStringRest_plain hquote hslash hplain.1
  · have hvalid : c.toNat < 0xD800 ∨ 0xE000 ≤ c.toNat := by
      obtain h | h := c.valid
      · exact Or.inl h
      · exact Or.inr h.1
    rw [readStringRest_unit hunit hvalid hrest, Char.ofNat_toNat]
  · have hvalid : c.toNat < 0x110000 := by
      obtain h | h := c.valid
      · exact Nat.lt_trans h (by decide)
      · exact h.2
    have hsum : 0x10000 + (0xD800 + (c.toNat - 0x10000) / 0x400 - 0xD800) * 0x400 +
        (0xDC00 + (c.toNat - 0x10000) % 0x400 - 0xDC00) = c.toNat := by omega
    dsimp only
    rw [readStringRest_pair (by omega) (by omega) hrest, hsum, Char.ofNat_toNat]

end Steps

/-! ### Texts -/

theorem readStringRest_escaped {opened : Nat} {rest : List Char} : ∀ (cs acc : List Char)
    {fuel : Nat}, cs.length < fuel →
      readStringRest opened fuel acc (cs.flatMap escapeChar ++ '"' :: rest) =
        .ok (acc.reverse ++ cs, rest)
  | [], acc, fuel, hfuel => by
      obtain ⟨fuel, rfl⟩ := Nat.exists_eq_succ_of_ne_zero (Nat.ne_zero_of_lt hfuel)
      rw [List.flatMap_nil, List.nil_append, readStringRest, List.append_nil]
  | c :: cs, acc, fuel, hfuel => by
      obtain ⟨fuel, rfl⟩ := Nat.exists_eq_succ_of_ne_zero (Nat.ne_zero_of_lt hfuel)
      rw [List.flatMap_cons, List.append_assoc, readStringRest_escapeChar c (by simp),
        readStringRest_escaped cs (c :: acc) (Nat.lt_of_succ_lt_succ hfuel), List.reverse_cons,
        List.append_assoc, List.singleton_append]

theorem escapeChar_ne_nil (c : Char) : escapeChar c ≠ [] := by
  unfold escapeChar
  split_ifs <;> nofun

theorem length_le_length_escaped (cs : List Char) : cs.length ≤ (cs.flatMap escapeChar).length := by
  induction cs with
  | nil => exact Nat.le_refl _
  | cons c cs ih =>
      have hpos := List.length_pos_iff.mpr (escapeChar_ne_nil c)
      rw [List.flatMap_cons, List.length_append, List.length_cons]
      omega

/-- A text reads back from between its quotes. -/
theorem readString_escaped (s : String) (rest : List Char) :
    readString (s.toList.flatMap escapeChar ++ '"' :: rest) = .ok (s, rest) := by
  have hle := length_le_length_escaped s.toList
  have hfuel : s.toList.length < (s.toList.flatMap escapeChar ++ '"' :: rest).length + 1 := by
    rw [List.length_append]
    omega
  unfold readString
  rw [readStringRest_escaped s.toList [] hfuel]
  change Except.ok (String.ofList s.toList, rest) = _
  rw [String.ofList_toList]

/-! ### What is left -/

theorem length_of_readUnit {cs rest : List Char} {n : Nat} (h : readUnit cs = .ok (n, rest)) :
    rest.length ≤ cs.length := by
  unfold readUnit at h
  split at h
  · split at h
    · cases h
      simp only [List.length_cons]
      omega
    · cases h
  · cases h

theorem length_of_readLow? {cs rest : List Char} {n : Nat} (h : readLow? cs = some (n, rest)) :
    rest.length ≤ cs.length := by
  unfold readLow? at h
  split at h
  · split at h
    · rename_i hunit
      split_ifs at h
      cases h
      have hle := length_of_readUnit hunit
      simp only [List.length_cons] at hle ⊢
      omega
    · cases h
  · cases h

theorem length_of_readStringRest {opened : Nat} {chars rest : List Char} : ∀ (fuel : Nat)
    {acc cs : List Char}, readStringRest opened fuel acc cs = .ok (chars, rest) →
      rest.length ≤ cs.length
  | 0, acc, cs, h => by cases h
  | fuel + 1, acc, cs, h => by
      unfold readStringRest at h
      split at h
      · cases h
      · cases h
        exact Nat.le_succ _
      · split at h
        · cases h
        · obtain ⟨⟨unit, more⟩, hunit, h⟩ := exists_of_bind_ok h
          have hmore := length_of_readUnit hunit
          dsimp only at h
          rw [List.length_cons]
          split_ifs at h
          · split at h
            · rename_i hlow
              have hle := length_of_readStringRest fuel h
              have hlow := length_of_readLow? hlow
              omega
            · have hle := length_of_readStringRest fuel h
              omega
          · have hle := length_of_readStringRest fuel h
            omega
          · have hle := length_of_readStringRest fuel h
            omega
        · split at h
          · have hle := length_of_readStringRest fuel h
            simp only [List.length_cons]
            omega
          · cases h
      · split_ifs at h
        · cases h
        · have hle := length_of_readStringRest fuel h
          exact Nat.le_succ_of_le hle

theorem length_of_readString {cs rest : List Char} {s : String}
    (h : readString cs = .ok (s, rest)) : rest.length ≤ cs.length := by
  obtain ⟨⟨chars, more⟩, hchars, h⟩ := exists_of_bind_ok h
  cases h
  exact length_of_readStringRest _ hchars

end RenderRelay.Json
