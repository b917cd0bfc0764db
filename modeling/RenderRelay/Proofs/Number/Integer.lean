import Mathlib.Data.List.Basic
import RenderRelay.Number.Read
import RenderRelay.Proofs.Text.Blank

/-! # Texts that look like integers

A text of digits that may have hyphens before them and blanks around it looks like an integer.
Some such texts are refused by the reader.

* `isDigit_plainDigit_iff`: only digits with a decimal value become ASCII digits.
* `readInteger_eq_none_iff`: a text without underscores is refused for what follows its sign:
  nothing, something else than decimal digits, or too many of them.
* `readInteger_signed_eq_none_iff`: the same for hyphens and digits. -/

namespace RenderRelay

namespace Number

open Text

variable {cs : List Char}

/-- A character as `plainDigits` writes it. -/
def plainDigit (c : Char) : Char :=
  match decimalValue? c with
  | some value => Char.ofNat (48 + value)
  | none => c

theorem plainDigits_eq_map (cs : List Char) : plainDigits cs = cs.map plainDigit := rfl

theorem decimalValue_lt {c : Char} {value : Nat} (h : decimalValue? c = some value) :
    value < 10 := by
  unfold decimalValue? at h
  obtain ⟨start, hfind, rfl⟩ := Option.map_eq_some_iff.mp h
  have hrange : start ≤ c.toNat ∧ c.toNat < start + 10 := by
    simpa using List.find?_some hfind
  omega

theorem isDigit_ofNat : ∀ value < 10, (Char.ofNat (48 + value)).isDigit = true := by decide

/-- Only a character with a decimal value becomes an ASCII digit. -/
theorem isDigit_plainDigit_iff {c : Char} :
    (plainDigit c).isDigit = true ↔ decimalValue? c ≠ none := by
  unfold plainDigit
  cases hvalue : decimalValue? c with
  | some value => simpa using isDigit_ofNat value (decimalValue_lt hvalue)
  | none =>
      have hascii : c.isDigit = false := by
        refine Bool.eq_false_iff.mpr fun hdigit => ?_
        simp only [Char.isDigit, Bool.and_eq_true, decide_eq_true_eq] at hdigit
        have hfrom : 48 ≤ c.toNat := hdigit.1
        have hto : c.toNat ≤ 57 := hdigit.2
        unfold decimalValue? decimalZeros at hvalue
        rw [List.find?_cons_of_pos (by simp; omega)] at hvalue
        cases hvalue
      simpa using hascii

theorem plainDigit_of_none {c : Char} (h : decimalValue? c = none) : plainDigit c = c := by
  unfold plainDigit
  rw [h]

/-- A character that becomes a sign or an underscore is one. -/
theorem eq_of_plainDigit_eq {c d : Char} (hd : d.isDigit = false) (h : plainDigit c = d) :
    c = d := by
  cases hvalue : decimalValue? c with
  | some value =>
      have hdigit : (plainDigit c).isDigit = true := isDigit_plainDigit_iff.mpr (by simp [hvalue])
      rw [h, hd] at hdigit
      cases hdigit
  | none => rw [← h, plainDigit_of_none hvalue]

theorem dropUnderscores_of_not_mem : ∀ {afterDigit : Bool} {cs : List Char}, '_' ∉ cs →
    dropUnderscores afterDigit cs = some cs
  | _, [], _ => by rw [dropUnderscores]
  | afterDigit, c :: cs, h => by
      have hc : c ≠ '_' := fun heq => h (heq ▸ List.mem_cons_self)
      have hcs : '_' ∉ cs := fun hmem => h (List.mem_cons_of_mem c hmem)
      rw [dropUnderscores, dropUnderscores_of_not_mem hcs]
      · rfl
      · exact hc

theorem plainNumber_of_not_mem {text : String} (h : '_' ∉ text.toList) :
    plainNumber text =
      some (plainDigits (trimBy isWhiteSpace text.toList)) := by
  refine dropUnderscores_of_not_mem fun hmem => h ?_
  obtain ⟨c, hc, hplain⟩ := List.mem_map.mp hmem
  rw [← eq_of_plainDigit_eq (by decide) hplain]
  exact mem_of_mem_trimBy hc

/-- A text without underscores is refused for what follows its sign. -/
theorem readInteger_eq_none_iff {text : String} (h : '_' ∉ text.toList) {digits : List Char}
    (hdigits : (splitSign (plainDigits
      (trimBy isWhiteSpace text.toList))).2 = digits) :
    readInteger text = none ↔
      digits = [] ∨ (∃ c ∈ digits, c.isDigit = false) ∨ maxDigits < digits.length := by
  unfold readInteger
  rw [plainNumber_of_not_mem h]
  dsimp only [bind, Option.bind]
  rw [hdigits]
  split_ifs with hrefused
  · simpa [or_assoc] using hrefused
  · simpa [or_assoc] using hrefused

/-- Hyphens and digits are refused for a second hyphen, a digit without a decimal value, or too
many digits. -/
theorem readInteger_signed_eq_none_iff {text : String} (h : '_' ∉ text.toList)
    {signs digits : List Char} (hsigns : ∀ c ∈ signs, c = '-') (hne : digits ≠ [])
    (hdigits : ∀ c ∈ digits, isDigit c = true)
    (htrim : trimBy isWhiteSpace text.toList = signs ++ digits) :
    readInteger text = none ↔
      1 < signs.length ∨ (∃ c ∈ digits, decimalValue? c = none) ∨ maxDigits < digits.length := by
  have hhyphen : plainDigit '-' = '-' := plainDigit_of_none (by decide)
  have hplain : plainDigits (signs ++ digits) = signs ++ plainDigits digits := by
    rw [plainDigits_eq_map, List.map_append]
    congr 1
    refine (List.map_congr_left fun c hc => ?_).trans (List.map_id signs)
    rw [hsigns c hc, hhyphen]
    rfl
  have hdecimal : ∀ digits : List Char,
      (∃ c ∈ plainDigits digits, c.isDigit = false) ↔ ∃ c ∈ digits, decimalValue? c = none := by
    intro digits
    rw [plainDigits_eq_map]
    simp only [List.mem_map, exists_exists_and_eq_and, ← Bool.not_eq_true,
      isDigit_plainDigit_iff, not_not]
  have hlength : (plainDigits digits).length = digits.length := List.length_map _
  have hnonempty : plainDigits digits ≠ [] := by
    rwa [ne_eq, plainDigits_eq_map, List.map_eq_nil_iff]
  match signs, hsigns with
  | [], _ =>
      have hsplit : splitSign (plainDigits digits) = (false, plainDigits digits) := by
        obtain ⟨c, rest, rfl⟩ := List.exists_cons_of_ne_nil hne
        have hc := hdigits c List.mem_cons_self
        have hfirst : ∀ d : Char, d.isDigit = false → isDigit d = false → plainDigit c ≠ d := by
          rintro d hascii hd heq
          rw [eq_of_plainDigit_eq hascii heq, hd] at hc
          cases hc
        rw [plainDigits_eq_map, List.map_cons]
        unfold splitSign
        split
        · rename_i heq
          exact absurd (List.cons.inj heq).1 (hfirst '-' (by decide) (by decide))
        · rename_i heq
          exact absurd (List.cons.inj heq).1 (hfirst '+' (by decide) (by decide))
        · rfl
      have hsecond : (splitSign (plainDigits
          (trimBy isWhiteSpace text.toList))).2 = plainDigits digits := by
        rw [htrim, hplain, List.nil_append, hsplit]
      rw [readInteger_eq_none_iff h hsecond, hdecimal, hlength]
      simp [hnonempty]
  | [c], hsigns =>
      obtain rfl := hsigns c List.mem_cons_self
      have hsecond : (splitSign (plainDigits
          (trimBy isWhiteSpace text.toList))).2 = plainDigits digits := by
        rw [htrim, hplain]
        rfl
      rw [readInteger_eq_none_iff h hsecond, hdecimal, hlength]
      simp [hnonempty]
  | c :: d :: signs, hsigns =>
      obtain rfl := hsigns c List.mem_cons_self
      obtain rfl := hsigns d (List.mem_cons_of_mem _ List.mem_cons_self)
      have hsecond : (splitSign (plainDigits
          (trimBy isWhiteSpace text.toList))).2 =
            '-' :: (signs ++ plainDigits digits) := by
        rw [htrim, hplain]
        rfl
      rw [readInteger_eq_none_iff h hsecond]
      simp

end Number

end RenderRelay
