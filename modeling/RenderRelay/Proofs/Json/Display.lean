import RenderRelay.Json.Display
import RenderRelay.Proofs.Json.Number

/-! # What values show as

* `display_eq_empty_iff`: only the empty text shows as nothing. -/

namespace RenderRelay.Json

open Number

theorem textChars_ne_nil (x : Double) : x.textChars messageNumbers ≠ [] := by
  cases x with
  | finite negative m e h =>
      unfold Double.textChars
      dsimp only
      by_cases hm : m = 0
      · rw [if_pos hm]
        split_ifs <;> nofun
      · obtain ⟨c, digits, hwrite, -⟩ :=
          head_write messageNumbers (shortest_digits_ne_zero h (Nat.pos_of_ne_zero hm))
        rw [if_neg hm, hwrite]
        split_ifs <;> nofun
  | infinite negative => cases negative <;> nofun
  | notANumber => nofun

/-- In quotes every value shows as something, a text by its quotes. -/
theorem quotedChars_ne_nil (value : Json) : value.quotedChars ≠ [] := by
  cases value with
  | null => nofun
  | bool b => cases b <;> nofun
  | int n =>
      unfold quotedChars intChars
      split_ifs
      · nofun
      · exact natDigits_ne_nil _
  | float x =>
      unfold quotedChars
      exact textChars_ne_nil x
  | str s =>
      unfold quotedChars Text.quoted
      rw [String.toList_ofList]
      nofun
  | arr items =>
      unfold quotedChars
      nofun
  | obj fields =>
      unfold quotedChars
      nofun

/-- Only the empty text shows as nothing. -/
theorem display_eq_empty_iff {value : Json} : value.display = "" ↔ value = .str "" := by
  have hquoted : value.quoted ≠ "" := fun h =>
    quotedChars_ne_nil value (String.ofList_eq_empty_iff.mp h)
  cases value with
  | str s => rw [display_str, Json.str.injEq]
  | _ => exact iff_of_false hquoted nofun

theorem display_ne_empty {value : Json} (h : value.isTruthy = true) : value.display ≠ "" := by
  intro hempty
  rw [display_eq_empty_iff.mp hempty] at h
  cases h

end RenderRelay.Json
