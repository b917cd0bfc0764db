/-! # Sets of code points

A character class is written as an ascending list of closed ranges of code points.
`inRanges` stops at the first range that ends at or above the code point, so a class with
many ranges costs little for the characters that come early. -/

namespace RenderRelay.Text

/-- A closed range of code points, first and last. -/
abbrev Range := Nat × Nat

/-- Is `n` in one of the ranges?  The ranges ascend and do not touch. -/
def inRanges : List Range → Nat → Bool
  | [], _ => false
  | (first, last) :: rest, n => if n ≤ last then decide (first ≤ n) else inRanges rest n

@[simp] theorem inRanges_nil (n : Nat) : inRanges [] n = false := rfl

theorem inRanges_cons_of_le {first last n : Nat} (rest : List Range) (h : n ≤ last) :
    inRanges ((first, last) :: rest) n = decide (first ≤ n) := by
  simp [inRanges, h]

theorem inRanges_cons_of_lt {first last n : Nat} (rest : List Range) (h : last < n) :
    inRanges ((first, last) :: rest) n = inRanges rest n := by
  simp [inRanges, Nat.not_le.2 h]

end RenderRelay.Text
