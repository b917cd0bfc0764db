import Mathlib.Data.List.Nodup
import RenderRelay.Json.Printer

/-! # Canonical text

The compact layout sorts the fields of an object, so that the text of an object depends on its
fields and not on their order.

* `arrange_eq_of_perm`: fields with distinct keys are arranged in one way.
* `writeChars_compact_of_perm`: objects whose written fields are the same, in whatever order, have
  one text. -/

namespace RenderRelay.Json

/-- Fields with distinct keys have one sorted order. -/
theorem Layout.arrange_eq_of_perm {layout : Layout} (hsort : layout.sortKeys = true)
    {fields more : List (String × List Char)} (hperm : fields.Perm more)
    (hnodup : (fields.map Prod.fst).Nodup) : layout.arrange fields = layout.arrange more := by
  have htrans : ∀ a b c : String × List Char, decide (a.1 ≤ b.1) = true →
      decide (b.1 ≤ c.1) = true → decide (a.1 ≤ c.1) = true := by
    intro a b c hab hbc
    exact decide_eq_true (String.le_trans (of_decide_eq_true hab) (of_decide_eq_true hbc))
  have htotal : ∀ a b : String × List Char,
      (decide (a.1 ≤ b.1) || decide (b.1 ≤ a.1)) = true := by
    intro a b
    simpa using String.le_total a.1 b.1
  unfold arrange
  rw [if_pos hsort, if_pos hsort]
  refine List.Perm.eq_of_pairwise ?_ (List.pairwise_mergeSort htrans htotal fields)
    (List.pairwise_mergeSort htrans htotal more)
    (((List.mergeSort_perm fields _).trans hperm).trans (List.mergeSort_perm more _).symm)
  intro a b ha hb hab hba
  refine List.inj_on_of_nodup_map hnodup ((List.mergeSort_perm fields _).mem_iff.mp ha)
    (hperm.mem_iff.mpr ((List.mergeSort_perm more _).mem_iff.mp hb)) ?_
  exact String.le_antisymm (of_decide_eq_true hab) (of_decide_eq_true hba)

/-- The text of an object is that of its written fields, in whatever order they stand. -/
theorem writeChars_compact_of_perm {fields more : Fields} {depth : Nat}
    (hperm : (writeFields .compact (depth + 1) fields).Perm
      (writeFields .compact (depth + 1) more))
    (hnodup : fields.keys.Nodup) :
    writeChars .compact depth (.obj fields) = writeChars .compact depth (.obj more) := by
  have hkeys : ((writeFields .compact (depth + 1) fields).map Prod.fst).Nodup := by
    rw [writeFields_eq_map, List.map_map]
    exact hnodup
  rw [writeChars, writeChars, Layout.arrange_eq_of_perm rfl hperm hkeys]

end RenderRelay.Json
