import RenderRelay.Proofs.Entries
import RenderRelay.Proofs.Json.Number
import RenderRelay.Proofs.Json.Text

/-! # Values that a text can spell

* `Spelled` holds of the values that a text can spell: the keys of an object are distinct, and no
  integer is longer than what is read.
* `spelled_of_read`: every value that is read is spelled, and no list of it is longer than the
  text. -/

namespace RenderRelay.Json

open Number

/-- A value that a text can spell, with at most `limit` items in each list. -/
inductive Spelled (limit : Nat) : Json → Prop where
  | null : Spelled limit .null
  | bool (b : Bool) : Spelled limit (.bool b)
  | int (n : Int) (hdigits : digitCount n.natAbs ≤ maxDigits) : Spelled limit (.int n)
  | float (x : Double) : Spelled limit (.float x)
  | str (s : String) : Spelled limit (.str s)
  | arr (items : List Json) (hlength : items.length ≤ limit)
      (hitems : ∀ item ∈ items, Spelled limit item) : Spelled limit (.arr items)
  | obj (fields : Fields) (hkeys : fields.keys.Nodup)
      (hvalues : ∀ field ∈ fields, Spelled limit field.2) : Spelled limit (.obj fields)

theorem Spelled.mono {limit more : Nat} (hle : limit ≤ more) {value : Json}
    (h : value.Spelled limit) : value.Spelled more := by
  induction h with
  | null => exact Spelled.null
  | bool b => exact Spelled.bool b
  | int n hdigits => exact Spelled.int n hdigits
  | float x => exact Spelled.float x
  | str s => exact Spelled.str s
  | arr items hlength hitems ih => exact Spelled.arr items (hlength.trans hle) ih
  | obj fields hkeys hvalues ih => exact Spelled.obj fields hkeys ih

/-- A list of values that texts can spell is spelled by a text. -/
theorem exists_spelled_arr {items : List Json} (h : ∀ item ∈ items, ∃ limit, item.Spelled limit) :
    ∃ limit, (Json.arr items).Spelled limit := by
  have hbound : ∃ limit, ∀ item ∈ items, item.Spelled limit := by
    induction items with
    | nil => exact ⟨0, nofun⟩
    | cons item items ih =>
        obtain ⟨first, hfirst⟩ := h item List.mem_cons_self
        obtain ⟨rest, hrest⟩ := ih fun other hother => h other (List.mem_cons_of_mem item hother)
        refine ⟨max first rest, ?_⟩
        intro other hother
        obtain rfl | hother := List.mem_cons.mp hother
        · exact hfirst.mono (Nat.le_max_left _ _)
        · exact (hrest other hother).mono (Nat.le_max_right _ _)
  obtain ⟨limit, hlimit⟩ := hbound
  refine ⟨max limit items.length, Spelled.arr items (Nat.le_max_right _ _) ?_⟩
  intro item hitem
  exact (hlimit item hitem).mono (Nat.le_max_left _ _)

/-! ### Numbers -/

theorem length_dropWhile_le (p : Char → Bool) (cs : List Char) :
    (cs.dropWhile p).length ≤ cs.length :=
  (List.dropWhile_suffix p).length_le

theorem isDigit_of_mem_takeWhile {cs : List Char} {c : Char}
    (h : c ∈ cs.takeWhile Char.isDigit) : c.isDigit :=
  List.all_eq_true.mp List.all_takeWhile c h

theorem wholePart_isDigit {cs whole rest : List Char} (h : wholePart cs = some (whole, rest)) :
    (∀ c ∈ whole, c.isDigit) ∧ rest.length ≤ cs.length := by
  cases cs with
  | nil => cases h
  | cons c tail =>
      have hc := isDigit_of_wholePart h
      unfold wholePart at h
      split at h
      · cases h
        rename_i heq
        obtain ⟨-, rfl⟩ := List.cons.inj heq
        exact ⟨List.forall_mem_singleton.mpr rfl, Nat.le_succ _⟩
      · rename_i heq
        obtain ⟨rfl, rfl⟩ := List.cons.inj heq
        split_ifs at h
        cases h
        refine ⟨?_, Nat.le_succ_of_le (length_dropWhile_le _ _)⟩
        intro d hd
        obtain rfl | hd := List.mem_cons.mp hd
        · exact hc
        · exact isDigit_of_mem_takeWhile hd
      · cases h

theorem length_of_fractionPart {cs digits rest : List Char}
    (h : fractionPart cs = some (digits, rest)) : rest.length ≤ cs.length := by
  unfold fractionPart at h
  split at h
  · split_ifs at h
    cases h
    exact Nat.le_succ_of_le (length_dropWhile_le _ _)
  · cases h

theorem length_of_splitSign (cs : List Char) : (splitSign cs).2.length ≤ cs.length := by
  unfold splitSign
  split
  · exact Nat.le_succ _
  · exact Nat.le_succ _
  · exact Nat.le_refl _

theorem length_of_exponentPart {cs rest : List Char} {exponent : Int}
    (h : exponentPart cs = some (exponent, rest)) : rest.length ≤ cs.length := by
  cases cs with
  | nil => cases h
  | cons e cs =>
      have hsign := length_of_splitSign cs
      have hdrop := length_dropWhile_le Char.isDigit (splitSign cs).2
      unfold exponentPart at h
      dsimp only at h
      split_ifs at h <;> cases h <;> exact Nat.le_succ_of_le (hdrop.trans hsign)

theorem digitCount_digitsValue_le {cs : List Char} (h : ∀ c ∈ cs, c.isDigit)
    (hlength : cs.length ≤ maxDigits) : digitCount (digitsValue cs) ≤ maxDigits := by
  rw [digitCount_le_iff (by decide)]
  exact (digitsValue_lt h).trans_le (Nat.pow_le_pow_right (by decide) hlength)

theorem readUnsigned_spelled (limit : Nat) {cs body rest : List Char} {negative : Bool}
    {value : Json} (h : readUnsigned cs negative body = .ok (value, rest)) :
    value.Spelled limit ∧ rest.length ≤ body.length := by
  unfold readUnsigned at h
  split at h
  · cases h
  · rename_i whole tail hwhole
    obtain ⟨hdigits, htail⟩ := wholePart_isDigit hwhole
    split at h
    · by_cases hlong : maxDigits < whole.length
      · rw [if_pos hlong] at h
        cases h
      · rw [if_neg hlong] at h
        cases h
        refine ⟨Spelled.int _ ?_, htail⟩
        have hcount := digitCount_digitsValue_le hdigits (Nat.not_lt.mp hlong)
        split_ifs
        · rwa [Int.natAbs_neg, Int.natAbs_natCast]
        · rwa [Int.natAbs_natCast]
    · rename_i hexponent
      cases h
      exact ⟨Spelled.float _, (length_of_exponentPart hexponent).trans htail⟩
    · rename_i _ fraction more hfraction
      have hmore := (length_of_fractionPart hfraction).trans htail
      cases hexponent : exponentPart more with
      | none =>
          rw [hexponent] at h
          cases h
          exact ⟨Spelled.float _, hmore⟩
      | some part =>
          rw [hexponent] at h
          cases h
          exact ⟨Spelled.float _, (length_of_exponentPart hexponent).trans hmore⟩

theorem keyword_spelled (limit : Nat) {entry : List Char × Json} (h : entry ∈ keywords) :
    entry.2.Spelled limit := by
  rw [keywords_eq] at h
  simp only [List.mem_cons, List.not_mem_nil, or_false] at h
  obtain rfl | rfl | rfl | rfl | rfl | rfl := h
  · exact Spelled.null
  · exact Spelled.bool true
  · exact Spelled.bool false
  · exact Spelled.float _
  · exact Spelled.float _
  · exact Spelled.float _

theorem readAtom_spelled (limit : Nat) {cs rest : List Char} {value : Json}
    (h : readAtom cs = .ok (value, rest)) : value.Spelled limit ∧ rest.length ≤ cs.length := by
  unfold readAtom at h
  split at h
  · rename_i word found hfound
    cases h
    refine ⟨keyword_spelled limit (List.mem_of_find?_eq_some hfound), ?_⟩
    rw [List.length_drop]
    exact Nat.sub_le _ _
  · unfold readNumber at h
    split at h
    · obtain ⟨hvalue, hle⟩ := readUnsigned_spelled limit h
      exact ⟨hvalue, Nat.le_succ_of_le hle⟩
    · exact readUnsigned_spelled limit h

/-! ### Lists and objects -/

theorem length_skipGaps_le (cs : List Char) : (skipGaps cs).length ≤ cs.length :=
  length_dropWhile_le isGap cs

section Readers

variable {limit : Nat}

mutual

theorem readValue_spelled : ∀ (fuel : Nat) {cs rest : List Char} {value : Json},
    cs.length ≤ limit → readValue fuel cs = .ok (value, rest) →
      value.Spelled limit ∧ rest.length ≤ cs.length
  | 0, cs, rest, value, hcs, h => by
      rw [readValue] at h
      cases h
  | fuel + 1, cs, rest, value, hcs, h => by
      have hitems : ∀ item ∈ ([] : List Json), item.Spelled limit := nofun
      have hfields : ∀ field ∈ ([] : Fields), field.2.Spelled limit := nofun
      have hkeys : (Entries.keys ([] : Fields)).Nodup := List.nodup_nil
      unfold readValue at h
      split at h
      · obtain ⟨⟨s, more⟩, hs, h⟩ := exists_of_bind_ok h
        cases h
        exact ⟨Spelled.str s, Nat.le_succ_of_le (length_of_readString hs)⟩
      · rename_i tail
        have hskip := length_skipGaps_le tail
        rw [List.length_cons] at hcs ⊢
        split at h
        · rename_i heq
          cases h
          rw [heq, List.length_cons] at hskip
          exact ⟨Spelled.arr [] (Nat.zero_le limit) nofun, by omega⟩
        · obtain ⟨hvalue, hle⟩ := readItems_spelled fuel (by rw [List.length_nil]; omega) hitems h
          exact ⟨hvalue, by omega⟩
      · rename_i tail _ _
        have hskip := length_skipGaps_le tail
        rw [List.length_cons] at hcs ⊢
        split_ifs at h with hobject
        · split at h
          · rename_i heq
            rw [heq, List.length_cons] at hskip
            split_ifs at h
            · cases h
              exact ⟨Spelled.obj [] List.nodup_nil nofun, by omega⟩
            · obtain ⟨hvalue, hle⟩ := readFields_spelled fuel (by rw [List.length_cons]; omega)
                hkeys hfields h
              rw [List.length_cons] at hle
              exact ⟨hvalue, by omega⟩
          · obtain ⟨hvalue, hle⟩ := readFields_spelled fuel (Nat.zero_le _) hkeys hfields h
            exact ⟨hvalue, hle.trans (Nat.zero_le _)⟩
        · exact readAtom_spelled limit h
      · cases h

theorem readItems_spelled : ∀ (fuel : Nat) {acc : List Json} {cs rest : List Char} {value : Json},
    acc.length + cs.length ≤ limit → (∀ item ∈ acc, item.Spelled limit) →
      readItems fuel acc cs = .ok (value, rest) → value.Spelled limit ∧ rest.length ≤ cs.length
  | 0, acc, cs, rest, value, hcs, hacc, h => by
      rw [readItems] at h
      cases h
  | fuel + 1, acc, cs, rest, value, hcs, hacc, h => by
      rw [readItems] at h
      obtain ⟨⟨item, more⟩, hitem, h⟩ := exists_of_bind_ok h
      obtain ⟨hspelled, hmore⟩ := readValue_spelled fuel (by omega) hitem
      have hskip := length_skipGaps_le more
      have hacc' : ∀ other ∈ item :: acc, other.Spelled limit := by
        intro other hother
        obtain rfl | hother := List.mem_cons.mp hother
        · exact hspelled
        · exact hacc other hother
      dsimp only at h
      split at h
      · rename_i heq
        cases h
        rw [heq, List.length_cons] at hskip
        refine ⟨Spelled.arr _ ?_ ?_, by omega⟩
        · rw [List.length_reverse, List.length_cons]
          omega
        · intro other hother
          exact hacc' other (List.mem_reverse.mp hother)
      · rename_i tail heq
        have htail := length_skipGaps_le tail
        rw [heq, List.length_cons] at hskip
        obtain ⟨hvalue, hle⟩ := readItems_spelled fuel (by rw [List.length_cons]; omega) hacc' h
        exact ⟨hvalue, by omega⟩
      · cases h

theorem readFields_spelled : ∀ (fuel : Nat) {acc : Fields} {cs rest : List Char} {value : Json},
    cs.length ≤ limit → acc.keys.Nodup → (∀ field ∈ acc, field.2.Spelled limit) →
      readFields fuel acc cs = .ok (value, rest) → value.Spelled limit ∧ rest.length ≤ cs.length
  | 0, acc, cs, rest, value, hcs, hkeys, hacc, h => by
      rw [readFields] at h
      cases h
  | fuel + 1, acc, cs, rest, value, hcs, hkeys, hacc, h => by
      unfold readFields at h
      split at h
      · rename_i text
        rw [List.length_cons] at hcs ⊢
        obtain ⟨⟨key, more⟩, hkey, h⟩ := exists_of_bind_ok h
        have hmore := length_of_readString hkey
        have hskip := length_skipGaps_le more
        dsimp only at h
        split at h
        · rename_i tail heq
          have htail := length_skipGaps_le tail
          rw [heq, List.length_cons] at hskip
          obtain ⟨⟨found, more'⟩, hfound, h⟩ := exists_of_bind_ok h
          obtain ⟨hspelled, hmore'⟩ := readValue_spelled fuel (by omega) hfound
          have hskip' := length_skipGaps_le more'
          have hkeys' := Entries.nodup_keys_put hkeys key found
          have hacc' : ∀ field ∈ acc.put key found, field.2.Spelled limit := by
            intro field hfield
            obtain rfl | ⟨hfield, -⟩ := (Entries.mem_put_iff hkeys).mp hfield
            · exact hspelled
            · exact hacc field hfield
          dsimp only at h
          split at h
          · rename_i tail' heq'
            have htail' := length_skipGaps_le tail'
            rw [heq', List.length_cons] at hskip'
            obtain ⟨hvalue, hle⟩ := readFields_spelled fuel (by omega) hkeys' hacc' h
            exact ⟨hvalue, by omega⟩
          · rename_i heq'
            split_ifs at h
            · cases h
              rw [heq', List.length_cons] at hskip'
              exact ⟨Spelled.obj _ hkeys' hacc', by omega⟩
            · cases h
          · cases h
        · cases h
      · cases h

end

end Readers

/-- Every value that is read is spelled, with no list longer than the text. -/
theorem spelled_of_read {text : String} {value : Json} (h : Json.read text = .ok value) :
    value.Spelled text.toList.length := by
  unfold Json.read readChars at h
  split_ifs at h
  · cases h
  · obtain ⟨⟨found, rest⟩, hfound, h⟩ := exists_of_bind_ok h
    obtain ⟨hspelled, -⟩ := readValue_spelled _ (length_skipGaps_le _) hfound
    dsimp only at h
    split at h
    · cases h
      exact hspelled
    · cases h

end RenderRelay.Json
