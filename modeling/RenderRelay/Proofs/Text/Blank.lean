import Mathlib.Data.List.DropRight
import RenderRelay.Text.Blank
import RenderRelay.Text.Lowercase

/-! # Blanks around a text, and in its lower case

* `exists_around_trimBy`: trimming takes characters of the class from both ends and nothing else,
  and `trim_trim`: what is left has none there.
* `trimBy_congr`, `trimBy_eq_self_of_imp`: what trimming by two classes has in common.
* `isBlank_iff`: the blanks are the white space and four separators, so a text without blanks at
  its ends has no white space there (`trimWhiteSpace_of_trim`).
* `lowerChars_of_not_mem`: only a capital sigma is mapped by what stands around it, so a text
  without one is mapped letter by letter (`smallLetters`); where there is one, a small sigma shows
  (`sigma_mem_lowerChars`).
* `smallLetters_of_isBlank`: blanks are their own lower case. -/

namespace RenderRelay.Text

variable {p q : Char → Bool} {cs : List Char} {c : Char}

/-! ### Trimming -/

theorem dropEndWhile_eq_rdropWhile (p : Char → Bool) (cs : List Char) :
    dropEndWhile p cs = cs.rdropWhile p := rfl

theorem trimBy_eq_rdropWhile (p : Char → Bool) (cs : List Char) :
    trimBy p cs = (cs.dropWhile p).rdropWhile p := rfl

/-- Trimming drops a part at either end that consists of the class. -/
theorem exists_around_trimBy (p : Char → Bool) (cs : List Char) :
    ∃ before after, cs = before ++ trimBy p cs ++ after ∧
      (∀ c ∈ before, p c = true) ∧ ∀ c ∈ after, p c = true := by
  have htail : trimBy p cs ++ (cs.dropWhile p).rtakeWhile p = cs.dropWhile p :=
    List.rdropWhile_append_rtakeWhile
  refine ⟨cs.takeWhile p, (cs.dropWhile p).rtakeWhile p, ?_, ?_, ?_⟩
  · rw [List.append_assoc, htail, List.takeWhile_append_dropWhile]
  · intro c hc
    exact List.mem_takeWhile_imp hc
  · intro c hc
    exact List.mem_rtakeWhile_imp hc

theorem mem_dropWhile (h : c ∈ cs) (hp : p c = false) : c ∈ cs.dropWhile p := by
  induction cs with
  | nil => exact absurd h List.not_mem_nil
  | cons d cs ih =>
      rw [List.dropWhile_cons]
      split_ifs with hd
      · obtain rfl | h := List.mem_cons.mp h
        · rw [hd] at hp
          cases hp
        · exact ih h
      · exact h

theorem mem_of_mem_trimBy (h : c ∈ trimBy p cs) : c ∈ cs := by
  unfold trimBy dropEndWhile at h
  rw [List.mem_reverse] at h
  have hmem := List.mem_reverse.mp ((List.dropWhile_sublist p).subset h)
  exact (List.dropWhile_sublist p).subset hmem

/-- What is not of the class that is dropped stays. -/
theorem mem_trimBy (h : c ∈ cs) (hp : p c = false) : c ∈ trimBy p cs := by
  unfold trimBy dropEndWhile
  rw [List.mem_reverse]
  exact mem_dropWhile (List.mem_reverse.mpr (mem_dropWhile h hp)) hp

theorem dropWhile_congr (h : ∀ c ∈ cs, p c = q c) : cs.dropWhile p = cs.dropWhile q := by
  induction cs with
  | nil => rfl
  | cons d cs ih =>
      rw [List.dropWhile_cons, List.dropWhile_cons, h d List.mem_cons_self,
        ih fun c hc => h c (List.mem_cons_of_mem d hc)]

/-- Two classes that agree on a text drop the same from it. -/
theorem trimBy_congr (h : ∀ c ∈ cs, p c = q c) : trimBy p cs = trimBy q cs := by
  unfold trimBy dropEndWhile
  rw [dropWhile_congr h, dropWhile_congr fun c hc =>
    h c ((List.dropWhile_sublist q).subset (List.mem_reverse.mp hc))]

/-- A text that begins and ends in other characters is trimmed. -/
theorem trimBy_eq_self (hfirst : ∀ hne : cs ≠ [], ¬ p (cs.head hne))
    (hlast : ∀ hne : cs ≠ [], ¬ p (cs.getLast hne)) : trimBy p cs = cs := by
  have hstart : cs.dropWhile p = cs := by
    rw [List.dropWhile_eq_self_iff]
    intro hlength
    have hhead := hfirst (List.ne_nil_of_length_pos hlength)
    rwa [List.head_eq_getElem] at hhead
  rw [trimBy_eq_rdropWhile, hstart]
  exact List.rdropWhile_eq_self_iff.mpr hlast

/-- A trimmed text begins and ends in other characters. -/
theorem head_trimBy (p : Char → Bool) (cs : List Char) (hne : trimBy p cs ≠ []) :
    ¬ p ((trimBy p cs).head hne) = true := by
  have hstart : trimBy p cs <+: cs.dropWhile p := List.rdropWhile_prefix p _
  have hdrop : cs.dropWhile p ≠ [] := fun hnil => hne (List.prefix_nil.mp (hnil ▸ hstart))
  rw [hstart.head hne]
  simp [List.head_dropWhile_not p hdrop]

theorem getLast_trimBy (p : Char → Bool) (cs : List Char) (hne : trimBy p cs ≠ []) :
    ¬ p ((trimBy p cs).getLast hne) = true :=
  List.rdropWhile_last_not p (cs.dropWhile p) hne

theorem trimBy_trimBy (p : Char → Bool) (cs : List Char) :
    trimBy p (trimBy p cs) = trimBy p cs :=
  trimBy_eq_self (head_trimBy p cs) (getLast_trimBy p cs)

/-- What is not trimmed for a class is not trimmed for a smaller one. -/
theorem trimBy_eq_self_of_imp (himp : ∀ c, q c = true → p c = true) (h : trimBy p cs = cs) :
    trimBy q cs = cs := by
  refine trimBy_eq_self (fun hne hq => ?_) fun hne hq => ?_
  · have hhead := head_trimBy p cs (by rwa [h])
    simp only [h] at hhead
    exact hhead (himp _ hq)
  · have hlast := getLast_trimBy p cs (by rwa [h])
    simp only [h] at hlast
    exact hlast (himp _ hq)

/-- A trimmed text is trimmed. -/
theorem trim_trim (s : String) : trim (trim s) = trim s := by
  apply String.toList_injective
  rw [toList_trim, toList_trim]
  exact trimBy_trimBy isBlank s.toList

/-! ### The two classes of blanks -/

/-- The wide class of blanks is the white space and the four separators. -/
theorem isBlank_iff :
    isBlank c = true ↔ isWhiteSpace c = true ∨ 0x1C ≤ c.toNat ∧ c.toNat ≤ 0x1F := by
  unfold isBlank isWhiteSpace
  by_cases hcontrol : c.toNat ≤ 0x0D
  · rw [inRanges_cons_of_le _ hcontrol, inRanges_cons_of_le _ hcontrol, decide_eq_true_eq]
    omega
  rw [inRanges_cons_of_lt _ (Nat.lt_of_not_le hcontrol),
    inRanges_cons_of_lt _ (Nat.lt_of_not_le hcontrol)]
  -- only in this range do the two classes differ
  by_cases hspace : c.toNat ≤ 0x20
  · rw [inRanges_cons_of_le _ hspace, inRanges_cons_of_le _ hspace, decide_eq_true_eq,
      decide_eq_true_eq]
    omega
  · rw [inRanges_cons_of_lt _ (Nat.lt_of_not_le hspace),
      inRanges_cons_of_lt _ (Nat.lt_of_not_le hspace)]
    exact (or_iff_left fun hseparator => hspace (hseparator.2.trans (by decide))).symm

theorem isBlank_of_isWhiteSpace (h : isWhiteSpace c = true) : isBlank c = true :=
  isBlank_iff.mpr (Or.inl h)

/-- A separator is no white space. -/
theorem isWhiteSpace_of_separator (hfrom : 0x1C ≤ c.toNat) (hto : c.toNat ≤ 0x1F) :
    isWhiteSpace c = false := by
  unfold isWhiteSpace
  rw [inRanges_cons_of_lt _ (by omega), inRanges_cons_of_le _ (by omega), decide_eq_false_iff_not]
  omega

/-- A text without blanks at its ends has no white space there. -/
theorem trimWhiteSpace_of_trim {s : String} (h : trim s = s) : trimWhiteSpace s = s := by
  have hlist : trimBy isBlank s.toList = s.toList := by rw [← toList_trim, h]
  unfold trimWhiteSpace
  rw [trimBy_eq_self_of_imp (fun _ => isBlank_of_isWhiteSpace) hlist, String.ofList_toList]

/-! ### Lower case -/

/-- The lower case of a character that is no capital sigma. -/
def smallLetters (c : Char) : List Char :=
  if c = 'İ' then ['i', Char.ofNat 0x307] else [lowerChar c]

/-- Without a capital sigma the lower case is that of the characters. -/
theorem lowerChars_of_not_mem (h : 'Σ' ∉ cs) (before : List Char) :
    lowerChars before cs = cs.flatMap smallLetters := by
  induction cs generalizing before with
  | nil => rfl
  | cons c cs ih =>
      have hne : c ≠ 'Σ' := fun heq => h (heq ▸ List.mem_cons_self)
      have hrest : 'Σ' ∉ cs := fun hmem => h (List.mem_cons_of_mem c hmem)
      rw [lowerChars, if_neg hne, ih hrest, List.flatMap_cons]
      rfl

/-- A capital sigma becomes one of the two small ones. -/
theorem sigma_mem_lowerChars (h : 'Σ' ∈ cs) (before : List Char) :
    'σ' ∈ lowerChars before cs ∨ 'ς' ∈ lowerChars before cs := by
  induction cs generalizing before with
  | nil => cases h
  | cons c cs ih =>
      rw [lowerChars]
      obtain rfl | hrest := List.mem_cons.mp h
      · rw [if_pos rfl]
        split_ifs
        · exact Or.inr List.mem_cons_self
        · exact Or.inl List.mem_cons_self
      · have hmem := ih hrest (c :: before)
        exact hmem.imp (List.mem_append_right _) (List.mem_append_right _)

theorem exists_of_inRanges {ranges : List Range} {n : Nat} (h : inRanges ranges n = true) :
    ∃ range ∈ ranges, range.1 ≤ n ∧ n ≤ range.2 := by
  induction ranges with
  | nil => cases h
  | cons range ranges ih =>
      obtain ⟨first, last⟩ := range
      by_cases hle : n ≤ last
      · rw [inRanges_cons_of_le ranges hle, decide_eq_true_eq] at h
        exact ⟨(first, last), List.mem_cons_self, h, hle⟩
      · rw [inRanges_cons_of_lt ranges (Nat.lt_of_not_le hle)] at h
        obtain ⟨range, hrange, hbounds⟩ := ih h
        exact ⟨range, List.mem_cons_of_mem _ hrange, hbounds⟩

/-- The code points of the blanks. -/
def blankCodes : List Nat :=
  List.range' 0x09 5 ++ List.range' 0x1C 5 ++ [0x85, 0xA0, 0x1680] ++ List.range' 0x2000 11 ++
    [0x2028, 0x2029, 0x202F, 0x205F, 0x3000]

theorem mem_blankCodes (h : isBlank c = true) : c.toNat ∈ blankCodes := by
  obtain ⟨⟨first, last⟩, hrange, hfirst, hlast⟩ := exists_of_inRanges h
  simp only [List.mem_cons, Prod.mk.injEq, List.not_mem_nil, or_false] at hrange
  simp only [blankCodes, List.mem_append, List.mem_range'_1, List.mem_cons, List.not_mem_nil,
    or_false]
  omega

/-- Blanks are their own lower case. -/
theorem smallLetters_of_isBlank (h : isBlank c = true) : smallLetters c = [c] := by
  have hcodes : ∀ code ∈ blankCodes, smallLetters (Char.ofNat code) = [Char.ofNat code] := by
    decide +kernel
  have hc := hcodes c.toNat (mem_blankCodes h)
  rwa [Char.ofNat_toNat] at hc

theorem lower_of_blank {s : String} (h : ∀ c ∈ s.toList, isBlank c = true) : lower s = s := by
  have hsigma : 'Σ' ∉ s.toList := fun hmem => absurd (h 'Σ' hmem) (by decide)
  have hletters : s.toList.flatMap smallLetters = s.toList := by
    rw [List.flatMap_congr fun c hc => smallLetters_of_isBlank (h c hc)]
    exact List.flatMap_singleton' s.toList
  unfold lower
  rw [lowerChars_of_not_mem hsigma, hletters, String.ofList_toList]

end RenderRelay.Text
