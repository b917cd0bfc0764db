import RenderRelay.Path.Stored
import RenderRelay.Proofs.Path.Bare
import RenderRelay.Proofs.Text.Blank

/-! # Safe names

* `suffixOf_eq_some_iff`: the extension of a name is what follows its last dot, if something stands
  on both sides of that dot.
* `safeNameChars_eq_self`: a name of safe characters that does not begin or end with a dot or an
  underscore, and has an extension, is safe as it is (`IsSafe`).
* `isSafe_safeNameChars`: that holds of every name that was made safe, so that it is made of safe
  characters, whatever it was made of (`isSafeChar_of_mem_safeName`), and stays when it is made safe
  again (`isSafeName_safeName`).
* `isDirect_of_safe`, `checkStored_of_safe`: what is made of safe characters is accepted when it is
  asked for, unless it is empty or leads nowhere but to a directory. -/

namespace RenderRelay

namespace Path

open Text

variable {cs : List Char}

/-! ### Extensions -/

theorem exists_last_dot (h : '.' ∈ cs) :
    ∃ stem extension, '.' ∉ extension ∧ cs = stem ++ '.' :: extension := by
  obtain ⟨front, back, hreverse, hfree⟩ := List.eq_append_cons_of_mem (List.mem_reverse.mpr h)
  refine ⟨back.reverse, front.reverse, fun hmem => hfree (List.mem_reverse.mp hmem), ?_⟩
  rw [← List.reverse_reverse cs, hreverse, List.reverse_append, List.reverse_cons,
    List.append_assoc, List.singleton_append]

theorem suffixOf_of_not_mem (h : '.' ∉ cs) : suffixOf cs = none := by
  unfold suffixOf
  dsimp only
  rw [if_pos]
  simp [h]

/-- What follows the last dot is the extension, if it is not empty and neither is what stands
before. -/
theorem suffixOf_append {extension : List Char} (h : '.' ∉ extension) (stem : List Char) :
    suffixOf (stem ++ '.' :: extension) =
      if stem.isEmpty || extension.isEmpty then none else some ('.' :: extension) := by
  have hafter : ((stem ++ '.' :: extension).reverse.takeWhile (· ≠ '.')).reverse = extension := by
    have hfree : ∀ c ∈ extension.reverse, decide (c ≠ '.') = true := by
      intro c hc
      rw [decide_eq_true_eq]
      rintro rfl
      exact h (List.mem_reverse.mp hc)
    rw [List.reverse_append, List.reverse_cons, List.append_assoc, List.singleton_append,
      List.takeWhile_append_of_pos hfree, List.takeWhile_cons_of_neg (by simp), List.append_nil,
      List.reverse_reverse]
  have hstem : (stem ++ '.' :: extension).take
      ((stem ++ '.' :: extension).length - extension.length - 1) = stem := by
    refine List.take_left' ?_
    rw [List.length_append, List.length_cons]
    omega
  unfold suffixOf
  rw [hafter]
  dsimp only
  rw [hstem]
  simp

theorem suffixOf_eq_some_iff {suffix : List Char} :
    suffixOf cs = some suffix ↔ ∃ stem extension, stem ≠ [] ∧ extension ≠ [] ∧ '.' ∉ extension ∧
      cs = stem ++ '.' :: extension ∧ suffix = '.' :: extension := by
  constructor
  · intro hsuffix
    by_cases hdot : '.' ∈ cs
    · obtain ⟨stem, extension, hfree, rfl⟩ := exists_last_dot hdot
      rw [suffixOf_append hfree] at hsuffix
      split_ifs at hsuffix with hempty
      rw [Bool.or_eq_true, List.isEmpty_iff, List.isEmpty_iff, not_or] at hempty
      exact ⟨stem, extension, hempty.1, hempty.2, hfree, rfl, (Option.some.inj hsuffix).symm⟩
    · rw [suffixOf_of_not_mem hdot] at hsuffix
      cases hsuffix
  · rintro ⟨stem, extension, hstem, hextension, hfree, rfl, rfl⟩
    rw [suffixOf_append hfree, if_neg]
    simp [hstem, hextension]

/-! ### Names that are safe as they are -/

/-- A name of safe characters, with no dot and no underscore at its ends. -/
structure IsTrimmed (cs : List Char) : Prop where
  safe : ∀ c ∈ cs, isSafeChar c = true
  first : ∀ hne : cs ≠ [], ¬ isEdge (cs.head hne) = true
  last : ∀ hne : cs ≠ [], ¬ isEdge (cs.getLast hne) = true

/-- A trimmed name with an extension. -/
structure IsSafe (cs : List Char) : Prop extends IsTrimmed cs where
  suffix : (suffixOf cs).isSome = true

/-- Safe characters are among the first 128. -/
theorem toNat_lt_of_isSafeChar {c : Char} (h : isSafeChar c = true) : c.toNat < 128 := by
  unfold isSafeChar at h
  simp only [Bool.or_eq_true, Bool.and_eq_true, decide_eq_true_eq] at h
  obtain ((((⟨-, h⟩ | ⟨-, h⟩) | ⟨-, h⟩) | rfl) | rfl) | rfl := h
  · exact Nat.lt_of_le_of_lt h (by decide)
  · exact Nat.lt_of_le_of_lt h (by decide)
  · exact Nat.lt_of_le_of_lt h (by decide)
  · decide
  · decide
  · decide

theorem isSafeChar_underscore : isSafeChar '_' = true := by decide

theorem isSafeChar_of_mem_squeeze {c : Char} : ∀ {inRun : Bool} {cs : List Char},
    c ∈ squeeze inRun cs → isSafeChar c = true
  | _, [], h => absurd h List.not_mem_nil
  | inRun, d :: cs, h => by
      unfold squeeze at h
      split_ifs at h with hsafe hrun
      · obtain rfl | h := List.mem_cons.mp h
        · exact hsafe
        · exact isSafeChar_of_mem_squeeze h
      · exact isSafeChar_of_mem_squeeze h
      · obtain rfl | h := List.mem_cons.mp h
        · exact isSafeChar_underscore
        · exact isSafeChar_of_mem_squeeze h

theorem squeeze_eq_self (h : ∀ c ∈ cs, isSafeChar c = true) (inRun : Bool) :
    squeeze inRun cs = cs := by
  induction cs generalizing inRun with
  | nil => rfl
  | cons c cs ih =>
      rw [squeeze, if_pos (h c List.mem_cons_self),
        ih fun d hd => h d (List.mem_cons_of_mem c hd)]

theorem trimEdges_eq_trimBy (cs : List Char) : trimEdges cs = trimBy isEdge cs := rfl

theorem isTrimmed_trimEdges (h : ∀ c ∈ cs, isSafeChar c = true) : IsTrimmed (trimEdges cs) where
  safe := by
    obtain ⟨before, after, hcs, -, -⟩ := exists_around_trimBy isEdge cs
    intro c hc
    apply h
    rw [hcs, ← trimEdges_eq_trimBy]
    exact List.mem_append_left _ (List.mem_append_right _ hc)
  first := head_trimBy isEdge cs
  last := getLast_trimBy isEdge cs

/-- A safe name is not made any safer. -/
theorem safeNameChars_eq_self (h : IsSafe cs) : safeNameChars cs = cs := by
  obtain ⟨suffix, hsuffix⟩ := Option.isSome_iff_exists.mp h.suffix
  obtain ⟨stem, extension, hstem, -, -, hcs, -⟩ := suffixOf_eq_some_iff.mp hsuffix
  have hne : cs ≠ [] := by
    rw [hcs]
    exact List.append_ne_nil_of_left_ne_nil hstem _
  have hname : posixNameChars cs = cs := by
    refine posixNameChars_eq_self_iff.mpr ⟨fun hslash => ?_, fun hdot => ?_⟩
    · exact absurd (h.safe '/' hslash) (by decide)
    · subst hdot
      exact h.first hne rfl
  have htrim : trimEdges cs = cs := trimBy_eq_self h.first h.last
  have hfull : cs.isEmpty = false := List.isEmpty_eq_false_iff.mpr hne
  unfold safeNameChars
  dsimp only
  rw [hname, squeeze_eq_self h.safe, htrim, hfull, if_neg Bool.false_ne_true, if_pos h.suffix]

/-! ### Names that were made safe -/

/-- With the default extension a trimmed name is safe. -/
theorem IsTrimmed.isSafe_append (h : IsTrimmed cs) (hne : cs ≠ []) :
    IsSafe (cs ++ defaultSuffix) where
  safe := by
    have hsuffix : ∀ c ∈ defaultSuffix, isSafeChar c = true := List.all_eq_true.mp (by decide)
    intro c hc
    obtain hc | hc := List.mem_append.mp hc
    · exact h.safe c hc
    · exact hsuffix c hc
  first _ := by
    rw [List.head_append_of_ne_nil hne]
    exact h.first hne
  last _ := by
    rw [List.getLast_append_of_ne_nil _ (by decide)]
    decide
  suffix := by
    rw [show defaultSuffix = '.' :: "png".toList from rfl, suffixOf_append (by decide), if_neg]
    · rfl
    · simpa using hne

theorem isSafe_safeNameChars (path : List Char) : IsSafe (safeNameChars path) := by
  have htrimmed : IsTrimmed (trimEdges (squeeze false (posixNameChars path))) :=
    isTrimmed_trimEdges fun c => isSafeChar_of_mem_squeeze
  have hsuffixed : ∀ base, IsTrimmed base → base ≠ [] →
      IsSafe (if (suffixOf base).isSome then base else base ++ defaultSuffix) := by
    intro base hbase hne
    split_ifs with hsuffix
    · exact ⟨hbase, hsuffix⟩
    · exact hbase.isSafe_append hne
  unfold safeNameChars
  dsimp only
  generalize trimEdges (squeeze false (posixNameChars path)) = trimmed at htrimmed
  cases trimmed with
  | nil => exact hsuffixed _ ⟨List.all_eq_true.mp (by decide), by decide, by decide⟩ (by decide)
  | cons c rest => exact hsuffixed _ htrimmed (List.cons_ne_nil c rest)

theorem toList_safeName (path : Option String) :
    (safeName path).toList = safeNameChars (path.getD "").toList := String.toList_ofList

/-- A safe name is made of safe characters. -/
theorem isSafeChar_of_mem_safeName {path : Option String} {c : Char}
    (h : c ∈ (safeName path).toList) : isSafeChar c = true := by
  rw [toList_safeName] at h
  exact (isSafe_safeNameChars _).safe c h

/-- What holds of a safe name. -/
structure IsSafeName (name : String) : Prop where
  chars : ∀ c ∈ name.toList, c.isAlphanum = true ∨ c = '.' ∨ c = '_' ∨ c = '-'
  first : ∃ c rest, name.toList = c :: rest ∧ c ≠ '.' ∧ c ≠ '_'
  extension : ∃ stem extension, stem ≠ [] ∧ extension ≠ [] ∧ '.' ∉ extension ∧
    name.toList = stem ++ '.' :: extension
  fixed : safeName (some name) = name

theorem isAlphanum_or_of_isSafeChar {c : Char} (h : isSafeChar c = true) :
    c.isAlphanum = true ∨ c = '.' ∨ c = '_' ∨ c = '-' := by
  have hcodes : ∀ code < 128, isSafeChar (Char.ofNat code) = true →
      (Char.ofNat code).isAlphanum = true ∨ Char.ofNat code = '.' ∨ Char.ofNat code = '_' ∨
        Char.ofNat code = '-' := by decide +kernel
  have hc := hcodes c.toNat (toNat_lt_of_isSafeChar h)
  rw [Char.ofNat_toNat] at hc
  exact hc h

/-- Every name that was made safe is a safe one. -/
theorem isSafeName_safeName (path : Option String) : IsSafeName (safeName path) := by
  have hsafe := isSafe_safeNameChars (path.getD "").toList
  rw [← toList_safeName] at hsafe
  obtain ⟨suffix, hsuffix⟩ := Option.isSome_iff_exists.mp hsafe.suffix
  obtain ⟨stem, extension, hstem, hextension, hfree, hname, -⟩ := suffixOf_eq_some_iff.mp hsuffix
  constructor
  · exact fun c hc => isAlphanum_or_of_isSafeChar (hsafe.safe c hc)
  · obtain ⟨c, rest, hcons⟩ := List.exists_cons_of_ne_nil
      (show (safeName path).toList ≠ [] from hname ▸ List.append_ne_nil_of_left_ne_nil hstem _)
    have hfirst := hsafe.first (hcons ▸ List.cons_ne_nil c rest)
    simp only [hcons, List.head_cons, isEdge, Bool.or_eq_true, decide_eq_true_eq, not_or] at hfirst
    exact ⟨c, rest, hcons, hfirst⟩
  · exact ⟨stem, extension, hstem, hextension, hfree, hname⟩
  · unfold safeName
    rw [Option.getD_some, String.toList_ofList, safeNameChars_eq_self (isSafe_safeNameChars _)]

/-! ### Asking for names of safe characters -/

section Asked

variable {name : String}

theorem isSafeChar_toLower {c : Char} (h : isSafeChar c = true) : isSafeChar c.toLower = true := by
  have hcodes : ∀ code < 128, isSafeChar (Char.ofNat code) = true →
      isSafeChar (Char.ofNat code).toLower = true := by decide +kernel
  have hc := hcodes c.toNat (toNat_lt_of_isSafeChar h)
  rw [Char.ofNat_toNat] at hc
  exact hc h

/-- Every sequence that might climb has a character that is not safe. -/
theorem mayClimb_of_safe (h : ∀ c ∈ name.toList, isSafeChar c = true) : mayClimb name = false := by
  have hoffends : ∀ sequence ∈ climbing, (sequence.toList.any fun c => !isSafeChar c) = true :=
    List.all_eq_true.mp (by decide)
  unfold mayClimb
  refine Bool.eq_false_iff.mpr fun hclimbs => ?_
  obtain ⟨sequence, hsequence, hinfix⟩ := List.any_eq_true.mp hclimbs
  obtain ⟨c, hc, hno⟩ := List.any_eq_true.mp (hoffends sequence hsequence)
  obtain ⟨d, hd, hlower⟩ := List.mem_map.mp (mem_of_hasInfixChars hinfix c hc)
  rw [← hlower, isSafeChar_toLower (h d hd)] at hno
  cases hno

theorem isDirect_of_safe (h : ∀ c ∈ name.toList, isSafeChar c = true) (hempty : name ≠ "")
    (hdot : name ≠ ".") (hdots : name ≠ "..") : IsDirect name where
  nonempty := hempty
  slash hmem := absurd (h '/' hmem) (by decide)
  backslash hmem := absurd (h '\\' hmem) (by decide)
  drive := by
    rintro ⟨letter, rest, -, hname⟩
    have hcolon : ':' ∈ name.toList := hname ▸ List.mem_cons_of_mem letter List.mem_cons_self
    exact absurd (h ':' hcolon) (by decide)
  dot := hdot
  dots := hdots

theorem checkStored_of_safe (h : ∀ c ∈ name.toList, isSafeChar c = true) (hdirect : IsDirect name) :
    checkStored (some name) = .ok name :=
  checkStored_eq_ok_iff.mpr ⟨rfl, hdirect, mayClimb_of_safe h⟩

end Asked

end Path

end RenderRelay
