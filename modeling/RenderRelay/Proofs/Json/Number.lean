import RenderRelay.Json.Reader
import RenderRelay.Proofs.Number.Shortest

/-! # Numbers in JSON

Every number reads back from the text that is written for it.

* `IsWhole` describes the digits before the point: a lone zero, or digits that start with none.
* `Closes` describes what may follow a number: nothing that the number could go on with.
* `readUnsigned_whole`, `readUnsigned_fraction`, …: one lemma for each form of a number.
* `readAtom_intChars`, `readAtom_textChars`: integers and binary64 numbers read back. -/

namespace RenderRelay.Json

open Number

/-! ### Runs of digits -/

/-- The digits that stand before a point. -/
def IsWhole (whole : List Char) : Prop :=
  whole = ['0'] ∨ ∃ c digits, whole = c :: digits ∧ c ≠ '0' ∧ ∀ d ∈ whole, d.isDigit

/-- The characters do not go on with a digit. -/
def EndsDigits (rest : List Char) : Prop := ∀ c ∈ rest.head?, c.isDigit = false

/-- The characters do not go on with a part of a number. -/
def Closes (rest : List Char) : Prop :=
  ∀ c ∈ rest.head?, c.isDigit = false ∧ c ≠ '.' ∧ c ≠ 'e' ∧ c ≠ 'E'

theorem Closes.endsDigits {rest : List Char} (h : Closes rest) : EndsDigits rest :=
  fun c hc => (h c hc).1

theorem closes_nil : Closes [] := by
  intro c hc
  cases hc

theorem takeWhile_isDigit {digits rest : List Char} (hdigits : ∀ c ∈ digits, c.isDigit)
    (hrest : EndsDigits rest) : (digits ++ rest).takeWhile Char.isDigit = digits := by
  rw [List.takeWhile_append_of_pos hdigits]
  cases rest with
  | nil => simp
  | cons c rest => rw [List.takeWhile_cons_of_neg (by simp [hrest c rfl]), List.append_nil]

theorem dropWhile_isDigit {digits rest : List Char} (hdigits : ∀ c ∈ digits, c.isDigit)
    (hrest : EndsDigits rest) : (digits ++ rest).dropWhile Char.isDigit = rest := by
  rw [List.dropWhile_append_of_pos hdigits]
  cases rest with
  | nil => rfl
  | cons c rest => rw [List.dropWhile_cons_of_neg (by simp [hrest c rfl])]

theorem ne_of_isDigit {c d : Char} (hc : c.isDigit) (hd : d.isDigit = false) : c ≠ d := by
  rintro rfl
  simp [hd] at hc

theorem le_and_le_of_isDigit {c : Char} (h : c.isDigit) : '0' ≤ c ∧ c ≤ '9' := by
  simp only [Char.isDigit, Bool.and_eq_true, decide_eq_true_eq] at h
  exact h

theorem wholePart_append {whole rest : List Char} (h : IsWhole whole) (hrest : EndsDigits rest) :
    wholePart (whole ++ rest) = some (whole, rest) := by
  obtain rfl | ⟨c, digits, rfl, hc, hdigits⟩ := h
  · rfl
  · have htail : ∀ d ∈ digits, d.isDigit := fun d hd => hdigits d (List.mem_cons_of_mem c hd)
    have hbounds := le_and_le_of_isDigit (hdigits c List.mem_cons_self)
    have hone : '1' ≤ c := by
      have hne : c.toNat ≠ 48 := fun heq => hc (Char.toNat_inj.mp heq)
      have hle : 48 ≤ c.toNat := hbounds.1
      change 49 ≤ c.toNat
      omega
    rw [List.cons_append, wholePart, if_pos ⟨hone, hbounds.2⟩, takeWhile_isDigit htail hrest,
      dropWhile_isDigit htail hrest]
    exact hc

theorem isDigit_of_wholePart {c : Char} {cs : List Char} {parts : List Char × List Char}
    (h : wholePart (c :: cs) = some parts) : c.isDigit := by
  unfold wholePart at h
  split at h
  · rename_i heq
    rw [(List.cons.inj heq).1]
    rfl
  · rename_i heq
    obtain ⟨rfl, rfl⟩ := List.cons.inj heq
    split_ifs at h with hbounds
    have hone : 49 ≤ c.toNat := hbounds.1
    have hnine : c.toNat ≤ 57 := hbounds.2
    simp only [Char.isDigit, Bool.and_eq_true, decide_eq_true_eq]
    exact ⟨show 48 ≤ c.toNat by omega, hnine⟩
  · cases h

theorem fractionPart_append {fraction rest : List Char} (hne : fraction ≠ [])
    (hdigits : ∀ c ∈ fraction, c.isDigit) (hrest : EndsDigits rest) :
    fractionPart ('.' :: fraction ++ rest) = some (fraction, rest) := by
  rw [List.cons_append, fractionPart, takeWhile_isDigit hdigits hrest,
    dropWhile_isDigit hdigits hrest, if_neg (by simpa using hne)]

theorem fractionPart_of_ne {rest : List Char} (h : ∀ c ∈ rest.head?, c ≠ '.') :
    fractionPart rest = none := by
  cases rest with
  | nil => rfl
  | cons c rest =>
      rw [fractionPart]
      rintro tail heq
      exact h c rfl (List.cons.inj heq).1

theorem exponentPart_append {digits rest : List Char} (below : Prop) [Decidable below]
    (hne : digits ≠ []) (hdigits : ∀ c ∈ digits, c.isDigit) (hrest : EndsDigits rest) :
    exponentPart ('e' :: (if below then '-' else '+') :: digits ++ rest) =
      some (if below then -(digitsValue digits : Int) else digitsValue digits, rest) := by
  have hsplit : splitSign ((if below then '-' else '+') :: (digits ++ rest)) =
      (decide below, digits ++ rest) := by
    by_cases h : below
    · rw [if_pos h, decide_eq_true h]
      rfl
    · rw [if_neg h, decide_eq_false h]
      rfl
  unfold exponentPart
  rw [List.cons_append, List.cons_append]
  dsimp only
  rw [if_pos (Or.inl rfl), hsplit]
  dsimp only
  rw [takeWhile_isDigit hdigits hrest, dropWhile_isDigit hdigits hrest,
    if_neg (by simpa using hne)]
  simp only [decide_eq_true_eq]

theorem exponentPart_of_ne {rest : List Char} (h : ∀ c ∈ rest.head?, c ≠ 'e' ∧ c ≠ 'E') :
    exponentPart rest = none := by
  cases rest with
  | nil => rfl
  | cons c rest =>
      have hc := h c rfl
      unfold exponentPart
      dsimp only
      rw [if_neg (by simp [hc.1, hc.2])]

/-! ### The forms of a number -/

section Forms

variable {cs whole fraction rest : List Char} (negative : Bool)

theorem readUnsigned_whole (hwhole : IsWhole whole) (hrest : Closes rest) :
    readUnsigned cs negative (whole ++ rest) =
      if maxDigits < whole.length then failAt .integerTooLong cs
      else .ok (.int (if negative then -(digitsValue whole : Int) else digitsValue whole),
        rest) := by
  unfold readUnsigned
  rw [wholePart_append hwhole hrest.endsDigits]
  dsimp only
  rw [fractionPart_of_ne fun c hc => (hrest c hc).2.1,
    exponentPart_of_ne fun c hc => (hrest c hc).2.2]

theorem readUnsigned_fraction (hwhole : IsWhole whole) (hne : fraction ≠ [])
    (hfraction : ∀ c ∈ fraction, c.isDigit) (hrest : Closes rest) :
    readUnsigned cs negative (whole ++ '.' :: fraction ++ rest) =
      .ok (.float (Double.ofDecimal negative (digitsValue (whole ++ fraction))
        (-fraction.length)), rest) := by
  have hpoint : EndsDigits ('.' :: fraction ++ rest) := by
    rintro c ⟨⟩
    rfl
  unfold readUnsigned
  rw [List.append_assoc, wholePart_append hwhole hpoint]
  dsimp only
  rw [fractionPart_append hne hfraction hrest.endsDigits]
  dsimp only
  rw [exponentPart_of_ne fun c hc => (hrest c hc).2.2, Option.getD_none, zero_sub]

variable {digits : List Char} (below : Prop) [Decidable below]

theorem readUnsigned_exponent (hwhole : IsWhole whole) (hne : digits ≠ [])
    (hdigits : ∀ c ∈ digits, c.isDigit) (hrest : Closes rest) :
    readUnsigned cs negative
        (whole ++ 'e' :: (if below then '-' else '+') :: digits ++ rest) =
      .ok (.float (Double.ofDecimal negative (digitsValue whole)
        (if below then -(digitsValue digits : Int) else digitsValue digits)), rest) := by
  have hletter : EndsDigits ('e' :: (if below then '-' else '+') :: digits ++ rest) := by
    rintro c ⟨⟩
    rfl
  unfold readUnsigned
  rw [List.append_assoc, wholePart_append hwhole hletter]
  dsimp only
  rw [fractionPart_of_ne (by rintro c ⟨⟩; decide),
    exponentPart_append below hne hdigits hrest.endsDigits]

theorem readUnsigned_fraction_exponent (hwhole : IsWhole whole) (hne : fraction ≠ [])
    (hfraction : ∀ c ∈ fraction, c.isDigit) (hne' : digits ≠ [])
    (hdigits : ∀ c ∈ digits, c.isDigit) (hrest : Closes rest) :
    readUnsigned cs negative (whole ++ '.' :: fraction ++
        'e' :: (if below then '-' else '+') :: digits ++ rest) =
      .ok (.float (Double.ofDecimal negative (digitsValue (whole ++ fraction))
        ((if below then -(digitsValue digits : Int) else digitsValue digits) -
          fraction.length)), rest) := by
  have hpoint : EndsDigits ('.' :: fraction ++
      ('e' :: (if below then '-' else '+') :: digits ++ rest)) := by
    rintro c ⟨⟩
    rfl
  have hletter : EndsDigits ('e' :: (if below then '-' else '+') :: digits ++ rest) := by
    rintro c ⟨⟩
    rfl
  unfold readUnsigned
  rw [List.append_assoc, List.append_assoc, wholePart_append hwhole hpoint]
  dsimp only
  rw [fractionPart_append hne hfraction hletter]
  dsimp only
  rw [exponentPart_append below hne' hdigits hrest.endsDigits, Option.getD_some]

end Forms

/-! ### Written numbers -/

theorem isWhole_natDigits (n : Nat) : IsWhole (natDigits n) := by
  obtain rfl | hn := Nat.eq_zero_or_pos n
  · exact Or.inl (Nat.toDigits_zero 10)
  · obtain ⟨c, digits, hdigits, hc⟩ := head_natDigits hn.ne'
    exact Or.inr ⟨c, digits, hdigits, hc, fun d hd => isDigit_of_mem_natDigits hd⟩

theorem IsWhole.append_zeros {whole : List Char} (h : IsWhole whole) (hne : whole ≠ ['0'])
    (k : Nat) : IsWhole (whole ++ zeros k) := by
  obtain rfl | ⟨c, digits, rfl, hc, hdigits⟩ := h
  · exact absurd rfl hne
  · refine Or.inr ⟨c, digits ++ zeros k, rfl, hc, ?_⟩
    intro d hd
    obtain hd | hd := List.mem_append.mp hd
    · exact hdigits d hd
    · exact isDigit_of_mem_zeros hd

theorem IsWhole.take {whole : List Char} (h : IsWhole whole) (hne : whole ≠ ['0']) {k : Nat}
    (hk : 0 < k) : IsWhole (whole.take k) := by
  obtain rfl | ⟨c, digits, rfl, hc, hdigits⟩ := h
  · exact absurd rfl hne
  · obtain ⟨k, rfl⟩ := Nat.exists_eq_succ_of_ne_zero hk.ne'
    exact Or.inr ⟨c, digits.take k, rfl, hc, fun d hd => hdigits d (List.mem_of_mem_take hd)⟩

/-! ### The layouts of a decimal -/

section Layouts

variable {n : Nat} {cs rest : List Char} (negative : Bool)

theorem natDigits_ne_zero (hn : n ≠ 0) : natDigits n ≠ ['0'] := by
  intro h
  have hvalue := digitsValue_natDigits n
  rw [h] at hvalue
  exact hn hvalue.symm

theorem length_natDigits_pos (n : Nat) : 0 < (natDigits n).length :=
  List.length_pos_iff.mpr (natDigits_ne_nil n)

/-- A fraction alone: `0.00ddd`. -/
theorem readUnsigned_fractionOnly (k : Nat) (hrest : Closes rest) :
    readUnsigned cs negative ('0' :: '.' :: zeros k ++ natDigits n ++ rest) =
      .ok (.float (Double.ofDecimal negative n (-(k + (natDigits n).length : Nat))), rest) := by
  have htext : '0' :: '.' :: zeros k ++ natDigits n ++ rest =
      ['0'] ++ '.' :: (zeros k ++ natDigits n) ++ rest := by simp
  have hfraction : ∀ c ∈ zeros k ++ natDigits n, c.isDigit := by
    intro c hc
    obtain hc | hc := List.mem_append.mp hc
    · exact isDigit_of_mem_zeros hc
    · exact isDigit_of_mem_natDigits hc
  have hvalue : digitsValue (['0'] ++ (zeros k ++ natDigits n)) = n := by
    change digitsValue (zeros 1 ++ (zeros k ++ natDigits n)) = n
    rw [digitsValue_zeros_append, digitsValue_zeros_append, digitsValue_natDigits]
  have hne : zeros k ++ natDigits n ≠ [] := by
    rw [← List.length_pos_iff, List.length_append]
    have hpos := length_natDigits_pos n
    omega
  rw [htext, readUnsigned_fraction negative (Or.inl rfl) hne hfraction hrest, hvalue,
    List.length_append, zeros, List.length_replicate]

/-- A whole number: `ddd00.0`. -/
theorem readUnsigned_wholeOnly (hn : n ≠ 0) (k : Nat) (hrest : Closes rest) :
    readUnsigned cs negative (natDigits n ++ zeros k ++ ['.', '0'] ++ rest) =
      .ok (.float (Double.ofDecimal negative n k), rest) := by
  have hvalue : digitsValue (natDigits n ++ zeros k ++ ['0']) = n * 10 ^ (k + 1) := by
    change digitsValue (natDigits n ++ zeros k ++ zeros 1) = n * 10 ^ (k + 1)
    rw [digitsValue_append_zeros, digitsValue_append_zeros, digitsValue_natDigits, Nat.pow_succ]
    ring
  have hexponent : -((['0'].length : Nat) : Int) + ((k + 1 : Nat) : Int) = k := by
    rw [List.length_singleton]
    omega
  rw [readUnsigned_fraction negative
    ((isWhole_natDigits n).append_zeros (natDigits_ne_zero hn) k) (by simp)
    (List.forall_mem_singleton.mpr rfl) hrest, hvalue, Double.ofDecimal_mul_pow, hexponent]

/-- Digits on both sides of the point: `dd.d`. -/
theorem readUnsigned_bothSides (hn : n ≠ 0) {k : Nat} (hk : 0 < k)
    (hlt : k < (natDigits n).length) (hrest : Closes rest) :
    readUnsigned cs negative
        ((natDigits n).take k ++ '.' :: (natDigits n).drop k ++ rest) =
      .ok (.float (Double.ofDecimal negative n (-((natDigits n).length - k : Nat))), rest) := by
  have hfraction : ∀ c ∈ (natDigits n).drop k, c.isDigit :=
    fun c hc => isDigit_of_mem_natDigits (List.mem_of_mem_drop hc)
  have hne : (natDigits n).drop k ≠ [] := by
    rw [← List.length_pos_iff, List.length_drop]
    omega
  rw [readUnsigned_fraction negative ((isWhole_natDigits n).take (natDigits_ne_zero hn) hk) hne
    hfraction hrest, List.take_append_drop, digitsValue_natDigits, List.length_drop]

/-- One digit before the point and an exponent: `de+xx` or `d.dde+xx`. -/
theorem readUnsigned_scientific (hn : n ≠ 0) (power : Int) (k : Nat) (hrest : Closes rest) :
    readUnsigned cs negative ((natDigits n).take 1 ++
        (if (natDigits n).length = 1 then [] else '.' :: (natDigits n).drop 1) ++
        'e' :: (if power < 0 then '-' else '+') :: (zeros k ++ natDigits power.natAbs) ++ rest) =
      .ok (.float (Double.ofDecimal negative n (power - ((natDigits n).length - 1 : Nat))),
        rest) := by
  have hdigits : ∀ c ∈ zeros k ++ natDigits power.natAbs, c.isDigit := by
    intro c hc
    obtain hc | hc := List.mem_append.mp hc
    · exact isDigit_of_mem_zeros hc
    · exact isDigit_of_mem_natDigits hc
  have hne : zeros k ++ natDigits power.natAbs ≠ [] := by
    rw [← List.length_pos_iff, List.length_append]
    have hpos := length_natDigits_pos power.natAbs
    omega
  have hsigned : (if power < 0 then -(digitsValue (zeros k ++ natDigits power.natAbs) : Int)
      else digitsValue (zeros k ++ natDigits power.natAbs)) = power := by
    rw [digitsValue_zeros_append, digitsValue_natDigits]
    split_ifs <;> omega
  have hpos := length_natDigits_pos n
  by_cases hone : (natDigits n).length = 1
  · rw [if_pos hone, List.append_nil, List.take_of_length_le hone.le,
      readUnsigned_exponent negative (power < 0) (isWhole_natDigits n) hne hdigits hrest, hsigned,
      digitsValue_natDigits, hone]
    simp
  · have hfraction : ∀ c ∈ (natDigits n).drop 1, c.isDigit :=
      fun c hc => isDigit_of_mem_natDigits (List.mem_of_mem_drop hc)
    have hfractionNe : (natDigits n).drop 1 ≠ [] := by
      rw [← List.length_pos_iff, List.length_drop]
      omega
    rw [if_neg hone, readUnsigned_fraction_exponent negative (power < 0)
      ((isWhole_natDigits n).take (natDigits_ne_zero hn) Nat.one_pos) hfractionNe hfraction hne
      hdigits hrest, hsigned, List.take_append_drop, digitsValue_natDigits, List.length_drop]

/-- A decimal that is written in a style reads as its value. -/
theorem readUnsigned_write (style : DecimalStyle) {d : Decimal} (hd : d.digits ≠ 0)
    (hrest : Closes rest) :
    readUnsigned cs negative (style.write d ++ rest) =
      .ok (.float (Double.ofDecimal negative d.digits d.exponent), rest) := by
  have hpos := length_natDigits_pos d.digits
  unfold DecimalStyle.write
  dsimp only
  generalize hpower : d.exponent + (natDigits d.digits).length - 1 = power
  by_cases hplain : style.lowest ≤ power ∧ power < style.beyond
  · rw [if_pos hplain]
    by_cases hbelow : power < 0
    · rw [if_pos hbelow, readUnsigned_fractionOnly negative _ hrest]
      congr 4
      omega
    · rw [if_neg hbelow]
      by_cases hshort : (natDigits d.digits).length ≤ (power + 1).toNat
      · rw [if_pos hshort, readUnsigned_wholeOnly negative hd _ hrest]
        congr 4
        omega
      · rw [if_neg hshort, readUnsigned_bothSides negative hd (by omega) (by omega) hrest]
        congr 4
        omega
  · rw [if_neg hplain, readUnsigned_scientific negative hd power _ hrest]
    congr 4
    omega

end Layouts

/-! ### Integers and binary64 numbers -/

section Atoms

variable {rest : List Char}

theorem keywords_eq : keywords =
    [(['n', 'u', 'l', 'l'], .null), (['t', 'r', 'u', 'e'], .bool true),
      (['f', 'a', 'l', 's', 'e'], .bool false), (['N', 'a', 'N'], .float .notANumber),
      (['I', 'n', 'f', 'i', 'n', 'i', 't', 'y'], .float (.infinite false)),
      (['-', 'I', 'n', 'f', 'i', 'n', 'i', 't', 'y'], .float (.infinite true))] := rfl

theorem find_keyword_of_isDigit {c : Char} (hc : c.isDigit) (cs : List Char) :
    (keywords.find? fun entry => entry.1.isPrefixOf (c :: cs)) = none := by
  have hne : ∀ d : Char, d.isDigit = false → (d == c) = false :=
    fun d hd => beq_false_of_ne (ne_of_isDigit hc hd).symm
  rw [keywords_eq]
  simp only [List.find?, List.isPrefixOf, hne 'n' rfl, hne 't' rfl, hne 'f' rfl, hne 'N' rfl,
    hne 'I' rfl, hne '-' rfl, Bool.false_and]

theorem find_keyword_of_minus {c : Char} (hc : c.isDigit) (cs : List Char) :
    (keywords.find? fun entry => entry.1.isPrefixOf ('-' :: c :: cs)) = none := by
  have hne : ('I' == c) = false := beq_false_of_ne (ne_of_isDigit hc rfl).symm
  rw [keywords_eq]
  simp [List.find?, List.isPrefixOf, hne]

/-- Words aside, what starts like a number is one. -/
theorem readAtom_signed (negative : Bool) {body : List Char}
    (hbody : ∃ c digits, body = c :: digits ∧ c.isDigit) :
    readAtom ((if negative then '-' :: body else body) ++ rest) =
      readUnsigned ((if negative then '-' :: body else body) ++ rest) negative (body ++ rest) := by
  obtain ⟨c, digits, rfl, hc⟩ := hbody
  cases negative with
  | true =>
      simp only [if_true, List.cons_append]
      unfold readAtom
      rw [find_keyword_of_minus hc]
      rfl
  | false =>
      simp only [Bool.false_eq_true, if_false, List.cons_append]
      unfold readAtom
      rw [find_keyword_of_isDigit hc]
      dsimp only
      rw [readNumber]
      rintro tail heq
      exact ne_of_isDigit hc rfl (List.cons.inj heq).1

theorem head_natDigits_isDigit (n : Nat) : ∃ c digits, natDigits n = c :: digits ∧ c.isDigit := by
  obtain ⟨c, digits, h⟩ := List.exists_cons_of_ne_nil (natDigits_ne_nil n)
  have hmem : c ∈ natDigits n := by
    rw [h]
    exact List.mem_cons_self
  exact ⟨c, digits, h, isDigit_of_mem_natDigits hmem⟩

/-- An integer reads back, unless it is too long. -/
theorem readAtom_intChars_eq (n : Int) (hrest : Closes rest) :
    readAtom (intChars n ++ rest) =
      if maxDigits < (natDigits n.natAbs).length then
        failAt .integerTooLong (intChars n ++ rest)
      else .ok (.int n, rest) := by
  have hchars : intChars n =
      if decide (n < 0) then '-' :: natDigits n.natAbs else natDigits n.natAbs := by
    simp only [intChars, decide_eq_true_eq]
  have hvalue : (if decide (n < 0) = true then -(n.natAbs : Int) else n.natAbs) = n := by
    by_cases h : n < 0
    · rw [decide_eq_true h, if_pos rfl]
      omega
    · rw [decide_eq_false h, if_neg Bool.false_ne_true]
      omega
  rw [hchars, readAtom_signed _ (head_natDigits_isDigit n.natAbs),
    readUnsigned_whole _ (isWhole_natDigits n.natAbs) hrest, digitsValue_natDigits, hvalue]

/-- An integer that is not too long reads back. -/
theorem readAtom_intChars {n : Int} (hn : (natDigits n.natAbs).length ≤ maxDigits)
    (hrest : Closes rest) :
    readAtom (intChars n ++ rest) = .ok (.int n, rest) := by
  rw [readAtom_intChars_eq n hrest, if_neg (Nat.not_lt.mpr hn)]

/-- An integer that is too long is refused. -/
theorem readAtom_of_long {n : Nat} (hn : maxDigits < (natDigits n).length) :
    readAtom (natDigits n) = failAt .integerTooLong (natDigits n) := by
  have hchars : intChars n = natDigits n := if_neg (Int.not_lt.mpr (Int.natCast_nonneg n))
  have hread : readAtom (intChars n ++ []) = _ := readAtom_intChars_eq n closes_nil
  rw [hchars, List.append_nil, Int.natAbs_natCast, if_pos hn] at hread
  exact hread

/-- A written decimal starts with a digit. -/
theorem head_write (style : DecimalStyle) {d : Decimal} (hd : d.digits ≠ 0) :
    ∃ c digits, style.write d = c :: digits ∧ c.isDigit := by
  have hreads : readUnsigned [] false (style.write d ++ []) = _ :=
    readUnsigned_write false style hd nofun
  rw [List.append_nil] at hreads
  generalize style.write d = body at hreads
  cases body with
  | nil => cases hreads
  | cons c digits =>
      refine ⟨c, digits, rfl, ?_⟩
      cases hwhole : wholePart (c :: digits) with
      | none =>
          unfold readUnsigned at hreads
          rw [hwhole] at hreads
          cases hreads
      | some parts => exact isDigit_of_wholePart hwhole

/-- A binary64 number reads back. -/
theorem readAtom_textChars (x : Double) (hrest : Closes rest) :
    readAtom (x.textChars jsonNumbers ++ rest) = .ok (.float x, rest) := by
  cases x with
  | finite negative m e h =>
      obtain rfl | hm := Nat.eq_zero_or_pos m
      · obtain ⟨-, -, -, he⟩ := h
        obtain rfl : e = -1074 := he.resolve_right (by decide)
        change readAtom ((if negative then '-' :: ['0', '.', '0'] else ['0', '.', '0']) ++ rest) = _
        rw [readAtom_signed _ ⟨'0', ['.', '0'], rfl, rfl⟩]
        exact readUnsigned_fraction negative (Or.inl rfl) (by simp)
          (List.forall_mem_singleton.mpr rfl) hrest
      · have hdigits := shortest_digits_ne_zero h hm
        unfold Double.textChars
        dsimp only
        rw [if_neg hm.ne', readAtom_signed _ (head_write jsonNumbers hdigits),
          readUnsigned_write negative jsonNumbers hdigits hrest,
          Double.ofDecimal_of_false (shortest_reads h hm)]
  | infinite negative =>
      cases negative with
      | true => rfl
      | false => rfl
  | notANumber => rfl

end Atoms

end RenderRelay.Json
