import RenderRelay.Job.Compile
import RenderRelay.Proofs.Except
import RenderRelay.Proofs.Number.Integer

/-! # What the lenient reader of graphs refuses

Whatever the nodes and links of an object are, it is read as a graph and compiled, unless one slot
index of a link is misspelled.

* `Misspelled` says of the characters of a text that it looks like a number and spells none;
  `readInteger_eq_none_iff_misspelled` that these are the texts which the reader of integers
  refuses.
* `ofJson_outcome`, `ofItems_outcome`: a link, and a list of them, is refused for the first
  misspelled text among its slots.
* `compileJson_outcome`: the three outcomes of compiling a stored value. -/

namespace RenderRelay

open Text Number

namespace Link

/-! ### Slot indices -/

/-- The hyphens before the digits of a slot index. -/
def signs (text : String) : List Char := (trim text).toList.takeWhile (· = '-')

/-- What follows the hyphens of a slot index. -/
def digits (text : String) : List Char := (trim text).toList.dropWhile (· = '-')

/-- The text holds a separator, which is a blank but no white space around a number. -/
def HasSeparator (text : String) : Prop :=
  ∃ c ∈ text.toList, 0x1c ≤ c.toNat ∧ c.toNat ≤ 0x1f

instance (text : String) : Decidable (HasSeparator text) :=
  decidable_of_iff ((text.toList.any fun c => 0x1c ≤ c.toNat ∧ c.toNat ≤ 0x1f) = true)
    (by simp only [HasSeparator, List.any_eq_true, decide_eq_true_eq])

/-- A text that looks like a number and spells none: it has a second sign, a digit without a
decimal value, too many digits or a separator. -/
def Misspelled (text : String) : Prop :=
  looksNumeric text = true ∧
    (1 < (signs text).length ∨ (∃ c ∈ digits text, decimalValue? c = none) ∨
      maxDigits < (digits text).length ∨ HasSeparator text)

instance (text : String) : Decidable (Misspelled text) :=
  decidable_of_iff (looksNumeric text = true ∧
      (1 < (signs text).length ∨ ((digits text).any fun c => decimalValue? c = none) = true ∨
        maxDigits < (digits text).length ∨ HasSeparator text))
    (by simp only [Misspelled, List.any_eq_true, decide_eq_true_eq])

variable {text : String}

theorem eq_hyphen_of_mem_signs {c : Char} (h : c ∈ signs text) : c = '-' := by
  simpa using List.all_eq_true.mp List.all_takeWhile c h

theorem toList_trim_eq (text : String) :
    trimBy isBlank text.toList = signs text ++ digits text := by
  unfold signs digits
  rw [List.takeWhile_append_dropWhile, toList_trim]

theorem looksNumeric_iff :
    looksNumeric text = true ↔ digits text ≠ [] ∧ ∀ c ∈ digits text, isDigit c = true := by
  unfold looksNumeric digits
  simp

theorem underscore_not_mem (h : looksNumeric text = true) : '_' ∉ text.toList := by
  intro hmem
  have htrim := mem_trimBy (p := isBlank) hmem (by decide)
  rw [toList_trim_eq] at htrim
  obtain hsign | hdigit := List.mem_append.mp htrim
  · exact absurd (eq_hyphen_of_mem_signs hsign) (by decide)
  · exact absurd ((looksNumeric_iff.mp h).2 _ hdigit) (by decide)

/-- In a text without separators the blanks are white space. -/
theorem trimBy_isWhiteSpace (h : ¬ HasSeparator text) :
    trimBy isWhiteSpace text.toList = signs text ++ digits text := by
  rw [← toList_trim_eq]
  refine trimBy_congr fun c hc => Bool.eq_iff_iff.mpr ?_
  rw [isBlank_iff]
  exact (or_iff_left fun hseparator => h ⟨c, hc, hseparator⟩).symm

theorem decimalZeros_above : ∀ n < 0x30,
    decimalZeros.find? (fun start => decide (start ≤ n ∧ n < start + 10)) = none := by
  decide

theorem mem_splitSign {cs : List Char} {c : Char} (h : c ∈ cs) (hminus : c ≠ '-')
    (hplus : c ≠ '+') : c ∈ (splitSign cs).2 := by
  unfold splitSign
  split
  · exact (List.mem_cons.mp h).resolve_left hminus
  · exact (List.mem_cons.mp h).resolve_left hplus
  · exact h

/-- A separator stays and is no digit. -/
theorem readInteger_of_hasSeparator (h : '_' ∉ text.toList) (hseparator : HasSeparator text) :
    readInteger text = none := by
  obtain ⟨c, hc, hfrom, hto⟩ := hseparator
  have hblank := isWhiteSpace_of_separator hfrom hto
  have hvalue : decimalValue? c = none := by
    unfold decimalValue?
    rw [decimalZeros_above c.toNat (by omega)]
    rfl
  have hplain : c ∈ plainDigits (trimBy isWhiteSpace text.toList) :=
    List.mem_map.mpr ⟨c, mem_trimBy hc hblank, plainDigit_of_none hvalue⟩
  have hne : ∀ d : Char, 0x20 < d.toNat → c ≠ d := by
    rintro d hd rfl
    omega
  have hdigit : c.isDigit = false := by
    refine Bool.eq_false_iff.mpr fun hdigit => ?_
    rw [← plainDigit_of_none hvalue, isDigit_plainDigit_iff] at hdigit
    exact hdigit hvalue
  exact (readInteger_eq_none_iff h rfl).mpr
    (Or.inr (Or.inl ⟨c, mem_splitSign hplain (hne _ (by decide)) (hne _ (by decide)), hdigit⟩))

/-- The texts that look like numbers and are refused are the misspelled ones. -/
theorem readInteger_eq_none_iff_misspelled (h : looksNumeric text = true) :
    readInteger text = none ↔ Misspelled text := by
  have hunderscore := underscore_not_mem h
  by_cases hseparator : HasSeparator text
  · exact iff_of_true (readInteger_of_hasSeparator hunderscore hseparator)
      ⟨h, Or.inr (Or.inr (Or.inr hseparator))⟩
  · obtain ⟨hne, hdigits⟩ := looksNumeric_iff.mp h
    rw [readInteger_signed_eq_none_iff hunderscore (fun c => eq_hyphen_of_mem_signs) hne hdigits
      (trimBy_isWhiteSpace hseparator)]
    unfold Misspelled
    simp only [h, hseparator, true_and, or_false]

/-- A superscript looks like a number, and so does a digit behind a separator; a number may have
white space around it. -/
example : Misspelled "²" ∧ Misspelled "\x1c٥" ∧ ¬ Misspelled " -5 " := by decide

/-! ### Links -/

/-- The step is refused for the first misspelled one of the texts, and else has an answer. -/
def RefusedFor {α : Type} (texts : List String) (act : Except GraphError α) : Prop :=
  match texts.find? fun text => Misspelled text with
  | some text => act = .error (.slotIndex text)
  | none => ∃ value, act = .ok value

namespace RefusedFor

variable {α β : Type} {texts more : List String} {act : Except GraphError α}

theorem ok (value : α) : RefusedFor [] (.ok value) := ⟨value, rfl⟩

theorem bind (h : RefusedFor texts act) {next : α → Except GraphError β}
    (hnext : ∀ value, RefusedFor more (next value)) :
    RefusedFor (texts ++ more) (act >>= next) := by
  unfold RefusedFor at h ⊢
  rw [List.find?_append]
  cases hfind : texts.find? fun text => Misspelled text with
  | some text =>
      rw [hfind] at h
      rw [h]
      rfl
  | none =>
      rw [hfind] at h
      obtain ⟨value, rfl⟩ := h
      exact hnext value

theorem map (h : RefusedFor texts act) (change : α → β) : RefusedFor texts (act.map change) := by
  unfold RefusedFor at h ⊢
  cases hfind : texts.find? fun text => Misspelled text with
  | some text =>
      rw [hfind] at h
      rw [h]
      rfl
  | none =>
      rw [hfind] at h
      obtain ⟨value, rfl⟩ := h
      exact ⟨change value, rfl⟩

theorem exists_ok (h : RefusedFor texts act) (hspelled : ∀ text ∈ texts, ¬ Misspelled text) :
    ∃ value, act = .ok value := by
  have hfind : texts.find? (fun text => Misspelled text) = none :=
    List.find?_eq_none.mpr fun text htext => by simpa using hspelled text htext
  unfold RefusedFor at h
  rwa [hfind] at h

end RefusedFor

theorem slotIndex_outcome (value : Json) : RefusedFor value.text?.toList (slotIndex value) := by
  cases value with
  | str text =>
      cases hlooks : looksNumeric text with
      | true =>
          have hiff := readInteger_eq_none_iff_misspelled hlooks
          cases hread : readInteger text with
          | none =>
              have hfind : [text].find? (fun text => Misspelled text) = some text :=
                List.find?_cons_of_pos (decide_eq_true (hiff.mp hread))
              unfold RefusedFor slotIndex
              dsimp only [Json.text?, Option.toList_some]
              rw [hfind, if_pos hlooks, hread]
          | some n =>
              have hfind : [text].find? (fun text => Misspelled text) = none := by
                simp [← hiff, hread]
              unfold RefusedFor slotIndex
              dsimp only [Json.text?, Option.toList_some]
              rw [hfind, if_pos hlooks, hread]
              exact ⟨n, rfl⟩
      | false =>
          have hfind : [text].find? (fun text => Misspelled text) = none := by
            simp [Misspelled, hlooks]
          unfold RefusedFor slotIndex
          dsimp only [Json.text?, Option.toList_some]
          rw [hfind, hlooks]
          exact ⟨0, rfl⟩
  | int n => exact RefusedFor.ok n
  | null | bool | float | arr | obj => exact RefusedFor.ok 0

/-- The texts that stand for the slot indices of a raw link. -/
def slotTexts : Json → List String
  | .arr (_ :: source :: sourceSlot :: dest :: destSlot :: _) =>
      if source = .null ∨ dest = .null then [] else sourceSlot.text?.toList ++ destSlot.text?.toList
  | _ => []

theorem ofJson_outcome (item : Json) : RefusedFor (slotTexts item) (ofJson item) := by
  unfold slotTexts
  split
  · dsimp only [ofJson]
    split_ifs
    · exact RefusedFor.ok none
    · refine (slotIndex_outcome _).bind fun sourceSlot => ?_
      rw [← List.append_nil (Option.toList _)]
      exact (slotIndex_outcome _).bind fun destSlot => RefusedFor.ok _
  · rename_i hshort
    have hnone : ofJson item = .ok none := by
      unfold ofJson
      split
      · exact absurd rfl (hshort _ _ _ _ _ _)
      · rfl
    rw [hnone]
    exact RefusedFor.ok none

theorem ofItems_outcome (items : List Json) :
    RefusedFor (items.flatMap slotTexts) (ofItems items) := by
  induction items with
  | nil => exact RefusedFor.ok []
  | cons item items ih =>
      rw [List.flatMap_cons]
      refine (ofJson_outcome item).bind fun link => ?_
      rw [← List.append_nil (items.flatMap slotTexts)]
      exact ih.bind fun links => RefusedFor.ok _

end Link

/-! ### Graphs -/

/-- The texts that stand for slot indices in a stored graph. -/
def Graph.slotTexts (payload : Json) : List String :=
  (payload.get "links").items.flatMap Link.slotTexts

/-- A stored object is refused for its first misspelled slot index and is a graph without one. -/
theorem Graph.ofFields_outcome (fields : Fields) :
    Link.RefusedFor (Graph.slotTexts (.obj fields)) (Graph.ofFields fields) := by
  rw [← List.append_nil (Graph.slotTexts (.obj fields))]
  exact (Link.ofItems_outcome (fields.get "links").items).bind fun links => Link.RefusedFor.ok _

/-- A stored object is refused for its first misspelled slot index and compiles without one. -/
theorem compileJson_obj_outcome (fields : Fields) :
    Link.RefusedFor (Graph.slotTexts (.obj fields)) (compileJson (.obj fields)) :=
  (Graph.ofFields_outcome fields).map _

theorem compileJson_of_fields_eq_none {payload : Json} (h : payload.fields? = none) :
    compileJson payload = .error (.notObject payload.kindName) := by
  cases payload with
  | obj fields => cases h
  | _ => rfl

/-- A stored value is refused because it is no object, or for its first misspelled slot index; every
other one compiles. -/
theorem compileJson_outcome (payload : Json) :
    (∀ kind, compileJson payload = .error (.notObject kind) ↔
      payload.fields? = none ∧ kind = payload.kindName) ∧
    (∀ text, compileJson payload = .error (.slotIndex text) ↔
      (Graph.slotTexts payload).find? (fun text => Link.Misspelled text) = some text) ∧
    ((∃ compiled, compileJson payload = .ok compiled) ↔
      payload.fields? ≠ none ∧ ∀ text ∈ Graph.slotTexts payload, ¬ Link.Misspelled text) := by
  cases hfields : payload.fields? with
  | none =>
      have htexts : Graph.slotTexts payload = [] := by
        cases payload with
        | obj fields => cases hfields
        | _ => rfl
      rw [compileJson_of_fields_eq_none hfields, htexts]
      simp [eq_comm]
  | some fields =>
      obtain rfl : payload = .obj fields := by
        cases payload with
        | obj other => rw [Option.some.inj hfields]
        | _ => cases hfields
      have houtcome := compileJson_obj_outcome fields
      unfold Link.RefusedFor at houtcome
      have hnone := List.find?_eq_none (p := fun text => decide (Link.Misspelled text))
        (l := Graph.slotTexts (.obj fields))
      simp only [decide_eq_true_eq] at hnone
      cases hfind : (Graph.slotTexts (.obj fields)).find? fun text => Link.Misspelled text with
      | some text =>
          rw [hfind] at houtcome hnone
          rw [houtcome, ← hnone]
          simp
      | none =>
          rw [hfind] at houtcome hnone
          obtain ⟨compiled, hcompiled⟩ := houtcome
          rw [hcompiled, ← hnone]
          simp

/-- An object whose one link has a slot index with two signs. -/
def twoSigns : Json :=
  .obj [("nodes", .arr []), ("links", .arr [.arr [.int 1, .int 1, .str "--5", .int 2, .int 0]])]

/-- Not every object compiles. -/
theorem compileJson_twoSigns :
    twoSigns.fields? ≠ none ∧ compileJson twoSigns = .error (.slotIndex "--5") ∧
      (GraphError.slotIndex "--5").failure = .unreadable := by
  decide

end RenderRelay
