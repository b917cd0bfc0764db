import RenderRelay.Proofs.Json.Spelled

/-! # Reading what was written

A written value reads back as itself.

* `Layout.Readable` holds of the layouts that keep the order of the fields and put nothing but
  gaps between the parts.
* `ReadsBack` is what the reader does with a written value; it is kept by lists
  (`readItems_written`) and objects (`readFields_written`).
* `read_write`: in a readable layout, every spelled value reads back. -/

namespace RenderRelay.Json

open Number

/-! ### Gaps -/

theorem skipGaps_append {gaps rest : List Char} (hgaps : ∀ c ∈ gaps, isGap c)
    (hrest : ∀ c ∈ rest.head?, isGap c = false) : skipGaps (gaps ++ rest) = rest := by
  unfold skipGaps
  rw [List.dropWhile_append_of_pos hgaps]
  cases rest with
  | nil => rfl
  | cons c rest => rw [List.dropWhile_cons_of_neg (by simp [hrest c rfl])]

theorem Closes.cons {c : Char} (h : c.isDigit = false ∧ c ≠ '.' ∧ c ≠ 'e' ∧ c ≠ 'E')
    (rest : List Char) : Closes (c :: rest) := by
  rintro d ⟨⟩
  exact h

theorem Closes.gaps_append {gaps rest : List Char} (hgaps : ∀ c ∈ gaps, isGap c)
    (hrest : Closes rest) : Closes (gaps ++ rest) := by
  cases gaps with
  | nil => exact hrest
  | cons c gaps =>
      have hc := hgaps c List.mem_cons_self
      refine Closes.cons ?_ _
      simp only [isGap, Bool.or_eq_true, decide_eq_true_eq] at hc
      obtain ((rfl | rfl) | rfl) | rfl := hc <;> decide

/-- A layout in which values can be read back. -/
structure Layout.Readable (layout : Layout) : Prop where
  keepsOrder : layout.sortKeys = false
  afterComma : ∀ c ∈ layout.afterComma, isGap c
  afterColon : ∀ c ∈ layout.afterColon, isGap c

theorem Layout.indented_readable : Layout.indented.Readable :=
  ⟨rfl, List.forall_mem_nil _, List.forall_mem_singleton.mpr rfl⟩

theorem Layout.isGap_lineBreak (layout : Layout) (depth : Nat) :
    ∀ c ∈ layout.lineBreak depth, isGap c := by
  intro c hc
  unfold lineBreak at hc
  cases hindent : layout.indent with
  | none => simp [hindent] at hc
  | some width =>
      simp only [hindent] at hc
      obtain rfl | hc := List.mem_cons.mp hc
      · decide
      · rw [List.eq_of_mem_replicate hc]
        decide

/-! ### The first character -/

/-- The characters start with one that no gap and no closing bracket is. -/
def Starts (cs : List Char) : Prop := ∃ c rest, cs = c :: rest ∧ isGap c = false ∧ c ≠ ']'

theorem Starts.of_isDigit {cs : List Char} (h : ∃ c rest, cs = c :: rest ∧ c.isDigit) :
    Starts cs := by
  obtain ⟨c, rest, rfl, hc⟩ := h
  refine ⟨c, rest, rfl, ?_, ne_of_isDigit hc rfl⟩
  have hspace : c ≠ ' ' := ne_of_isDigit hc rfl
  have htab : c ≠ '\t' := ne_of_isDigit hc rfl
  have hline : c ≠ '\n' := ne_of_isDigit hc rfl
  have hreturn : c ≠ '\r' := ne_of_isDigit hc rfl
  simp [isGap, hspace, htab, hline, hreturn]

theorem Starts.minus (cs : List Char) : Starts ('-' :: cs) := ⟨'-', cs, rfl, rfl, by decide⟩

theorem Starts.head {cs : List Char} (h : Starts cs) (rest : List Char) :
    ∀ c ∈ (cs ++ rest).head?, isGap c = false := by
  obtain ⟨c, tail, rfl, hc, -⟩ := h
  rintro d ⟨⟩
  exact hc

theorem starts_textChars (x : Double) : Starts (x.textChars jsonNumbers) := by
  cases x with
  | notANumber => exact ⟨'N', ['a', 'N'], rfl, rfl, by decide⟩
  | infinite negative =>
      cases negative with
      | true => exact Starts.minus _
      | false => exact ⟨'I', ['n', 'f', 'i', 'n', 'i', 't', 'y'], rfl, rfl, by decide⟩
  | finite negative m e h =>
      cases negative with
      | true => exact Starts.minus _
      | false =>
          refine Starts.of_isDigit ?_
          obtain rfl | hm := Nat.eq_zero_or_pos m
          · exact ⟨'0', ['.', '0'], rfl, rfl⟩
          · unfold Double.textChars
            dsimp only
            rw [if_neg hm.ne', if_neg Bool.false_ne_true]
            exact head_write jsonNumbers (shortest_digits_ne_zero h hm)

theorem starts_writeChars (layout : Layout) (depth : Nat) (value : Json) :
    Starts (writeChars layout depth value) := by
  have hbracket : ∀ (opening closing : Char) (pieces : List (List Char)),
      isGap opening = false → opening ≠ ']' →
        Starts (layout.bracket depth opening closing pieces) := by
    intro opening closing pieces hgap hclosing
    cases pieces with
    | nil => exact ⟨opening, _, rfl, hgap, hclosing⟩
    | cons first more => exact ⟨opening, _, rfl, hgap, hclosing⟩
  cases value with
  | null => exact ⟨'n', ['u', 'l', 'l'], rfl, rfl, by decide⟩
  | bool b =>
      cases b with
      | true => exact ⟨'t', ['r', 'u', 'e'], rfl, rfl, by decide⟩
      | false => exact ⟨'f', ['a', 'l', 's', 'e'], rfl, rfl, by decide⟩
  | int n =>
      unfold writeChars intChars
      split_ifs
      · exact Starts.minus _
      · exact Starts.of_isDigit (head_natDigits_isDigit n.natAbs)
  | float x =>
      unfold writeChars
      exact starts_textChars x
  | str s =>
      unfold writeChars
      exact ⟨'"', _, rfl, rfl, by decide⟩
  | arr items =>
      unfold writeChars
      exact hbracket '[' ']' _ rfl (by decide)
  | obj fields =>
      unfold writeChars
      exact hbracket _ _ _ rfl (by decide)

/-! ### Steps of the reader -/

section Steps

variable {fuel : Nat} {cs rest tail : List Char}

theorem readValue_atom {c : Char} (hquote : c ≠ '"') (hlist : c ≠ '[')
    (hobject : c ≠ Char.ofNat 0x7B) :
    readValue (fuel + 1) (c :: cs) = readAtom (c :: cs) := by
  rw [readValue]
  · rw [if_neg hobject]
  · exact hquote
  · exact hlist

/-- What is read as a word or a number is read as a value. -/
theorem readValue_of_readAtom {value : Json} (h : readAtom cs = .ok (value, rest)) :
    readValue (fuel + 1) cs = .ok (value, rest) := by
  cases cs with
  | nil => cases h
  | cons c cs =>
      rw [readValue_atom, h] <;> (rintro rfl; cases h)

theorem readValue_str (s : String) :
    readValue (fuel + 1) (stringChars s ++ rest) = .ok (.str s, rest) := by
  unfold stringChars
  rw [List.cons_append, List.cons_append, List.append_assoc, readValue]
  change (readString (s.toList.flatMap escapeChar ++ '"' :: rest) >>= _) = _
  rw [readString_escaped]
  rfl

theorem readValue_arr (hstarts : Starts cs) (hcs : skipGaps rest = cs) :
    readValue (fuel + 1) ('[' :: rest) = readItems fuel [] cs := by
  obtain ⟨c, tail, rfl, -, hclosing⟩ := hstarts
  rw [readValue, hcs]
  split
  · rename_i heq
    exact absurd (List.cons.inj heq).1 hclosing
  · rfl

theorem readValue_obj {key : List Char} (hcs : skipGaps rest = '"' :: key) :
    readValue (fuel + 1) (Char.ofNat 0x7B :: rest) = readFields fuel [] ('"' :: key) := by
  rw [readValue]
  · rw [if_pos rfl, hcs]
    rfl
  · decide
  · decide

theorem readItems_last {item : Json} {acc : List Json}
    (hitem : readValue fuel cs = .ok (item, rest)) (hrest : skipGaps rest = ']' :: tail) :
    readItems (fuel + 1) acc cs = .ok (.arr (item :: acc).reverse, tail) := by
  rw [readItems, hitem]
  change (pure (item, rest) >>= _) = _
  rw [pure_bind]
  dsimp only
  rw [hrest]
  rfl

theorem readItems_more {item : Json} {acc : List Json}
    (hitem : readValue fuel cs = .ok (item, rest)) (hrest : skipGaps rest = ',' :: tail) :
    readItems (fuel + 1) acc cs = readItems fuel (item :: acc) (skipGaps tail) := by
  rw [readItems, hitem]
  change (pure (item, rest) >>= _) = _
  rw [pure_bind]
  dsimp only
  rw [hrest]
  rfl

/-- What the reader does behind a field. -/
def readMoreFields (fuel : Nat) (acc : Fields) (rest : List Char) :
    Except ReadError (Json × List Char) :=
  match skipGaps rest with
  | ',' :: rest => readFields fuel acc (skipGaps rest)
  | c :: rest =>
      if c = Char.ofNat 0x7D then .ok (.obj acc, rest) else failAt .expectingComma (c :: rest)
  | [] => failAt .expectingComma []

theorem readMoreFields_last {acc : Fields} (h : skipGaps rest = Char.ofNat 0x7D :: tail) :
    readMoreFields fuel acc rest = .ok (.obj acc, tail) := by
  unfold readMoreFields
  rw [h]
  rfl

theorem readMoreFields_more {acc : Fields} (h : skipGaps rest = ',' :: tail) :
    readMoreFields fuel acc rest = readFields fuel acc (skipGaps tail) := by
  unfold readMoreFields
  rw [h]
  rfl

/-- A key and its value, as the reader takes them. -/
theorem readFields_field {key : String} {value : Json} {afterColon : List Char} {acc : Fields}
    (hkey : cs = stringChars key ++ ':' :: afterColon)
    (hvalue : readValue fuel (skipGaps afterColon) = .ok (value, rest)) :
    readFields (fuel + 1) acc cs = readMoreFields fuel (acc.put key value) rest := by
  subst hkey
  unfold stringChars
  rw [List.cons_append, List.cons_append, List.append_assoc, readFields]
  change (readString (key.toList.flatMap escapeChar ++ '"' :: ':' :: afterColon) >>= _) = _
  rw [readString_escaped]
  change (readValue fuel (skipGaps afterColon) >>= _) = _
  rw [hvalue]
  rfl

end Steps

/-! ### Lists and objects -/

/-- What follows the first piece of a list or object in a layout, with the closing bracket. -/
def Layout.ending (layout : Layout) (depth : Nat) (closing : Char) (pieces : List (List Char)) :
    List Char :=
  pieces.flatMap (fun piece => ',' :: layout.afterComma ++ layout.lineBreak (depth + 1) ++ piece) ++
    layout.lineBreak depth ++ [closing]

section Pieces

variable {layout : Layout} {depth : Nat} {closing : Char} {piece : List Char}
  {pieces : List (List Char)}

theorem bracket_cons (opening : Char) :
    layout.bracket depth opening closing (piece :: pieces) =
      opening :: (layout.lineBreak (depth + 1) ++
        (piece ++ layout.ending depth closing pieces)) := by
  simp only [Layout.bracket, Layout.ending, List.cons_append, List.append_assoc]

theorem skipGaps_lineBreak_append (hpiece : Starts piece) (rest : List Char) :
    skipGaps (layout.lineBreak (depth + 1) ++ (piece ++ rest)) = piece ++ rest :=
  skipGaps_append (layout.isGap_lineBreak (depth + 1)) (hpiece.head rest)

theorem skipGaps_ending_nil (hclosing : isGap closing = false) (rest : List Char) :
    skipGaps (layout.ending depth closing [] ++ rest) = closing :: rest := by
  unfold Layout.ending
  rw [List.flatMap_nil, List.nil_append, List.append_assoc, List.singleton_append]
  refine skipGaps_append (layout.isGap_lineBreak depth) ?_
  rintro c ⟨⟩
  exact hclosing

theorem ending_cons :
    layout.ending depth closing (piece :: pieces) =
      ',' :: (layout.afterComma ++ (layout.lineBreak (depth + 1) ++
        (piece ++ layout.ending depth closing pieces))) := by
  simp only [Layout.ending, List.flatMap_cons, List.cons_append, List.append_assoc]

/-- Behind the first piece stands a comma and then, after gaps, the next one. -/
theorem skipGaps_ending_cons (hlayout : layout.Readable) (hpiece : Starts piece)
    (rest : List Char) : ∃ tail,
      skipGaps (layout.ending depth closing (piece :: pieces) ++ rest) = ',' :: tail ∧
      skipGaps tail = piece ++ (layout.ending depth closing pieces ++ rest) := by
  refine ⟨layout.afterComma ++ (layout.lineBreak (depth + 1) ++
    (piece ++ (layout.ending depth closing pieces ++ rest))), ?_, ?_⟩
  · rw [ending_cons]
    simp only [List.cons_append, List.append_assoc]
    rfl
  · have hgaps : ∀ c ∈ layout.afterComma ++ layout.lineBreak (depth + 1), isGap c := by
      intro c hc
      obtain hc | hc := List.mem_append.mp hc
      · exact hlayout.afterComma c hc
      · exact layout.isGap_lineBreak (depth + 1) c hc
    rw [← List.append_assoc, skipGaps_append hgaps (hpiece.head _)]

theorem length_ending_cons (layout : Layout) (depth : Nat) (closing : Char) (piece : List Char)
    (pieces : List (List Char)) :
    (piece ++ layout.ending depth closing pieces).length <
      (layout.ending depth closing (piece :: pieces)).length := by
  rw [ending_cons]
  simp only [List.length_cons, List.length_append]
  omega

theorem Closes.ending (hclosing : closing.isDigit = false ∧ closing ≠ '.' ∧ closing ≠ 'e' ∧
    closing ≠ 'E') (rest : List Char) : Closes (layout.ending depth closing pieces ++ rest) := by
  cases pieces with
  | nil =>
      unfold Layout.ending
      rw [List.flatMap_nil, List.nil_append, List.append_assoc]
      exact Closes.gaps_append (layout.isGap_lineBreak depth) (Closes.cons hclosing rest)
  | cons piece pieces =>
      rw [ending_cons]
      exact Closes.cons (by decide) _

end Pieces

/-- A field as a layout writes it. -/
def writeField (layout : Layout) (depth : Nat) (field : String × Json) : List Char :=
  layout.field field.1 (writeChars layout depth field.2)

theorem starts_writeField (layout : Layout) (depth : Nat) (field : String × Json) :
    Starts (writeField layout depth field) :=
  ⟨'"', _, rfl, rfl, by decide⟩

/-- The reader takes the value that was written, whatever follows. -/
def ReadsBack (layout : Layout) (value : Json) : Prop :=
  ∀ (depth fuel : Nat) (rest : List Char),
    2 * (writeChars layout depth value ++ rest).length ≤ fuel → Closes rest →
      readValue fuel (writeChars layout depth value ++ rest) = .ok (value, rest)

section Containers

variable {layout : Layout} (hlayout : layout.Readable) (depth : Nat) (rest : List Char)

include hlayout

theorem readItems_written : ∀ (more : List Json) (item : Json) (acc : List Json) (fuel : Nat),
    (∀ value ∈ item :: more, ReadsBack layout value) →
    2 * (writeChars layout (depth + 1) item ++
      (layout.ending depth ']' (more.map (writeChars layout (depth + 1))) ++ rest)).length < fuel →
    readItems fuel acc (writeChars layout (depth + 1) item ++
      (layout.ending depth ']' (more.map (writeChars layout (depth + 1))) ++ rest)) =
        .ok (.arr (acc.reverse ++ item :: more), rest)
  | [], item, acc, fuel, hitems, hfuel => by
      obtain ⟨fuel, rfl⟩ := Nat.exists_eq_succ_of_ne_zero (Nat.ne_zero_of_lt hfuel)
      have hitem := hitems item List.mem_cons_self (depth + 1) fuel _ (Nat.le_of_lt_succ hfuel)
        (Closes.ending (by decide) rest)
      rw [readItems_last hitem (skipGaps_ending_nil rfl rest), List.reverse_cons]
  | next :: more, item, acc, fuel, hitems, hfuel => by
      obtain ⟨fuel, rfl⟩ := Nat.exists_eq_succ_of_ne_zero (Nat.ne_zero_of_lt hfuel)
      have hitem := hitems item List.mem_cons_self (depth + 1) fuel _ (Nat.le_of_lt_succ hfuel)
        (Closes.ending (by decide) rest)
      have hmore : ∀ value ∈ next :: more, ReadsBack layout value :=
        fun value hvalue => hitems value (List.mem_cons_of_mem item hvalue)
      have hlength := length_ending_cons layout depth ']' (writeChars layout (depth + 1) next)
        (more.map (writeChars layout (depth + 1)))
      rw [List.map_cons] at hitem hfuel ⊢
      obtain ⟨tail, hcomma, htail⟩ := skipGaps_ending_cons hlayout
        (starts_writeChars layout (depth + 1) next) rest
      rw [readItems_more hitem hcomma, htail, readItems_written more next (item :: acc) fuel hmore,
        List.reverse_cons, List.append_assoc, List.singleton_append]
      simp only [List.length_append] at hfuel hlength ⊢
      omega

theorem readFields_writeField {key : String} {value : Json} (hvalue : ReadsBack layout value)
    (hrest : Closes rest) {acc : Fields} {fuel : Nat}
    (hfuel : 2 * (writeField layout depth (key, value) ++ rest).length ≤ fuel) :
    readFields (fuel + 1) acc (writeField layout depth (key, value) ++ rest) =
      readMoreFields fuel (acc.put key value) rest := by
  have htext : writeField layout depth (key, value) ++ rest = stringChars key ++
      ':' :: (layout.afterColon ++ (writeChars layout depth value ++ rest)) := by
    simp only [writeField, Layout.field, List.cons_append, List.append_assoc]
  have hgaps := skipGaps_append hlayout.afterColon
    ((starts_writeChars layout depth value).head rest)
  refine readFields_field htext ?_
  rw [hgaps]
  refine hvalue depth fuel rest ?_ hrest
  rw [htext] at hfuel
  simp only [List.length_append, List.length_cons] at hfuel ⊢
  omega

theorem readFields_written : ∀ (more : Fields) (key : String) (value : Json) (acc : Fields)
    (fuel : Nat), (∀ field ∈ (key, value) :: more, ReadsBack layout field.2) →
    (Entries.keys (acc ++ (key, value) :: more)).Nodup →
    2 * (writeField layout (depth + 1) (key, value) ++
      (layout.ending depth (Char.ofNat 0x7D) (more.map (writeField layout (depth + 1))) ++
        rest)).length < fuel →
    readFields fuel acc (writeField layout (depth + 1) (key, value) ++
      (layout.ending depth (Char.ofNat 0x7D) (more.map (writeField layout (depth + 1))) ++ rest)) =
        .ok (.obj (acc ++ (key, value) :: more), rest)
  | [], key, value, acc, fuel, hfields, hkeys, hfuel => by
      obtain ⟨fuel, rfl⟩ := Nat.exists_eq_succ_of_ne_zero (Nat.ne_zero_of_lt hfuel)
      rw [readFields_writeField hlayout (depth + 1) _ (hfields _ List.mem_cons_self)
        (Closes.ending (by decide) rest) (Nat.le_of_lt_succ hfuel), List.map_nil,
        readMoreFields_last (skipGaps_ending_nil rfl rest),
        Entries.put_of_not_mem (Entries.not_mem_keys_of_nodup hkeys)]
  | (next, found) :: more, key, value, acc, fuel, hfields, hkeys, hfuel => by
      obtain ⟨fuel, rfl⟩ := Nat.exists_eq_succ_of_ne_zero (Nat.ne_zero_of_lt hfuel)
      have hmore : ∀ field ∈ (next, found) :: more, ReadsBack layout field.2 :=
        fun field hfield => hfields field (List.mem_cons_of_mem _ hfield)
      have hput : Entries.put acc key value = acc ++ [(key, value)] :=
        Entries.put_of_not_mem (Entries.not_mem_keys_of_nodup hkeys)
      have hassoc : acc ++ (key, value) :: (next, found) :: more =
          acc ++ [(key, value)] ++ (next, found) :: more := by simp
      have hlength := length_ending_cons layout depth (Char.ofNat 0x7D)
        (writeField layout (depth + 1) (next, found)) (more.map (writeField layout (depth + 1)))
      rw [hassoc] at hkeys ⊢
      rw [List.map_cons] at hfuel ⊢
      obtain ⟨tail, hcomma, htail⟩ := skipGaps_ending_cons hlayout
        (starts_writeField layout (depth + 1) (next, found)) rest
      rw [readFields_writeField hlayout (depth + 1) _ (hfields _ List.mem_cons_self)
        (Closes.ending (by decide) rest) (Nat.le_of_lt_succ hfuel), readMoreFields_more hcomma,
        hput, htail]
      refine readFields_written more next found _ fuel hmore hkeys ?_
      simp only [List.length_append] at hfuel hlength ⊢
      omega

theorem readsBack_arr {items : List Json} (hitems : ∀ item ∈ items, ReadsBack layout item) :
    ReadsBack layout (.arr items) := by
  intro depth fuel rest hfuel hrest
  unfold writeChars at hfuel ⊢
  rw [writeItems_eq_map] at hfuel ⊢
  cases items with
  | nil =>
      obtain ⟨fuel, rfl⟩ := Nat.exists_eq_succ_of_ne_zero (Nat.ne_zero_of_lt hfuel)
      rfl
  | cons item more =>
      have hstarts := starts_writeChars layout (depth + 1) item
      rw [List.map_cons, bracket_cons, List.cons_append, List.append_assoc, List.append_assoc]
        at hfuel ⊢
      obtain ⟨fuel, rfl⟩ := Nat.exists_eq_succ_of_ne_zero (Nat.ne_zero_of_lt hfuel)
      rw [readValue_arr ?_ (skipGaps_lineBreak_append hstarts _),
        readItems_written hlayout depth rest more item [] fuel hitems]
      · rfl
      · simp only [List.length_append, List.length_cons] at hfuel ⊢
        omega
      · obtain ⟨c, tail, hcs, hc⟩ := hstarts
        rw [hcs]
        exact ⟨c, _, rfl, hc⟩

theorem readsBack_obj {fields : Fields} (hkeys : fields.keys.Nodup)
    (hvalues : ∀ field ∈ fields, ReadsBack layout field.2) : ReadsBack layout (.obj fields) := by
  intro depth fuel rest hfuel hrest
  have hpieces : ((layout.arrange (writeFields layout (depth + 1) fields)).map
      fun field => layout.field field.1 field.2) = fields.map (writeField layout (depth + 1)) := by
    rw [Layout.arrange, hlayout.keepsOrder, if_neg Bool.false_ne_true, writeFields_eq_map,
      List.map_map]
    rfl
  unfold writeChars at hfuel ⊢
  rw [hpieces] at hfuel ⊢
  cases fields with
  | nil =>
      obtain ⟨fuel, rfl⟩ := Nat.exists_eq_succ_of_ne_zero (Nat.ne_zero_of_lt hfuel)
      rfl
  | cons field more =>
      obtain ⟨key, value⟩ := field
      have hstarts := starts_writeField layout (depth + 1) (key, value)
      rw [List.map_cons, bracket_cons, List.cons_append, List.append_assoc, List.append_assoc]
        at hfuel ⊢
      obtain ⟨fuel, rfl⟩ := Nat.exists_eq_succ_of_ne_zero (Nat.ne_zero_of_lt hfuel)
      have hread := readFields_written hlayout depth rest more key value [] fuel hvalues hkeys ?_
      · rw [readValue_obj (skipGaps_lineBreak_append hstarts _)]
        exact hread
      · simp only [List.length_append, List.length_cons] at hfuel ⊢
        omega

/-- Every spelled value reads back. -/
theorem readsBack_of_spelled {limit : Nat} {value : Json} (h : value.Spelled limit) :
    ReadsBack layout value := by
  have hatom : ∀ value : Json, (∀ depth rest, Closes rest →
      readAtom (writeChars layout depth value ++ rest) = .ok (value, rest)) →
      ReadsBack layout value := by
    intro value hvalue depth fuel rest hfuel hrest
    have hpos : 0 < (writeChars layout depth value ++ rest).length := by
      obtain ⟨c, tail, hcs, -⟩ := starts_writeChars layout depth value
      rw [hcs]
      exact Nat.succ_pos _
    obtain ⟨fuel, rfl⟩ := Nat.exists_eq_succ_of_ne_zero (show fuel ≠ 0 by omega)
    exact readValue_of_readAtom (hvalue depth rest hrest)
  induction h with
  | null => exact hatom _ fun depth rest hrest => rfl
  | bool b =>
      cases b with
      | true => exact hatom _ fun depth rest hrest => rfl
      | false => exact hatom _ fun depth rest hrest => rfl
  | int n hdigits =>
      refine hatom _ fun depth rest hrest => ?_
      unfold writeChars
      exact readAtom_intChars hdigits hrest
  | float x =>
      refine hatom _ fun depth rest hrest => ?_
      unfold writeChars
      exact readAtom_textChars x hrest
  | str s =>
      intro depth fuel rest hfuel hrest
      obtain ⟨fuel, rfl⟩ := Nat.exists_eq_succ_of_ne_zero (Nat.ne_zero_of_lt hfuel)
      unfold writeChars
      exact readValue_str s
  | arr items hlength hitems ih => exact readsBack_arr hlayout ih
  | obj fields hkeys hvalues ih => exact readsBack_obj hlayout hkeys ih

end Containers

/-- A written value reads back. -/
theorem read_write {layout : Layout} (hlayout : layout.Readable) {limit : Nat} {value : Json}
    (h : value.Spelled limit) : Json.read (value.write layout) = .ok value := by
  have hread := readsBack_of_spelled hlayout h 0 (2 * (writeChars layout 0 value).length + 2) []
    (by rw [List.append_nil]; omega) nofun
  have hskip : skipGaps ([] ++ (writeChars layout 0 value ++ [])) =
      writeChars layout 0 value ++ [] :=
    skipGaps_append nofun ((starts_writeChars layout 0 value).head [])
  rw [List.append_nil] at hread hskip
  have hmark : (writeChars layout 0 value).head? ≠ some (Char.ofNat 0xFEFF) := by
    intro hhead
    obtain ⟨tail, htail⟩ := List.head?_eq_some_iff.mp hhead
    rw [htail] at hread
    cases hread
  unfold Json.read write readChars
  rw [String.toList_ofList, if_neg hmark]
  change (readValue _ (skipGaps ([] ++ writeChars layout 0 value)) >>= _) = _
  rw [hskip, hread]
  rfl

/-- An integer of more digits than are read is refused, unlike any other text that is no value, by
a cause of its own. -/
theorem read_of_long_integer {n : Nat} (h : maxDigits < digitCount n) :
    Json.read (String.ofList (natDigits n)) = .error ⟨.integerTooLong, digitCount n⟩ := by
  obtain ⟨c, digits, hdigits, hc⟩ := head_natDigits_isDigit n
  have hskip : skipGaps ([] ++ (natDigits n ++ [])) = natDigits n ++ [] :=
    skipGaps_append nofun ((Starts.of_isDigit (head_natDigits_isDigit n)).head [])
  have hvalue : readValue (2 * (natDigits n).length + 2) (natDigits n) =
      failAt .integerTooLong (natDigits n) := by
    rw [← readAtom_of_long h, hdigits]
    exact readValue_atom (ne_of_isDigit hc rfl) (ne_of_isDigit hc rfl) (ne_of_isDigit hc rfl)
  have hmark : (natDigits n).head? ≠ some (Char.ofNat 0xFEFF) := by
    rw [hdigits]
    exact fun heq => ne_of_isDigit hc rfl (Option.some.inj heq)
  rw [List.append_nil, List.nil_append] at hskip
  unfold Json.read readChars
  rw [String.toList_ofList, if_neg hmark, hskip, hvalue]
  rfl

end RenderRelay.Json
