import Mathlib.Data.List.Forall2
import RenderRelay.Job.Fingerprint
import RenderRelay.Proofs.Json.KeyOrder
import RenderRelay.Proofs.Json.RoundTrip

/-! # Texts that tell values apart

The compact text of a value belongs to no other value, the order of keys aside.  The reader alone
does not show this, since it refuses long integers and does not see the order in which keys are
written.

* `mark_eq`: texts that start alike are those of values of one kind.
* `Ends` describes a value whose text shows where it ends and which value it is; it is kept by
  lists and objects (`forall₂_of_bracket`).
* `canonicalText_eq_iff`: two values have one canonical text exactly if they differ in nothing but
  the order of keys. -/

namespace RenderRelay.Json

open Number

/-! ### Kinds of values -/

/-- The characters that texts, lists and objects start with. -/
def marks : List Char := ['"', '[', Char.ofNat 0x7B]

/-- The character that tells the kind of a value; words and numbers have none. -/
def mark : Json → Option Char
  | .str _ => some '"'
  | .arr _ => some '['
  | .obj _ => some (Char.ofNat 0x7B)
  | _ => none

theorem not_mem_marks_of_isDigit {c : Char} (h : c.isDigit) : c ∉ marks := by
  intro hc
  simp only [marks, List.mem_cons, List.not_mem_nil, or_false] at hc
  obtain rfl | rfl | rfl := hc <;> exact absurd h (by decide)

/-- What is read as a word or a number starts with no mark. -/
theorem not_mem_marks_of_readAtom {c : Char} {cs rest : List Char} {value : Json}
    (h : readAtom (c :: cs) = .ok (value, rest)) : c ∉ marks := by
  intro hc
  simp only [marks, List.mem_cons, List.not_mem_nil, or_false] at hc
  obtain rfl | rfl | rfl := hc <;> cases h

theorem head_intChars (n : Int) : ∃ c tail, intChars n = c :: tail ∧ c ∉ marks := by
  obtain ⟨c, tail, htail, hc⟩ := head_natDigits_isDigit n.natAbs
  unfold intChars
  split_ifs
  · exact ⟨'-', _, rfl, by decide⟩
  · exact ⟨c, tail, htail, not_mem_marks_of_isDigit hc⟩

/-- The text of a value starts with its mark, or with what is no mark. -/
theorem head_writeChars (layout : Layout) (depth : Nat) (value : Json) :
    ∃ c tail, writeChars layout depth value = c :: tail ∧
      value.mark = if c ∈ marks then some c else none := by
  cases value with
  | null => exact ⟨'n', _, rfl, rfl⟩
  | bool b =>
      cases b with
      | true => exact ⟨'t', _, rfl, rfl⟩
      | false => exact ⟨'f', _, rfl, rfl⟩
  | int n =>
      obtain ⟨c, tail, htail, hc⟩ := head_intChars n
      rw [writeChars]
      exact ⟨c, tail, htail, (if_neg hc).symm⟩
  | float x =>
      obtain ⟨c, tail, htail, -⟩ := starts_textChars x
      have hread : readAtom (x.textChars jsonNumbers ++ []) = _ := readAtom_textChars x closes_nil
      rw [htail] at hread
      rw [writeChars]
      exact ⟨c, tail, htail, (if_neg (not_mem_marks_of_readAtom hread)).symm⟩
  | str s =>
      rw [writeChars]
      exact ⟨'"', _, rfl, rfl⟩
  | arr items =>
      rw [writeChars]
      cases writeItems layout (depth + 1) items with
      | nil => exact ⟨'[', _, rfl, rfl⟩
      | cons first more => exact ⟨'[', _, rfl, rfl⟩
  | obj fields =>
      rw [writeChars]
      generalize (layout.arrange (writeFields layout (depth + 1) fields)).map _ = pieces
      cases pieces with
      | nil => exact ⟨Char.ofNat 0x7B, _, rfl, rfl⟩
      | cons first more => exact ⟨Char.ofNat 0x7B, _, rfl, rfl⟩

section Kinds

variable {layout : Layout} {depth : Nat} {value other : Json} {rest more : List Char}

theorem mark_eq
    (h : writeChars layout depth value ++ rest = writeChars layout depth other ++ more) :
    value.mark = other.mark := by
  obtain ⟨c, tail, htail, hmark⟩ := head_writeChars layout depth value
  obtain ⟨d, tail', htail', hmark'⟩ := head_writeChars layout depth other
  rw [htail, htail', List.cons_append, List.cons_append] at h
  rw [hmark, hmark', (List.cons.inj h).1]

/-- As a word or a number, the start of a text is read as the value it was written for or not at
all. -/
theorem readAtom_writeChars (layout : Layout) (depth : Nat) (value : Json)
    (hrest : Closes rest) :
    readAtom (writeChars layout depth value ++ rest) = .ok (value, rest) ∨
      ∃ error, readAtom (writeChars layout depth value ++ rest) = .error error := by
  have hmarked : ∀ c, value.mark = some c → c ∈ marks →
      ∃ error, readAtom (writeChars layout depth value ++ rest) = .error error := by
    intro c hvalue hc
    obtain ⟨d, tail, htail, hmark⟩ := head_writeChars layout depth value
    cases hread : readAtom (writeChars layout depth value ++ rest) with
    | error error => exact ⟨error, rfl⟩
    | ok found =>
        rw [htail, List.cons_append] at hread
        rw [if_neg (not_mem_marks_of_readAtom hread), hvalue] at hmark
        cases hmark
  cases value with
  | null => exact Or.inl rfl
  | bool b =>
      cases b with
      | true => exact Or.inl rfl
      | false => exact Or.inl rfl
  | int n =>
      rw [writeChars, readAtom_intChars_eq n hrest]
      split_ifs
      · exact Or.inr ⟨_, rfl⟩
      · exact Or.inl rfl
  | float x =>
      rw [writeChars]
      exact Or.inl (readAtom_textChars x hrest)
  | str s => exact Or.inr (hmarked _ rfl (by decide))
  | arr items => exact Or.inr (hmarked _ rfl (by decide))
  | obj fields => exact Or.inr (hmarked _ rfl (by decide))

/-- A text that is read as a word or a number is that of no other value. -/
theorem eq_of_readAtom
    (hread : readAtom (writeChars layout depth value ++ rest) = .ok (value, rest))
    (hmore : Closes more)
    (h : writeChars layout depth value ++ rest = writeChars layout depth other ++ more) :
    value = other ∧ rest = more := by
  obtain hother | ⟨error, hother⟩ := readAtom_writeChars layout depth other hmore
  · rw [← h, hread] at hother
    cases hother
    exact ⟨rfl, rfl⟩
  · rw [← h, hread] at hother
    cases hother

end Kinds

/-! ### Integers and texts -/

/-- The digits of a number end where a character follows that is no digit. -/
theorem eq_of_natDigits {a b : Nat} {rest more : List Char} (hrest : EndsDigits rest)
    (hmore : EndsDigits more) (h : natDigits a ++ rest = natDigits b ++ more) :
    a = b ∧ rest = more := by
  have htake := congrArg (List.takeWhile Char.isDigit) h
  have hdrop := congrArg (List.dropWhile Char.isDigit) h
  rw [takeWhile_isDigit (fun _ => isDigit_of_mem_natDigits) hrest,
    takeWhile_isDigit (fun _ => isDigit_of_mem_natDigits) hmore] at htake
  rw [dropWhile_isDigit (fun _ => isDigit_of_mem_natDigits) hrest,
    dropWhile_isDigit (fun _ => isDigit_of_mem_natDigits) hmore] at hdrop
  exact ⟨natDigits_injective htake, hdrop⟩

theorem natDigits_append_ne_minus (n : Nat) (rest more : List Char) :
    natDigits n ++ rest ≠ '-' :: more := by
  obtain ⟨c, digits, hdigits, hc⟩ := head_natDigits_isDigit n
  rw [hdigits]
  exact fun h => ne_of_isDigit hc rfl (List.cons.inj h).1

theorem eq_of_intChars {n m : Int} {rest more : List Char} (hrest : EndsDigits rest)
    (hmore : EndsDigits more) (h : intChars n ++ rest = intChars m ++ more) :
    n = m ∧ rest = more := by
  unfold intChars at h
  split_ifs at h with hn hm hm
  · obtain ⟨habs, htail⟩ := eq_of_natDigits hrest hmore (List.cons.inj h).2
    exact ⟨by omega, htail⟩
  · exact absurd h.symm (natDigits_append_ne_minus m.natAbs more _)
  · exact absurd h (natDigits_append_ne_minus n.natAbs rest _)
  · obtain ⟨habs, htail⟩ := eq_of_natDigits hrest hmore h
    exact ⟨by omega, htail⟩

/-- The text of a text ends where its closing quote stands. -/
theorem eq_of_stringChars {s t : String} {rest more : List Char}
    (h : stringChars s ++ rest = stringChars t ++ more) : s = t ∧ rest = more := by
  have hbody : s.toList.flatMap escapeChar ++ '"' :: rest =
      t.toList.flatMap escapeChar ++ '"' :: more := by
    unfold stringChars at h
    simpa only [List.cons_append, List.append_assoc, List.nil_append, List.cons.injEq,
      true_and] using h
  have hread := readString_escaped s rest
  rw [hbody, readString_escaped] at hread
  cases hread
  exact ⟨rfl, rfl⟩

/-! ### Lists and objects -/

section Pieces

variable {α : Type} {piece : α → List Char} {R : α → α → Prop} {depth : Nat} {closing : Char}

/-- Where the texts of two pieces go on alike, the pieces are related and what follows is one. -/
def Split (piece : α → List Char) (R : α → α → Prop) (first second : α) : Prop :=
  ∀ rest more, Closes rest → Closes more → piece first ++ rest = piece second ++ more →
    R first second ∧ rest = more

theorem compact_ending_cons (piece : List Char) (pieces : List (List Char)) :
    Layout.compact.ending depth closing (piece :: pieces) =
      ',' :: (piece ++ Layout.compact.ending depth closing pieces) :=
  ending_cons

theorem forall₂_of_ending (hclosing : closing.isDigit = false ∧ closing ≠ '.' ∧ closing ≠ 'e' ∧
    closing ≠ 'E') (hcomma : closing ≠ ',') : ∀ {items more : List α} {rest tail : List Char},
    (∀ item ∈ items, ∀ other ∈ more, Split piece R item other) →
    Layout.compact.ending depth closing (items.map piece) ++ rest =
      Layout.compact.ending depth closing (more.map piece) ++ tail →
    List.Forall₂ R items more ∧ rest = tail
  | [], [], rest, tail, hsplit, h => ⟨List.Forall₂.nil, (List.cons.inj h).2⟩
  | [], other :: more, rest, tail, hsplit, h => by
      rw [List.map_cons, compact_ending_cons] at h
      exact absurd (List.cons.inj h).1 hcomma
  | item :: items, [], rest, tail, hsplit, h => by
      rw [List.map_cons, compact_ending_cons] at h
      exact absurd (List.cons.inj h).1.symm hcomma
  | item :: items, other :: more, rest, tail, hsplit, h => by
      rw [List.map_cons, List.map_cons, compact_ending_cons, compact_ending_cons, List.cons_append,
        List.cons_append, List.append_assoc, List.append_assoc] at h
      obtain ⟨hrel, hmore⟩ := hsplit item List.mem_cons_self other List.mem_cons_self _ _
        (Closes.ending hclosing rest) (Closes.ending hclosing tail) (List.cons.inj h).2
      obtain ⟨hrels, htail⟩ := forall₂_of_ending hclosing hcomma
        (fun item hitem other hother => hsplit item (List.mem_cons_of_mem _ hitem) other
          (List.mem_cons_of_mem _ hother)) hmore
      exact ⟨List.Forall₂.cons hrel hrels, htail⟩

/-- Lists of pieces between the same brackets are related piece by piece. -/
theorem forall₂_of_bracket {opening : Char} (hclosing : closing.isDigit = false ∧ closing ≠ '.' ∧
    closing ≠ 'e' ∧ closing ≠ 'E') (hcomma : closing ≠ ',') {items more : List α}
    {rest tail : List Char} (hfirst : ∀ item, ∃ c cs, piece item = c :: cs ∧ c ≠ closing)
    (hsplit : ∀ item ∈ items, ∀ other ∈ more, Split piece R item other)
    (h : Layout.compact.bracket depth opening closing (items.map piece) ++ rest =
      Layout.compact.bracket depth opening closing (more.map piece) ++ tail) :
    List.Forall₂ R items more ∧ rest = tail := by
  cases items with
  | nil =>
      cases more with
      | nil => exact ⟨List.Forall₂.nil, (List.cons.inj (List.cons.inj h).2).2⟩
      | cons other more =>
          obtain ⟨c, cs, hpiece, hc⟩ := hfirst other
          rw [List.map_cons, bracket_cons, hpiece] at h
          exact absurd (List.cons.inj (List.cons.inj h).2).1.symm hc
  | cons item items =>
      cases more with
      | nil =>
          obtain ⟨c, cs, hpiece, hc⟩ := hfirst item
          rw [List.map_cons, bracket_cons, hpiece] at h
          exact absurd (List.cons.inj (List.cons.inj h).2).1 hc
      | cons other more =>
          -- Behind the opening bracket a first piece stands without a comma; with one it is an
          -- ending like any other.
          rw [List.map_cons, List.map_cons, bracket_cons, bracket_cons] at h
          have hends : Layout.compact.ending depth closing ((item :: items).map piece) ++ rest =
              Layout.compact.ending depth closing ((other :: more).map piece) ++ tail := by
            rw [List.map_cons, List.map_cons, compact_ending_cons, compact_ending_cons]
            exact congrArg (List.cons ',') (List.cons.inj h).2
          exact forall₂_of_ending hclosing hcomma hsplit hends

end Pieces

/-- The fields of an object in the order of their keys. -/
def byKey (fields : Fields) : Fields := fields.mergeSort fun a b => decide (a.1 ≤ b.1)

theorem arrange_writeFields (depth : Nat) (fields : Fields) :
    ((Layout.compact.arrange (writeFields .compact depth fields)).map fun (key, value) =>
      Layout.compact.field key value) = (byKey fields).map (writeField .compact depth) := by
  have harrange : Layout.compact.arrange (writeFields .compact depth fields) =
      (byKey fields).map fun field => (field.1, writeChars .compact depth field.2) := by
    have hsort : Layout.compact.sortKeys = true := rfl
    rw [writeFields_eq_map, Layout.arrange, if_pos hsort]
    refine (List.map_mergeSort ?_).symm
    exact fun _ _ _ _ => rfl
  rw [harrange, List.map_map]
  rfl

theorem same_byKey {fields : Fields} (h : fields.keys.Nodup) :
    Entries.Same fields (byKey fields) :=
  ⟨(List.mergeSort_perm fields _).symm, h⟩

/-- Fields that are related pair by pair hold related values under each key. -/
theorem rel_lookup_of_forall₂ {R : Json → Json → Prop} {fields more : Fields}
    (h : List.Forall₂ (fun field other => field.1 = other.1 ∧ R field.2 other.2) fields more)
    (key : String) : Option.Rel R (fields.lookup key) (more.lookup key) := by
  induction h with
  | nil => exact Option.Rel.none
  | @cons field other fields more hfield hfields ih =>
      rw [List.lookup_cons, List.lookup_cons, ← hfield.1]
      cases key == field.1 with
      | true => exact Option.Rel.some hfield.2
      | false => exact ih

/-! ### Values -/

/-- The compact text of a value shows where it ends and, the order of keys aside, which value it
is. -/
def Ends (value : Json) : Prop :=
  ∀ depth other, other.Keyed →
    Split (writeChars .compact depth) SameUpToOrder value other

theorem ends_of_readAtom {value : Json} (hself : SameUpToOrder value value)
    (hread : ∀ depth rest, Closes rest →
      readAtom (writeChars .compact depth value ++ rest) = .ok (value, rest)) : value.Ends := by
  intro depth other hother rest more hrest hmore h
  obtain ⟨rfl, htail⟩ := eq_of_readAtom (hread depth rest hrest) hmore h
  exact ⟨hself, htail⟩

theorem ends_int (n : Int) : (Json.int n).Ends := by
  intro depth other hother rest more hrest hmore h
  have hmark := mark_eq h
  have hatom : readAtom (writeChars .compact depth other ++ more) = .ok (other, more) →
      SameUpToOrder (.int n) other ∧ rest = more := by
    intro hread
    obtain ⟨rfl, htail⟩ := eq_of_readAtom hread hrest h.symm
    exact ⟨SameUpToOrder.int n, htail.symm⟩
  cases other with
  | null => exact hatom rfl
  | bool b =>
      cases b with
      | true => exact hatom rfl
      | false => exact hatom rfl
  | int m =>
      rw [writeChars, writeChars] at h
      obtain ⟨rfl, htail⟩ := eq_of_intChars hrest.endsDigits hmore.endsDigits h
      exact ⟨SameUpToOrder.int n, htail⟩
  | float x =>
      rw [writeChars] at hatom
      exact hatom (readAtom_textChars x hmore)
  | str s => cases hmark
  | arr items => cases hmark
  | obj fields => cases hmark

theorem ends_str (s : String) : (Json.str s).Ends := by
  intro depth other hother rest more hrest hmore h
  have hmark := mark_eq h
  cases other with
  | str t =>
      rw [writeChars, writeChars] at h
      obtain ⟨rfl, htail⟩ := eq_of_stringChars h
      exact ⟨SameUpToOrder.str s, htail⟩
  | _ => simp [mark] at hmark

theorem ends_arr {items : List Json} (ih : ∀ item ∈ items, item.Ends) : (Json.arr items).Ends := by
  intro depth other hother rest more hrest hmore h
  have hmark := mark_eq h
  cases other with
  | arr others =>
      rw [writeChars, writeChars, writeItems_eq_map, writeItems_eq_map] at h
      have hfirst : ∀ item, ∃ c cs, writeChars .compact (depth + 1) item = c :: cs ∧ c ≠ ']' := by
        intro item
        obtain ⟨c, cs, hcs, -, hc⟩ := starts_writeChars .compact (depth + 1) item
        exact ⟨c, cs, hcs, hc⟩
      obtain ⟨hitems, htail⟩ := forall₂_of_bracket (by decide) (by decide) hfirst
        (fun item hitem other hmem => ih item hitem (depth + 1) other (hother.item hmem)) h
      rw [List.forall₂_iff_zip] at hitems
      exact ⟨SameUpToOrder.arr items others hitems.1 fun pair hpair => hitems.2 hpair, htail⟩
  | _ => simp [mark] at hmark

theorem split_writeField {depth : Nat} {field other : String × Json} (hvalue : field.2.Ends)
    (hother : other.2.Keyed) :
    Split (writeField .compact depth)
      (fun field other => field.1 = other.1 ∧ SameUpToOrder field.2 other.2) field other := by
  intro rest more hrest hmore h
  unfold writeField Layout.field at h
  simp only [List.append_assoc, List.cons_append] at h
  obtain ⟨hkey, hcolon⟩ := eq_of_stringChars h
  obtain ⟨hsame, htail⟩ := hvalue depth other.2 hother rest more hrest hmore
    (List.cons.inj hcolon).2
  exact ⟨⟨hkey, hsame⟩, htail⟩

theorem ends_obj {fields : Fields} (hkeys : fields.keys.Nodup)
    (ih : ∀ field ∈ fields, field.2.Ends) : (Json.obj fields).Ends := by
  intro depth other hother rest more hrest hmore h
  have hmark := mark_eq h
  cases other with
  | obj others =>
      rw [writeChars, writeChars, arrange_writeFields, arrange_writeFields] at h
      have hsorted := same_byKey hkeys
      have hsorted' := same_byKey hother.nodup
      obtain ⟨hfields, htail⟩ := forall₂_of_bracket (by decide) (by decide)
        (fun field => ⟨'"', _, rfl, by decide⟩)
        (fun field hfield other hmem =>
          split_writeField (ih field (hsorted.perm.mem_iff.mpr hfield))
            (hother.value (hsorted'.perm.mem_iff.mpr hmem))) h
      have hlookup : ∀ key, Option.Rel SameUpToOrder (fields.lookup key) (others.lookup key) := by
        intro key
        rw [hsorted.lookup_eq, hsorted'.lookup_eq]
        exact rel_lookup_of_forall₂ hfields key
      exact ⟨SameUpToOrder.of_lookup hlookup, htail⟩
  | _ => simp [mark] at hmark

/-- The compact text of a value shows where it ends and which value it is. -/
theorem ends_of_keyed {value : Json} (h : value.Keyed) : value.Ends := by
  induction h with
  | null => exact ends_of_readAtom SameUpToOrder.null fun _ _ _ => rfl
  | bool b =>
      cases b with
      | true => exact ends_of_readAtom (SameUpToOrder.bool true) fun _ _ _ => rfl
      | false => exact ends_of_readAtom (SameUpToOrder.bool false) fun _ _ _ => rfl
  | int n => exact ends_int n
  | float x =>
      refine ends_of_readAtom (SameUpToOrder.float x) fun depth rest hrest => ?_
      rw [writeChars]
      exact readAtom_textChars x hrest
  | str s => exact ends_str s
  | arr items hitems ih => exact ends_arr ih
  | obj fields hkeys hvalues ih => exact ends_obj hkeys ih

/-! ### Canonical texts -/

/-- Two values have one canonical text exactly if they differ in nothing but the order of keys, and
then one fingerprint.  A value that is neither a list nor an object has its text to itself: `1` and
`1.0`, or `null` and a text that spells it, are told apart. -/
theorem canonicalText_eq_iff {value other : Json} (h : value.Keyed) (h' : other.Keyed) :
    (value.canonicalText = other.canonicalText ↔ SameUpToOrder value other) ∧
      (value.items? = none → value.fields? = none →
        value.canonicalText = other.canonicalText → value = other) ∧
      (SameUpToOrder value other → value.fingerprint = other.fingerprint) := by
  have htext : SameUpToOrder value other → value.canonicalText = other.canonicalText :=
    fun hsame => congrArg String.ofList (hsame.writeChars_eq h h' 0)
  have hsame : value.canonicalText = other.canonicalText → SameUpToOrder value other := by
    intro heq
    have hchars := congrArg String.toList heq
    unfold canonicalText write at hchars
    rw [String.toList_ofList, String.toList_ofList] at hchars
    have hsplit := ends_of_keyed h 0 other h' [] [] closes_nil closes_nil
    rw [List.append_nil, List.append_nil] at hsplit
    exact (hsplit hchars).1
  refine ⟨⟨hsame, htext⟩, ?_, ?_⟩
  · intro hitems hfields heq
    cases hsame heq with
    | null => rfl
    | bool b => rfl
    | int n => rfl
    | float x => rfl
    | str s => rfl
    | arr items more _ _ => cases hitems
    | obj fields more _ _ => cases hfields
  · intro heq
    unfold fingerprint
    rw [htext heq]

/-- A value, and the same one with its keys in another order at both depths. -/
def oneOrder : Json :=
  .obj [("steps", .int 20), ("nodes", .arr [.obj [("kind", .str "20"), ("seed", .null)]])]

@[inherit_doc oneOrder]
def otherOrder : Json :=
  .obj [("nodes", .arr [.obj [("seed", .null), ("kind", .str "20")]]), ("steps", .int 20)]

theorem keyed_oneOrder : oneOrder.Keyed :=
  Keyed.obj _ (by decide) (List.forall_mem_cons.mpr ⟨Keyed.int 20, List.forall_mem_singleton.mpr
    (Keyed.arr _ (List.forall_mem_singleton.mpr (Keyed.obj _ (by decide)
      (List.forall_mem_cons.mpr ⟨Keyed.str "20", List.forall_mem_singleton.mpr Keyed.null⟩))))⟩)

theorem keyed_otherOrder : otherOrder.Keyed :=
  Keyed.obj _ (by decide) (List.forall_mem_cons.mpr ⟨Keyed.arr _ (List.forall_mem_singleton.mpr
    (Keyed.obj _ (by decide) (List.forall_mem_cons.mpr
      ⟨Keyed.null, List.forall_mem_singleton.mpr (Keyed.str "20")⟩))),
    List.forall_mem_singleton.mpr (Keyed.int 20)⟩)

/-- Two fields that change places, their values the same. -/
theorem SameUpToOrder.swap {first second : String} (hne : first ≠ second) {a a' b b' : Json}
    (ha : SameUpToOrder a a') (hb : SameUpToOrder b b') :
    SameUpToOrder (.obj [(first, a), (second, b)]) (.obj [(second, b'), (first, a')]) := by
  refine SameUpToOrder.of_lookup fun key => ?_
  simp only [List.lookup_cons, List.lookup_nil]
  by_cases hfirst : key = first
  · have hsecond : (key == second) = false := beq_false_of_ne (hfirst ▸ hne)
    rw [hsecond, beq_iff_eq.mpr hfirst]
    exact Option.Rel.some ha
  · rw [beq_false_of_ne hfirst]
    cases key == second with
    | true => exact Option.Rel.some hb
    | false => exact Option.Rel.none

/-- Keys in another order at two depths leave the text alone; a float in place of the integer does
not. -/
theorem canonicalText_eq_iff_otherOrder :
    oneOrder.Keyed ∧ otherOrder.Keyed ∧ oneOrder ≠ otherOrder ∧
      oneOrder.canonicalText = otherOrder.canonicalText ∧
      oneOrder.fingerprint = otherOrder.fingerprint ∧
      (Json.int 20).canonicalText ≠ (Json.float (Double.ofInt 20)).canonicalText ∧
      (Json.int 20).canonicalText ≠ (Json.str "20").canonicalText := by
  have hinner : SameUpToOrder (.arr [.obj [("kind", .str "20"), ("seed", .null)]])
      (.arr [.obj [("seed", .null), ("kind", .str "20")]]) :=
    SameUpToOrder.arr _ _ rfl (List.forall_mem_singleton.mpr
      (SameUpToOrder.swap (by decide) (SameUpToOrder.str "20") SameUpToOrder.null))
  have hsame : SameUpToOrder oneOrder otherOrder :=
    SameUpToOrder.swap (by decide) (SameUpToOrder.int 20) hinner
  have hiff := canonicalText_eq_iff keyed_oneOrder keyed_otherOrder
  refine ⟨keyed_oneOrder, keyed_otherOrder, by decide, hiff.1.mpr hsame, hiff.2.2 hsame, ?_, ?_⟩
  · intro heq
    cases (canonicalText_eq_iff (Keyed.int 20) (Keyed.float _)).2.1 rfl rfl heq
  · intro heq
    cases (canonicalText_eq_iff (Keyed.int 20) (Keyed.str _)).2.1 rfl rfl heq

end RenderRelay.Json
