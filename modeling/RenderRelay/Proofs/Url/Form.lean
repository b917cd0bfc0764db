import RenderRelay.Proofs.Bytes.Utf8
import RenderRelay.Proofs.Text.Split
import RenderRelay.Url.Form

/-! # Forms read back

* `percentDecode_encodeByte`: each byte is read back from the characters that stand for it,
  whatever follows; so a text is (`decodeText_encodeText`).
* `isFormChar_of_mem_encodeText`: an encoded text has none of the characters that part a form from
  the rest of a URL, its fields from one another, or a name from its value.
* `decode_encode`: a form is read back from its query. -/

namespace RenderRelay.Url

open Text

/-! ### Bytes and texts -/

/-- The character that stands in a form for another one. -/
def unplus (c : Char) : Char := if c = '+' then ' ' else c

theorem percentDecode_cons {c : Char} (h : c ≠ '%') (rest : List Char) :
    percentDecode (c :: rest) = String.utf8EncodeChar c ++ percentDecode rest := by
  rw [percentDecode]
  intro a b more heq
  exact absurd heq h

theorem percentDecode_percent {a b : Char} {high low : Nat} (ha : hexDigitValue? a = some high)
    (hb : hexDigitValue? b = some low) (rest : List Char) :
    percentDecode ('%' :: a :: b :: rest) =
      UInt8.ofNat (high * 16 + low) :: percentDecode rest := by
  rw [percentDecode, ha, hb]

theorem unreserved_char : ∀ n < 256, isUnreserved n = true →
    unplus (Char.ofNat n) = Char.ofNat n ∧ Char.ofNat n ≠ '%' ∧
      String.utf8EncodeChar (Char.ofNat n) = [UInt8.ofNat n] := by
  decide +kernel

theorem hexDigit_upper : ∀ n < 16, unplus (hexDigit n).toUpper = (hexDigit n).toUpper ∧
    hexDigitValue? (hexDigit n).toUpper = some n := by
  decide +kernel

/-- A byte is read back from what stands for it. -/
theorem percentDecode_encodeByte (b : UInt8) (rest : List Char) :
    percentDecode ((encodeByte b).map unplus ++ rest) = b :: percentDecode rest := by
  have hlt : b.toNat < 256 := b.toNat_lt
  unfold encodeByte
  split_ifs with hunreserved hspace
  · obtain ⟨hplus, hpercent, hbytes⟩ := unreserved_char b.toNat hlt hunreserved
    rw [List.map_singleton, hplus, List.singleton_append, percentDecode_cons hpercent, hbytes,
      UInt8.ofNat_toNat, List.singleton_append]
  · rw [hspace]
    exact percentDecode_cons (by decide) rest
  · obtain ⟨hhighPlus, hhigh⟩ := hexDigit_upper (b.toNat / 16 % 16) (Nat.mod_lt _ (by decide))
    obtain ⟨hlowPlus, hlow⟩ := hexDigit_upper (b.toNat % 16) (Nat.mod_lt _ (by decide))
    have hchars : (percentByte b).map unplus = ['%', (hexDigit (b.toNat / 16 % 16)).toUpper,
        (hexDigit (b.toNat % 16)).toUpper] := by
      change [unplus '%', unplus (hexDigit (b.toNat / 16 % 16)).toUpper,
        unplus (hexDigit (b.toNat % 16)).toUpper] = _
      rw [hhighPlus, hlowPlus]
      rfl
    have hbyte : b.toNat / 16 % 16 * 16 + b.toNat % 16 = b.toNat := by omega
    rw [hchars]
    refine (percentDecode_percent hhigh hlow rest).trans ?_
    rw [hbyte, UInt8.ofNat_toNat]

theorem percentDecode_encodeBytes (bytes : Bytes) :
    percentDecode ((bytes.flatMap encodeByte).map unplus) = bytes := by
  induction bytes with
  | nil => rfl
  | cons b bytes ih => rw [List.flatMap_cons, List.map_append, percentDecode_encodeByte, ih]

/-- A text is read back. -/
theorem decodeText_encodeText (s : String) : decodeText (encodeText s) = s := by
  unfold decodeText encodeText
  rw [String.toList_ofList]
  exact (congrArg Bytes.decodeLossy (percentDecode_encodeBytes (Bytes.encode s))).trans
    (Bytes.decodeLossy_encode s)

/-! ### Fields -/

/-- The characters that an encoded text is made of. -/
def isFormChar (c : Char) : Bool := isUnreserved c.toNat || c = '+' || c = '%'

theorem isFormChar_of_mem_encodeByte {b : UInt8} {c : Char} (h : c ∈ encodeByte b) :
    isFormChar c = true := by
  have hall : ∀ n < 256, (encodeByte (UInt8.ofNat n)).all isFormChar = true := by decide +kernel
  have hb := hall b.toNat b.toNat_lt
  rw [UInt8.ofNat_toNat] at hb
  exact List.all_eq_true.mp hb c h

theorem isFormChar_of_mem_encodeText {s : String} {c : Char} (h : c ∈ (encodeText s).toList) :
    isFormChar c = true := by
  unfold encodeText at h
  rw [String.toList_ofList] at h
  obtain ⟨b, -, hc⟩ := List.mem_flatMap.mp h
  exact isFormChar_of_mem_encodeByte hc

/-- What an encoded text is not made of. -/
theorem not_mem_encodeText {c : Char} (hc : isFormChar c = false) (s : String) :
    c ∉ (encodeText s).toList := by
  intro h
  rw [isFormChar_of_mem_encodeText h] at hc
  cases hc

theorem toList_encodeField (name value : String) : (encodeField name value).toList =
    (encodeText name).toList ++ '=' :: (encodeText value).toList := by
  unfold encodeField
  rw [String.toList_append, String.toList_append, List.append_assoc]
  rfl

theorem decodeField_encodeField (name value : String) :
    decodeField (encodeField name value) = (name, value) := by
  have hsplit : splitOnce (encodeField name value) "=" =
      some (encodeText name, encodeText value) := by
    unfold splitOnce
    rw [toList_encodeField]
    change Option.map _ (splitOnceChars ['='] _) = _
    rw [splitOnceChars_append (not_mem_encodeText (by decide) name), Option.map_some]
    dsimp only
    rw [String.ofList_toList, String.ofList_toList]
  unfold decodeField
  rw [hsplit]
  dsimp only
  rw [decodeText_encodeText, decodeText_encodeText]

theorem not_mem_encodeField {c : Char} (hc : isFormChar c = false) (hequals : c ≠ '=')
    (name value : String) : c ∉ (encodeField name value).toList := by
  rw [toList_encodeField]
  intro h
  obtain h | h := List.mem_append.mp h
  · exact not_mem_encodeText hc name h
  · obtain h | h := List.mem_cons.mp h
    · exact hequals h
    · exact not_mem_encodeText hc value h

/-! ### Forms -/

theorem toList_encode (form : Form) : (encode form).toList =
    ['&'].intercalate (form.map fun field => (encodeField field.1 field.2).toList) := by
  unfold encode join
  rw [String.toList_ofList, List.map_map]
  rfl

/-- A query has none of the characters that end it. -/
theorem not_mem_encode {c : Char} (hc : isFormChar c = false) (hequals : c ≠ '=')
    (hand : c ≠ '&') (form : Form) : c ∉ (encode form).toList := by
  rw [toList_encode]
  intro h
  obtain h | ⟨piece, hpiece, h⟩ := eq_or_mem_of_mem_intercalate h
  · exact hand h
  · obtain ⟨field, -, rfl⟩ := List.mem_map.mp hpiece
    exact not_mem_encodeField hc hequals field.1 field.2 h

theorem split_encode {form : Form} (hne : form ≠ []) :
    split (encode form) '&' = form.map fun field => encodeField field.1 field.2 := by
  unfold split
  rw [toList_encode, splitChar_intercalate (by simpa using hne), List.map_map]
  · exact List.map_congr_left fun field _ => String.ofList_toList
  · intro piece hpiece
    obtain ⟨field, -, rfl⟩ := List.mem_map.mp hpiece
    exact not_mem_encodeField (by decide) (by decide) field.1 field.2

theorem isEmpty_encodeField (name value : String) : (encodeField name value).isEmpty = false := by
  rw [← Bool.not_eq_true, String.isEmpty_iff, ← String.toList_eq_nil_iff, toList_encodeField]
  exact List.append_ne_nil_of_right_ne_nil _ (List.cons_ne_nil _ _)

/-- A form is read back from its query. -/
theorem decode_encode (form : Form) : decode (encode form) = form := by
  obtain rfl | hne := eq_or_ne form []
  · decide
  have hfilled : ∀ piece ∈ form.map fun field => encodeField field.1 field.2,
      (!piece.isEmpty) = true := by
    intro piece hpiece
    obtain ⟨field, -, rfl⟩ := List.mem_map.mp hpiece
    rw [isEmpty_encodeField]
    rfl
  have hread : ∀ field ∈ form, (decodeField ∘ fun field : String × String =>
      encodeField field.1 field.2) field = id field := by
    rintro ⟨name, value⟩ -
    rw [Function.comp_apply, decodeField_encodeField, id_eq]
  unfold decode
  rw [split_encode hne, List.filter_eq_self.mpr hfilled, List.map_map, List.map_congr_left hread,
    List.map_id]

end RenderRelay.Url
