import RenderRelay.Proofs.Entries
import RenderRelay.Proofs.Json.Canonical

/-! # Values up to the order of keys

* `Keyed` holds of the values in which no object has a key twice.
* `SameUpToOrder` relates values that differ in nothing but the order of keys, at whatever depth.
* `SameUpToOrder.writeChars_eq`: such values have one compact text. -/

namespace RenderRelay.Json

/-- A value in which no object has a key twice. -/
inductive Keyed : Json → Prop where
  | null : Keyed .null
  | bool (b : Bool) : Keyed (.bool b)
  | int (n : Int) : Keyed (.int n)
  | float (x : Double) : Keyed (.float x)
  | str (s : String) : Keyed (.str s)
  | arr (items : List Json) (hitems : ∀ item ∈ items, Keyed item) : Keyed (.arr items)
  | obj (fields : Fields) (hkeys : fields.keys.Nodup)
      (hvalues : ∀ field ∈ fields, Keyed field.2) : Keyed (.obj fields)

/-- The values differ in nothing but the order of keys: items are compared by their places, the
values of fields by their keys. -/
inductive SameUpToOrder : Json → Json → Prop where
  | null : SameUpToOrder .null .null
  | bool (b : Bool) : SameUpToOrder (.bool b) (.bool b)
  | int (n : Int) : SameUpToOrder (.int n) (.int n)
  | float (x : Double) : SameUpToOrder (.float x) (.float x)
  | str (s : String) : SameUpToOrder (.str s) (.str s)
  | arr (items more : List Json) (hlength : items.length = more.length)
      (hitems : ∀ pair ∈ items.zip more, SameUpToOrder pair.1 pair.2) :
      SameUpToOrder (.arr items) (.arr more)
  | obj (fields more : Fields) (hkeys : ∀ key, fields.has key = more.has key)
      (hvalues : ∀ key value other, fields.lookup key = some value →
        more.lookup key = some other → SameUpToOrder value other) :
      SameUpToOrder (.obj fields) (.obj more)

theorem Keyed.nodup {fields : Fields} (h : (Json.obj fields).Keyed) : fields.keys.Nodup := by
  cases h with
  | obj _ hkeys _ => exact hkeys

theorem Keyed.value {fields : Fields} (h : (Json.obj fields).Keyed) {field : String × Json}
    (hfield : field ∈ fields) : field.2.Keyed := by
  cases h with
  | obj _ _ hvalues => exact hvalues field hfield

theorem Keyed.item {items : List Json} (h : (Json.arr items).Keyed) {item : Json}
    (hitem : item ∈ items) : item.Keyed := by
  cases h with
  | arr _ hitems => exact hitems item hitem

/-- Objects that hold such values under each key, or both none. -/
theorem SameUpToOrder.of_lookup {fields more : Fields}
    (h : ∀ key, Option.Rel SameUpToOrder (fields.lookup key) (more.lookup key)) :
    SameUpToOrder (.obj fields) (.obj more) := by
  refine SameUpToOrder.obj fields more ?_ ?_
  · intro key
    have hrel := h key
    unfold Entries.has
    generalize fields.lookup key = first, more.lookup key = second at hrel
    cases hrel <;> rfl
  · intro key value other hvalue hother
    have hrel := h key
    rw [hvalue, hother] at hrel
    cases hrel with
    | some hsame => exact hsame

theorem SameUpToOrder.lookup {fields more : Fields}
    (h : SameUpToOrder (.obj fields) (.obj more)) (key : String) :
    Option.Rel SameUpToOrder (fields.lookup key) (more.lookup key) := by
  cases h with
  | obj _ _ hkeys hvalues =>
      have hhas := hkeys key
      unfold Entries.has at hhas
      cases hfirst : fields.lookup key with
      | none =>
          rw [hfirst, Option.isSome_none, eq_comm, Option.isSome_eq_false_iff,
            Option.isNone_iff_eq_none] at hhas
          rw [hhas]
          exact Option.Rel.none
      | some first =>
          rw [hfirst, Option.isSome_some, eq_comm, Option.isSome_iff_exists] at hhas
          obtain ⟨second, hsecond⟩ := hhas
          rw [hsecond]
          exact Option.Rel.some (hvalues key first second hfirst hsecond)

/-! ### One text -/

theorem lookup_writeFields (layout : Layout) (depth : Nat) (fields : Fields) (key : String) :
    (writeFields layout depth fields).lookup key =
      (fields.lookup key).map (writeChars layout depth) := by
  rw [writeFields_eq_map]
  exact Entries.lookup_map (writeChars layout depth) key fields

theorem keys_writeFields (layout : Layout) (depth : Nat) (fields : Fields) :
    Entries.keys (writeFields layout depth fields) = fields.keys := by
  rw [writeFields_eq_map]
  exact List.map_map

/-- Values that differ in nothing but the order of keys have one compact text. -/
theorem SameUpToOrder.writeChars_eq {value other : Json} (h : SameUpToOrder value other) :
    value.Keyed → other.Keyed → ∀ depth,
      writeChars .compact depth value = writeChars .compact depth other := by
  induction h with
  | null => exact fun _ _ _ => rfl
  | bool b => exact fun _ _ _ => rfl
  | int n => exact fun _ _ _ => rfl
  | float x => exact fun _ _ _ => rfl
  | str s => exact fun _ _ _ => rfl
  | arr items more hlength hitems ih =>
      intro hvalue hother depth
      have hpieces : items.map (writeChars .compact (depth + 1)) =
          more.map (writeChars .compact (depth + 1)) := by
        rw [← List.forall₂_eq_eq_eq, List.forall₂_map_left_iff, List.forall₂_map_right_iff,
          List.forall₂_iff_zip]
        refine ⟨hlength, ?_⟩
        intro item other hpair
        exact ih (item, other) hpair (hvalue.item (List.of_mem_zip hpair).1)
          (hother.item (List.of_mem_zip hpair).2) (depth + 1)
      rw [writeChars, writeChars, writeItems_eq_map, writeItems_eq_map, hpieces]
  | obj fields more hkeys hvalues ih =>
      intro hvalue hother depth
      refine writeChars_compact_of_perm (Entries.Same.perm ?_) hvalue.nodup
      refine Entries.Same.of_lookup ?_ ?_ fun key => ?_
      · rw [keys_writeFields]
        exact hvalue.nodup
      · rw [keys_writeFields]
        exact hother.nodup
      · have hrel := (SameUpToOrder.obj fields more hkeys hvalues).lookup key
        rw [lookup_writeFields, lookup_writeFields]
        cases hfirst : fields.lookup key with
        | none =>
            cases hsecond : more.lookup key with
            | none => rfl
            | some second =>
                rw [hfirst, hsecond] at hrel
                cases hrel
        | some first =>
            cases hsecond : more.lookup key with
            | none =>
                rw [hfirst, hsecond] at hrel
                cases hrel
            | some second =>
                exact congrArg some (ih key first second hfirst hsecond
                  (hvalue.value (Entries.mem_of_lookup hfirst))
                  (hother.value (Entries.mem_of_lookup hsecond)) (depth + 1))

end RenderRelay.Json
