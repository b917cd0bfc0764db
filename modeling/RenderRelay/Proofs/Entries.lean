import Mathlib.Data.List.Nodup
import RenderRelay.Entries

/-! # Laws of ordered maps

Membership, lookup and keys after the writes of `Entries`.

* `lookup_map`, `map_map_of_undo`: writing each value by itself, and reading it back.
* `mem_put_iff`: a write leaves exactly the entries of the other keys and the new one.
* `lookup_putNew`: a write by `putNew` is seen only under its own key, and only if nothing stood
  there.
* `put_of_not_mem`: a new key is appended, so that writing distinct keys one by one builds the
  map (`merge_of_nodup`).
* `Same`: the same entries in whatever order; such maps answer alike, and stay the same under
  `putNew`.
* `lookup_remove`: a removal is seen only under its own key.
* `Edit key` is a change that leaves alone what stands under a key (`Edit.lookup_eq`). -/

namespace RenderRelay.Entries

variable {α : Type} {entries : Entries α} {key : String} {value : α}

theorem has_iff_mem_keys : entries.has key = true ↔ key ∈ entries.keys := by
  unfold has keys
  rw [List.lookup_isSome_iff, List.mem_map]
  constructor
  · rintro ⟨entry, hmem, hkey⟩
    exact ⟨entry, hmem, (eq_of_beq hkey).symm⟩
  · rintro ⟨entry, hmem, hkey⟩
    exact ⟨entry, hmem, by simp [hkey]⟩

theorem mem_of_lookup (h : entries.lookup key = some value) : (key, value) ∈ entries := by
  obtain ⟨before, after, rfl, -⟩ := List.lookup_eq_some_iff.mp h
  simp

theorem mem_keys_of_mem (h : (key, value) ∈ entries) : key ∈ entries.keys :=
  List.mem_map_of_mem (f := Prod.fst) h

theorem lookup_of_mem (hnodup : entries.keys.Nodup) (h : (key, value) ∈ entries) :
    entries.lookup key = some value := by
  induction entries with
  | nil => simp at h
  | cons entry rest ih =>
      obtain ⟨k, v⟩ := entry
      simp only [keys, List.map_cons, List.nodup_cons] at hnodup
      rcases List.mem_cons.mp h with heq | hmem
      · obtain ⟨rfl, rfl⟩ := Prod.mk.inj heq
        simp
      · have hne : key ≠ k := by
          rintro rfl
          exact hnodup.1 (mem_keys_of_mem hmem)
        rw [List.lookup_cons, beq_false_of_ne hne]
        exact ih hnodup.2 hmem

/-- What is written from each value by itself is found under its key. -/
theorem lookup_map {β : Type} (write : α → β) (key : String) : ∀ entries : Entries α,
    (entries.map fun entry => (entry.1, write entry.2)).lookup key =
      (entries.lookup key).map write
  | [] => rfl
  | (other, value) :: entries => by
      rw [List.map_cons, List.lookup_cons, List.lookup_cons, lookup_map write key entries]
      cases key == other <;> rfl

/-- Reading each value undoes writing each value. -/
theorem map_map_of_undo {β : Type} (write : α → β) (read : β → α)
    (h : ∀ key value, (key, value) ∈ entries → read (write value) = value) :
    ((entries.map fun entry => (entry.1, write entry.2)).map fun entry =>
      (entry.1, read entry.2)) = entries := by
  rw [List.map_map]
  refine (List.map_congr_left fun entry hentry => ?_).trans (List.map_id entries)
  exact Prod.ext rfl (h entry.1 entry.2 hentry)

/-! ### Writing over what is there -/

theorem nodup_keys_put (h : entries.keys.Nodup) (key : String) (value : α) :
    (entries.put key value).keys.Nodup := by
  rw [keys_put]
  split_ifs with hkey
  · exact h
  · exact List.Nodup.append h (List.nodup_singleton key) (by simpa using hkey)

theorem mem_keys_put {other : String} :
    other ∈ (entries.put key value).keys ↔ other ∈ entries.keys ∨ other = key := by
  rw [keys_put]
  split_ifs with hkey
  · constructor
    · exact Or.inl
    · rintro (hmem | rfl) <;> assumption
  · simp

/-- The entries after a write are the new one and those of the other keys. -/
theorem mem_put_iff (h : entries.keys.Nodup) {entry : String × α} :
    entry ∈ entries.put key value ↔ entry = (key, value) ∨ (entry ∈ entries ∧ entry.1 ≠ key) := by
  obtain ⟨other, found⟩ := entry
  have hnodup := nodup_keys_put h key value
  constructor
  · intro hmem
    have hlookup := lookup_of_mem hnodup hmem
    by_cases hne : other = key
    · subst hne
      rw [lookup_put_self] at hlookup
      exact Or.inl (by rw [Option.some.inj hlookup])
    · rw [lookup_put_of_ne _ _ hne] at hlookup
      exact Or.inr ⟨mem_of_lookup hlookup, hne⟩
  · rintro (heq | ⟨hmem, hne⟩)
    · obtain ⟨rfl, rfl⟩ := Prod.mk.inj heq
      exact mem_of_lookup (lookup_put_self _ _ _)
    · apply mem_of_lookup
      rw [lookup_put_of_ne _ _ hne]
      exact lookup_of_mem h hmem

/-- A new key is appended. -/
theorem put_of_not_mem (h : key ∉ entries.keys) :
    entries.put key value = entries ++ [(key, value)] := by
  induction entries with
  | nil => rfl
  | cons entry rest ih =>
      obtain ⟨k, v⟩ := entry
      simp only [keys, List.map_cons, List.mem_cons, not_or] at h
      rw [put, if_neg (Ne.symm h.1), ih h.2]
      rfl

theorem not_mem_keys_of_nodup {more : Entries α}
    (h : (entries ++ (key, value) :: more).keys.Nodup) : key ∉ entries.keys := by
  unfold keys at h ⊢
  rw [List.map_append] at h
  exact fun hkey => (List.nodup_append.mp h).2.2 key hkey key List.mem_cons_self rfl

/-- Distinct keys that are written one by one stand in the order of the writes. -/
theorem merge_of_nodup {more : Entries α} (h : (entries ++ more).keys.Nodup) :
    entries.merge more = entries ++ more := by
  induction more generalizing entries with
  | nil => exact (List.append_nil entries).symm
  | cons entry more ih =>
      obtain ⟨k, v⟩ := entry
      have hassoc : entries ++ (k, v) :: more = entries ++ [(k, v)] ++ more := by simp
      have hput : entries.put k v = entries ++ [(k, v)] := put_of_not_mem (not_mem_keys_of_nodup h)
      rw [hassoc] at h ⊢
      change (entries.put k v).merge more = _
      rw [hput, ih h]

/-! ### Writing where nothing stands -/

theorem putNew_of_has (h : entries.has key = true) : entries.putNew key value = entries := by
  simp [putNew, h]

theorem putNew_of_not_has (h : entries.has key = false) :
    entries.putNew key value = entries ++ [(key, value)] := by
  simp [putNew, h]

/-- A write by `putNew` is seen under its own key alone, and only if nothing stood there. -/
theorem lookup_putNew (other : String) :
    (entries.putNew key value).lookup other =
      (entries.lookup other).or (if other = key then some value else none) := by
  by_cases hhas : entries.has key = true
  · rw [putNew_of_has hhas]
    split_ifs with hkey
    · subst hkey
      obtain ⟨found, hfound⟩ := Option.isSome_iff_exists.mp hhas
      simp [hfound]
    · simp
  · rw [putNew_of_not_has (by simpa using hhas), List.lookup_append]
    by_cases hkey : other = key
    · simp [hkey]
    · simp [List.lookup_cons, beq_false_of_ne hkey, hkey]

theorem lookup_putNew_self (h : entries.has key = false) (value : α) :
    (entries.putNew key value).lookup key = some value := by
  have hnone : entries.lookup key = none :=
    Option.isNone_iff_eq_none.mp (Option.isSome_eq_false_iff.mp h)
  rw [lookup_putNew, hnone, Option.none_or, if_pos rfl]

theorem has_putNew (other : String) :
    (entries.putNew key value).has other = (entries.has other || decide (other = key)) := by
  unfold has
  rw [lookup_putNew, Option.isSome_or]
  split_ifs with hkey
  · rw [decide_eq_true hkey, Option.isSome_some]
  · rw [decide_eq_false hkey, Option.isSome_none]

theorem mem_putNew {entry : String × α} (h : entry ∈ entries.putNew key value) :
    entry ∈ entries ∨ entry = (key, value) := by
  unfold putNew at h
  split_ifs at h with hhas
  · exact Or.inl h
  · simpa using h

theorem nodup_keys_putNew (h : entries.keys.Nodup) (key : String) (value : α) :
    (entries.putNew key value).keys.Nodup := by
  by_cases hhas : entries.has key = true
  · rwa [putNew_of_has hhas]
  · rw [putNew_of_not_has (by simpa using hhas),
      ← put_of_not_mem (mt has_iff_mem_keys.mpr hhas)]
    exact nodup_keys_put h key value

/-! ### Maps made from a list -/

/-- Writing to a key of a map whose entries are made from a list. -/
theorem put_map {β : Type} {items : List β} {keyOf : β → String} {valueOf : β → α}
    (hnodup : (items.map keyOf).Nodup) (hkey : key ∈ items.map keyOf) :
    put (items.map fun item => (keyOf item, valueOf item)) key value =
      items.map fun item => (keyOf item, if keyOf item = key then value else valueOf item) := by
  induction items with
  | nil => cases hkey
  | cons item items ih =>
      obtain ⟨hfresh, hnodup⟩ := List.nodup_cons.mp hnodup
      rw [List.map_cons, List.map_cons, put]
      split_ifs with hitem
      · congr 1
        refine List.map_congr_left fun other hother => ?_
        have hne : keyOf other ≠ key := fun heq =>
          hfresh (hitem ▸ heq ▸ List.mem_map_of_mem hother)
        rw [if_neg hne]
      · rw [ih hnodup ((List.mem_cons.mp hkey).resolve_left fun heq => hitem heq.symm)]

/-! ### The same entries in another order -/

/-- The maps have the same entries, under distinct keys, in whatever order. -/
structure Same (first second : Entries α) : Prop where
  perm : first.Perm second
  nodup : first.keys.Nodup

namespace Same

variable {first second : Entries α}

theorem refl (h : entries.keys.Nodup) : Same entries entries := ⟨List.Perm.refl _, h⟩

theorem nodup_right (h : Same first second) : second.keys.Nodup :=
  (h.perm.map Prod.fst).nodup_iff.mp h.nodup

theorem lookup_eq (h : Same first second) (key : String) :
    first.lookup key = second.lookup key := by
  refine Option.ext fun value => ?_
  constructor
  · intro hvalue
    exact lookup_of_mem h.nodup_right (h.perm.mem_iff.mp (mem_of_lookup hvalue))
  · intro hvalue
    exact lookup_of_mem h.nodup (h.perm.mem_iff.mpr (mem_of_lookup hvalue))

theorem has_eq (h : Same first second) (key : String) : first.has key = second.has key :=
  congrArg Option.isSome (h.lookup_eq key)

theorem of_lookup (hfirst : first.keys.Nodup) (hsecond : second.keys.Nodup)
    (h : ∀ key, first.lookup key = second.lookup key) : Same first second := by
  refine ⟨?_, hfirst⟩
  rw [List.perm_ext_iff_of_nodup hfirst.of_map hsecond.of_map]
  rintro ⟨key, value⟩
  constructor
  · intro hmem
    exact mem_of_lookup (h key ▸ lookup_of_mem hfirst hmem)
  · intro hmem
    exact mem_of_lookup (h key ▸ lookup_of_mem hsecond hmem)

theorem putNew (h : Same first second) (key : String) (value : α) :
    Same (first.putNew key value) (second.putNew key value) := by
  refine ⟨?_, nodup_keys_putNew h.nodup key value⟩
  unfold Entries.putNew
  rw [h.has_eq]
  split_ifs
  · exact h.perm
  · exact h.perm.append_right _

end Same

/-! ### Removing -/

/-- A removal takes what stands under its key, and nothing else. -/
theorem lookup_remove (entries : Entries α) (key other : String) :
    (entries.remove key).lookup other = if other = key then none else entries.lookup other := by
  induction entries with
  | nil => simp [remove]
  | cons entry rest ih =>
      obtain ⟨k, v⟩ := entry
      unfold remove at ih ⊢
      by_cases hk : k = key
      · rw [List.filter_cons_of_neg (by simpa using hk), ih, List.lookup_cons]
        split_ifs with ho
        · rfl
        · rw [beq_false_of_ne (hk ▸ ho)]
      · rw [List.filter_cons_of_pos (by simpa using hk), List.lookup_cons, List.lookup_cons, ih]
        by_cases ho : other = k
        · simp [ho, hk]
        · simp [beq_false_of_ne ho]

/-! ### Changes elsewhere -/

/-- One change that leaves alone what stands under a key: a write under another key, a removal of
another key, or another order of the entries. -/
inductive Edit (key : String) : Entries α → Entries α → Prop where
  | write (entries : Entries α) (other : String) (value : α) (h : other ≠ key) :
      Edit key entries (entries.put other value)
  | remove (entries : Entries α) (other : String) (h : other ≠ key) :
      Edit key entries (entries.remove other)
  | reorder (first second : Entries α) (h : Same first second) : Edit key first second

theorem Edit.lookup_eq {first second : Entries α} (h : Edit key first second) :
    second.lookup key = first.lookup key := by
  cases h with
  | write _ value hother => exact lookup_put_of_ne first value hother.symm
  | remove _ hother => rw [lookup_remove, if_neg hother.symm]
  | reorder _ hsame => exact (hsame.lookup_eq key).symm

end RenderRelay.Entries
