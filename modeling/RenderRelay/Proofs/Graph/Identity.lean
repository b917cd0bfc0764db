import Mathlib.Data.List.Nodup
import RenderRelay.Graph.Raw
import RenderRelay.Proofs.Number.Digits

/-! # Ids of raw nodes

A raw node gives an id of its own, or it is named after its place in the list.  Ids of both kinds
are texts, so a given id may read like the name of another node.

* `NodeEntry` is a raw node that is an object, with its place; `map_node_ofItems` says that
  these are what nodes are read from, one each.
* `NodeEntry.Shadows`: an entry gives as its id the name that another one has after its place.
* `WellNamed.pairwise_id_eq_iff`: if no two entries give one id, two share an id exactly if one
  shadows the other, so that all ids are distinct exactly if no entry is shadowed
  (`WellNamed.nodup_ids_iff`).
* `unshadowed` drops the entries whose id another one gives; the others have all the ids, each
  once (`mem_ids_unshadowed`, `WellNamed.nodup_ids_unshadowed`). -/

namespace RenderRelay

open Number

/-- A raw node that is an object, and its place in the list. -/
structure NodeEntry where
  place : Nat
  fields : Fields

namespace NodeEntry

/-- The entries of raw values, the first of which stands at place `index`. -/
def ofItems (index : Nat) (items : List Json) : List NodeEntry :=
  (items.zipIdx index).filterMap fun item => item.1.fields?.map (NodeEntry.mk item.2)

/-- The id that an entry gives, as a text; null and the empty text give none. -/
def ownId? (entry : NodeEntry) : Option String :=
  let id := entry.fields.get "id"
  if id = .null ∨ id = .str "" then none else some id.display

/-- The name of a node that is given no id, after its place. -/
def placeName (place : Nat) : String := "node-" ++ String.ofList (natDigits place)

/-- The id of an entry: its own, or the name after its place. -/
def id (entry : NodeEntry) : String := entry.ownId?.getD (placeName entry.place)

/-- The node that is read from an entry. -/
def node (entry : NodeEntry) : Node := Node.ofFields entry.place entry.fields

/-- The entry gives as its id the name that another one, which gives none, has after its place. -/
def Shadows (entry other : NodeEntry) : Prop :=
  other.ownId? = none ∧ entry.ownId? = some (placeName other.place)

instance (entry other : NodeEntry) : Decidable (entry.Shadows other) :=
  inferInstanceAs (Decidable (_ ∧ _))

/-- No entry is shadowed by another one. -/
def NoneShadowed (entries : List NodeEntry) : Prop :=
  ∀ entry ∈ entries, ∀ other ∈ entries, ¬ other.Shadows entry

instance (entries : List NodeEntry) : Decidable (NoneShadowed entries) :=
  inferInstanceAs (Decidable (∀ entry ∈ entries, ∀ other ∈ entries, ¬ other.Shadows entry))

/-- The entries that are not shadowed. -/
def unshadowed (entries : List NodeEntry) : List NodeEntry :=
  entries.filter fun entry => ∀ other ∈ entries, ¬ other.Shadows entry

/-- The entries stand at distinct places, and those that give ids give distinct ones. -/
structure WellNamed (entries : List NodeEntry) : Prop where
  places : entries.Pairwise fun first second => first.place ≠ second.place
  own : (entries.filterMap ownId?).Nodup

variable {entry first second : NodeEntry} {entries : List NodeEntry} {name : String}

/-! ### Entries and their nodes -/

theorem id_node (entry : NodeEntry) : entry.node.id = entry.id := by
  unfold node id ownId? placeName
  simp only [Node.ofFields, Node.idAt]
  split_ifs <;> rfl

theorem ofItems_cons (index : Nat) (item : Json) (items : List Json) :
    ofItems index (item :: items) =
      (item.fields?.map (NodeEntry.mk index)).toList ++ ofItems (index + 1) items := by
  unfold ofItems
  rw [List.zipIdx_cons, List.filterMap_cons]
  cases item.fields? <;> rfl

/-- The nodes that are read from raw values are those of their entries, in order. -/
theorem map_node_ofItems (items : List Json) : ∀ index : Nat,
    (ofItems index items).map node = Node.ofItems index items := by
  induction items with
  | nil => exact fun _ => rfl
  | cons item items ih =>
      intro index
      rw [ofItems_cons, List.map_append, ih]
      cases item <;> rfl

theorem places_ofItems (index : Nat) (items : List Json) :
    (ofItems index items).Pairwise fun first second => first.place ≠ second.place := by
  have hplaces : (items.zipIdx index).Pairwise fun first second => first.2 ≠ second.2 := by
    rw [← List.pairwise_map (f := Prod.snd) (R := (· ≠ ·)), List.zipIdx_map_snd]
    exact List.nodup_range'
  refine hplaces.filterMap _ ?_
  intro item item' hne entry hentry entry' hentry'
  obtain ⟨fields, -, rfl⟩ := Option.map_eq_some_iff.mp hentry
  obtain ⟨fields', -, rfl⟩ := Option.map_eq_some_iff.mp hentry'
  exact hne

/-! ### Who shares an id -/

theorem placeName_injective : Function.Injective placeName := by
  intro place place' h
  have hdigits := (String.append_right_inj "node-").mp h
  exact natDigits_injective (String.ofList_injective hdigits)

theorem id_of_ownId? (h : entry.ownId? = some name) : entry.id = name := by
  unfold id
  rw [h, Option.getD_some]

theorem id_of_unnamed (h : entry.ownId? = none) : entry.id = placeName entry.place := by
  unfold id
  rw [h, Option.getD_none]

theorem Shadows.id_eq (h : first.Shadows second) : first.id = second.id := by
  rw [id_of_ownId? h.2, id_of_unnamed h.1]

/-- What shadows an entry is not shadowed itself: it gives an id. -/
theorem Shadows.not_shadows (h : first.Shadows second) (entry : NodeEntry) :
    ¬ entry.Shadows first := by
  intro hentry
  have hown := h.2
  rw [hentry.1] at hown
  cases hown

/-- Entries at two places that do not give one id share an id exactly if one shadows the other. -/
theorem id_eq_iff_shadows (hplace : first.place ≠ second.place)
    (hown : ∀ name, first.ownId? = some name → second.ownId? ≠ some name) :
    first.id = second.id ↔ first.Shadows second ∨ second.Shadows first := by
  constructor
  · intro hid
    -- two names after places differ, and so do two given ids: one entry of each sort is left
    cases hfirst : first.ownId? with
    | none =>
        rw [id_of_unnamed hfirst] at hid
        cases hsecond : second.ownId? with
        | none =>
            rw [id_of_unnamed hsecond] at hid
            exact absurd (placeName_injective hid) hplace
        | some name =>
            rw [id_of_ownId? hsecond] at hid
            exact Or.inr ⟨hfirst, by rw [hsecond, hid]⟩
    | some name =>
        rw [id_of_ownId? hfirst] at hid
        cases hsecond : second.ownId? with
        | none =>
            rw [id_of_unnamed hsecond] at hid
            exact Or.inl ⟨hsecond, by rw [hfirst, hid]⟩
        | some name' =>
            rw [id_of_ownId? hsecond] at hid
            exact absurd (hid ▸ hsecond) (hown name hfirst)
  · rintro (h | h)
    · exact h.id_eq
    · exact h.id_eq.symm

theorem wellNamed_ofItems {index : Nat} {items : List Json}
    (h : ((ofItems index items).filterMap ownId?).Nodup) : WellNamed (ofItems index items) :=
  ⟨places_ofItems index items, h⟩

namespace WellNamed

theorem sublist (h : WellNamed entries) {kept : List NodeEntry} (hkept : kept.Sublist entries) :
    WellNamed kept :=
  ⟨h.places.sublist hkept, h.own.sublist (hkept.filterMap ownId?)⟩

theorem pairwise_id_eq_iff (h : WellNamed entries) : entries.Pairwise fun first second =>
    (first.id = second.id ↔ first.Shadows second ∨ second.Shadows first) := by
  have hown := List.pairwise_filterMap.mp h.own
  refine (h.places.and hown).imp ?_
  rintro first second ⟨hplace, hne⟩
  apply id_eq_iff_shadows hplace
  intro name hfirst hsecond
  exact hne name hfirst name hsecond rfl

/-- All ids are distinct exactly if no entry is shadowed. -/
theorem nodup_ids_iff (h : WellNamed entries) : (entries.map id).Nodup ↔ NoneShadowed entries := by
  constructor
  · intro hnodup entry hentry other hother hshadows
    obtain rfl := List.inj_on_of_nodup_map hnodup hother hentry hshadows.id_eq
    exact hshadows.not_shadows other hshadows
  · intro hnone
    unfold List.Nodup
    rw [List.pairwise_map]
    refine h.pairwise_id_eq_iff.imp_of_mem ?_
    intro first second hfirst hsecond hiff hid
    obtain hshadows | hshadows := hiff.mp hid
    · exact hnone second hsecond first hfirst hshadows
    · exact hnone first hfirst second hsecond hshadows

end WellNamed

/-! ### Entries that are not shadowed -/

theorem mem_unshadowed_iff :
    entry ∈ unshadowed entries ↔ entry ∈ entries ∧ ∀ other ∈ entries, ¬ other.Shadows entry := by
  unfold unshadowed
  rw [List.mem_filter, decide_eq_true_iff]

theorem noneShadowed_unshadowed (entries : List NodeEntry) : NoneShadowed (unshadowed entries) := by
  intro entry hentry other hother
  exact (mem_unshadowed_iff.mp hentry).2 other (mem_unshadowed_iff.mp hother).1

theorem WellNamed.nodup_ids_unshadowed (h : WellNamed entries) :
    ((unshadowed entries).map id).Nodup :=
  (h.sublist List.filter_sublist).nodup_ids_iff.mpr (noneShadowed_unshadowed entries)

/-- No id is lost with the entries that are shadowed. -/
theorem mem_ids_unshadowed : name ∈ (unshadowed entries).map id ↔ name ∈ entries.map id := by
  constructor
  · exact fun h => (List.filter_sublist.map id).subset h
  · intro h
    obtain ⟨entry, hentry, rfl⟩ := List.mem_map.mp h
    by_cases hshadowed : ∃ other ∈ entries, other.Shadows entry
    -- the entry that shadows it has the id and stays, since it is not shadowed in turn
    · obtain ⟨other, hother, hshadows⟩ := hshadowed
      rw [← hshadows.id_eq]
      exact List.mem_map_of_mem
        (mem_unshadowed_iff.mpr ⟨hother, fun first _ => hshadows.not_shadows first⟩)
    · refine List.mem_map_of_mem (mem_unshadowed_iff.mpr ⟨hentry, ?_⟩)
      exact fun other hother hshadows => hshadowed ⟨other, hother, hshadows⟩

theorem length_unshadowed_iff :
    (unshadowed entries).length = entries.length ↔ NoneShadowed entries := by
  unfold unshadowed NoneShadowed
  simp only [List.length_filter_eq_length_iff, decide_eq_true_eq]

end NodeEntry

end RenderRelay
