import Mathlib.Data.List.Basic
import RenderRelay.Image.Extract
import RenderRelay.Proofs.Entries

/-! # The first image of a history

What `ImageRef.find?` finds in a history body, said of the places at which the body shows images.

* `Candidate`, `HoldsGroups` and `Describes` say which values of a body are looked at, and
  `ShowsAt` that an image stands at a place: at an item of a group of a candidate of a source.
* `IsFirst` says of a result that it stands at the first place of all.  `isFirst_findSome?` is the
  one step: if each member of a list answers the first of its own places, the first answer is the
  first of all places, those of earlier members before those of later ones.
* `find?_isFirst` nests it four times. -/

namespace RenderRelay

/-! ### First places -/

section First

variable {α β κ κ' : Type}

/-- The result stands at the first place at which something stands; there is none if nothing
stands anywhere. -/
def IsFirst (before : κ → κ → Prop) (standsAt : κ → α → Prop) : Option α → Prop
  | none => ∀ place value, ¬ standsAt place value
  | some value => ∃ place, standsAt place value ∧
      ∀ earlier, before earlier place → ∀ other, ¬ standsAt earlier other

/-- Something stands at a place of a member of a list. -/
def MemberStandsAt (members : List β) (standsAt : β → κ → α → Prop) (place : Nat × κ)
    (value : α) : Prop :=
  ∃ member, members[place.1]? = some member ∧ standsAt member place.2 value

/-- The same places under other names. -/
theorem IsFirst.rename {before : κ → κ → Prop} {standsAt : κ → α → Prop}
    {before' : κ' → κ' → Prop} {standsAt' : κ' → α → Prop} {result : Option α}
    (h : IsFirst before standsAt result) (old : κ' → κ) (hall : Function.Surjective old)
    (hbefore : ∀ first second, before' first second → before (old first) (old second))
    (hiff : ∀ place value, standsAt' place value ↔ standsAt (old place) value) :
    IsFirst before' standsAt' result := by
  cases result with
  | none => exact fun place value hstands => h (old place) value ((hiff place value).mp hstands)
  | some value =>
      obtain ⟨place, hstands, hfirst⟩ := h
      obtain ⟨place, rfl⟩ := hall place
      refine ⟨place, (hiff place value).mpr hstands, fun earlier hearlier other hother => ?_⟩
      exact hfirst (old earlier) (hbefore _ _ hearlier) other ((hiff earlier other).mp hother)

/-- The first answer of the members of a list, each of which answers its own first place. -/
theorem isFirst_findSome? {members : List β} {answer : β → Option α} {before : κ → κ → Prop}
    {standsAt : β → κ → α → Prop}
    (h : ∀ member ∈ members, IsFirst before (standsAt member) (answer member)) :
    IsFirst (Prod.Lex (· < ·) before) (MemberStandsAt members standsAt)
      (members.findSome? answer) := by
  have hnothing : ∀ {member}, member ∈ members → answer member = none →
      ∀ place value, ¬ standsAt member place value := by
    intro member hmember hanswer
    have hfirst := h member hmember
    rwa [hanswer] at hfirst
  cases hresult : members.findSome? answer with
  | none =>
      rintro ⟨i, place⟩ value ⟨member, hmember, hstands⟩
      have hmem := List.mem_of_getElem? hmember
      exact hnothing hmem (List.findSome?_eq_none_iff.mp hresult member hmem) place value hstands
  | some value =>
      obtain ⟨earlier, member, later, rfl, hanswer, hearlier⟩ :=
        List.findSome?_eq_some_iff.mp hresult
      have hfirst := h member (by simp)
      rw [hanswer] at hfirst
      obtain ⟨place, hstands, hbefore⟩ := hfirst
      refine ⟨(earlier.length, place), ⟨member, by simp, hstands⟩, ?_⟩
      rintro ⟨i, place'⟩ hlex other ⟨member', hmember', hstands'⟩
      obtain hlt | ⟨heq, hplace⟩ := Prod.lex_def.mp hlex
      · have hmem : member' ∈ earlier := by
          rw [List.getElem?_append_left hlt] at hmember'
          exact List.mem_of_getElem? hmember'
        exact hnothing (List.mem_append_left _ hmem) (hearlier member' hmem) place' other hstands'
      · dsimp only at heq
        subst heq
        rw [List.getElem?_append_right (Nat.le_refl _), Nat.sub_self] at hmember'
        cases hmember'
        exact hbefore place' hplace other hstands'

/-- One value at most stands at a place of a list, if so it is with its members. -/
theorem memberStandsAt_unique {members : List β} {standsAt : β → κ → α → Prop}
    (h : ∀ member place value other, standsAt member place value →
      standsAt member place other → value = other) (place : Nat × κ) (value other : α)
    (hvalue : MemberStandsAt members standsAt place value)
    (hother : MemberStandsAt members standsAt place other) : value = other := by
  obtain ⟨member, hmember, hvalue⟩ := hvalue
  obtain ⟨member', hmember', hother⟩ := hother
  obtain rfl := Option.some.inj (hmember.symm.trans hmember')
  exact h member place.2 value other hvalue hother

/-- A result that is there stands at the only place. -/
theorem isFirst_unit {standsAt : α → Prop} {result : Option α}
    (h : ∀ value, result = some value ↔ standsAt value) :
    IsFirst (fun _ _ : Unit => False) (fun _ => standsAt) result := by
  cases result with
  | none => exact fun _ value hstands => nomatch (h value).mpr hstands
  | some value => exact ⟨(), (h value).mp rfl, fun _ hfalse => hfalse.elim⟩

end First

namespace ImageRef

/-! ### Where a body shows images -/

/-- A raw value describes the image: its file name is a text that is not empty, and the subfolder
and the category are kept exactly if they are texts. -/
structure Describes (raw : Json) (image : ImageRef) : Prop where
  filename : raw.get "filename" = .str image.filename
  filename_ne : image.filename ≠ ""
  subfolder : ∀ text, image.subfolder = some text ↔ raw.get "subfolder" = .str text
  category : ∀ text, image.category = some text ↔ raw.get "type" = .str text

/-- The groups of an entry stand under the first of three keys that holds an object. -/
inductive HoldsGroups (entry : Json) (groups : Fields) : Prop where
  | outputs (h : entry.get "outputs" = .obj groups)
  | output (hfirst : ∀ others, entry.get "outputs" ≠ .obj others)
      (h : entry.get "output" = .obj groups)
  | data (hfirst : ∀ others, entry.get "outputs" ≠ .obj others)
      (hsecond : ∀ others, entry.get "output" ≠ .obj others)
      (h : entry.get "data" = .obj groups)

/-- The entries of a body that may belong to the job, by the source that they come from and their
number in it.  The first source is the body itself, or its items if it is a list. -/
inductive Candidate : (body : Json) → (jobId : Option String) → (source number : Nat) →
    (entry : Json) → Prop where
  | own {fields : Fields} {jobId : Option String} (houtputs : "outputs" ∈ fields.keys)
      (hjob : ∀ id, jobId = some id →
        fields.get "prompt_id" = .null ∨ (fields.get "prompt_id").display = id) :
      Candidate (.obj fields) jobId 0 0 (.obj fields)
  | ofJob (fields : Fields) (id : String) :
      Candidate (.obj fields) (some id) 1 0 (fields.get id)
  | ofJobBelow (fields : Fields) (id : String) :
      Candidate (.obj fields) (some id) 2 0 ((fields.get "history").get id)
  | below {fields nested : Fields} {number : Nat} {key : String} {entry : Json}
      (hhistory : fields.get "history" = .obj nested) (h : nested[number]? = some (key, entry)) :
      Candidate (.obj fields) none 1 number entry
  | value {fields : Fields} {number : Nat} {key : String} {entry : Json}
      (h : fields[number]? = some (key, entry)) : Candidate (.obj fields) none 2 number entry
  | item {items : List Json} {number : Nat} {entry : Json} (h : items[number]? = some entry) :
      Candidate (.arr items) none 0 number entry

/-- A place in a body: a source, the number of a candidate in it, of a group of that and of an item
of that. -/
structure Place where
  source : Nat
  candidate : Nat
  group : Nat
  item : Nat
deriving DecidableEq, Repr

/-- The order in which places are looked at. -/
def Place.Before (first second : Place) : Prop :=
  first.source < second.source ∨ first.source = second.source ∧
    (first.candidate < second.candidate ∨ first.candidate = second.candidate ∧
      (first.group < second.group ∨ first.group = second.group ∧ first.item < second.item))

theorem Place.before_trichotomy (first second : Place) :
    first.Before second ∨ first = second ∨ second.Before first := by
  obtain ⟨source, candidate, group, item⟩ := first
  obtain ⟨source', candidate', group', item'⟩ := second
  unfold Before
  simp only [Place.mk.injEq]
  omega

/-- A body shows an image of the job at a place: it is described by that item of the images of that
group of that candidate. -/
inductive ShowsAt (body : Json) (jobId : Option String) (place : Place) (image : ImageRef) :
    Prop where
  | intro (entry : Json) (groups : Fields) (name : String) (group : Json) (images : List Json)
      (raw : Json) (hentry : Candidate body jobId place.source place.candidate entry)
      (hgroups : HoldsGroups entry groups) (hgroup : groups[place.group]? = some (name, group))
      (himages : group.get "images" = .arr images) (hraw : images[place.item]? = some raw)
      (himage : Describes raw image)

/-! ### One level after another -/

variable {body raw entry : Json} {jobId : Option String} {image : ImageRef} {groups : Fields}

theorem eq_some_text_iff {value : Json} {text : String} :
    value.text? = some text ↔ value = .str text := by
  cases value <;> simp [Json.text?]

theorem eq_some_fields_iff {value : Json} {fields : Fields} :
    value.fields? = some fields ↔ value = .obj fields := by
  cases value <;> simp [Json.fields?]

theorem eq_none_fields_iff {value : Json} :
    value.fields? = none ↔ ∀ fields, value ≠ .obj fields := by
  cases value <;> simp [Json.fields?]

theorem ofJson?_eq_some_iff : ofJson? raw = some image ↔ Describes raw image := by
  obtain ⟨filename, subfolder, category⟩ := image
  unfold ofJson?
  constructor
  · intro h
    cases hname : (raw.get "filename").text? with
    | none =>
        rw [hname] at h
        cases h
    | some text =>
        rw [hname] at h
        dsimp only at h
        split_ifs at h with hempty
        obtain ⟨rfl, rfl, rfl⟩ := ImageRef.mk.inj (Option.some.inj h)
        exact ⟨eq_some_text_iff.mp hname, by simpa using hempty, fun _ => eq_some_text_iff,
          fun _ => eq_some_text_iff⟩
  · rintro ⟨hname, hne, hsubfolder, hcategory⟩
    have hsub : (raw.get "subfolder").text? = subfolder :=
      Option.ext fun text => eq_some_text_iff.trans (hsubfolder text).symm
    have htype : (raw.get "type").text? = category :=
      Option.ext fun text => eq_some_text_iff.trans (hcategory text).symm
    rw [eq_some_text_iff.mpr hname, hsub, htype]
    dsimp only
    rw [if_neg (by simpa using hne)]

theorem outputGroups_eq_some_iff : outputGroups entry = some groups ↔ HoldsGroups entry groups := by
  unfold outputGroups
  simp only [List.findSome?_cons, List.findSome?_nil]
  constructor
  · intro h
    cases houtputs : (entry.get "outputs").fields? with
    | some found =>
        rw [houtputs] at h
        cases h
        exact .outputs (eq_some_fields_iff.mp houtputs)
    | none =>
        rw [houtputs] at h
        have hfirst := eq_none_fields_iff.mp houtputs
        cases houtput : (entry.get "output").fields? with
        | some found =>
            rw [houtput] at h
            cases h
            exact .output hfirst (eq_some_fields_iff.mp houtput)
        | none =>
            rw [houtput] at h
            cases hdata : (entry.get "data").fields? with
            | some found =>
                rw [hdata] at h
                cases h
                exact .data hfirst (eq_none_fields_iff.mp houtput) (eq_some_fields_iff.mp hdata)
            | none =>
                rw [hdata] at h
                cases h
  · intro h
    cases h with
    | outputs h => rw [eq_some_fields_iff.mpr h]
    | output hfirst h => rw [eq_none_fields_iff.mpr hfirst, eq_some_fields_iff.mpr h]
    | data hfirst hsecond h =>
        rw [eq_none_fields_iff.mpr hfirst, eq_none_fields_iff.mpr hsecond,
          eq_some_fields_iff.mpr h]

/-- The candidates of a body by their sources. -/
def sources (body : Json) (jobId : Option String) : List (List Json) :=
  match body with
  | .obj fields =>
      (if isOwnEntry fields jobId then [.obj fields] else []) ::
        match jobId with
        | some id => [[Fields.get fields id], [(Fields.get fields "history").get id]]
        | none => [nestedEntries fields, fields.map Prod.snd]
  | .arr items => if jobId.isNone then [items] else []
  | _ => []

theorem candidates_eq (body : Json) (jobId : Option String) :
    candidates body jobId = (sources body jobId).flatten := by
  cases body with
  | obj fields =>
      unfold candidates candidatesOfFields sources
      cases jobId <;> simp
  | arr items => cases jobId <;> simp [candidates, sources]
  | _ => rfl

theorem isOwnEntry_iff {fields : Fields} : isOwnEntry fields jobId = true ↔
    "outputs" ∈ fields.keys ∧ ∀ id, jobId = some id →
      fields.get "prompt_id" = .null ∨ (fields.get "prompt_id").display = id := by
  unfold isOwnEntry
  rw [Bool.and_eq_true, Entries.has_iff_mem_keys]
  cases jobId <;> simp

theorem mem_nestedEntries_iff {fields : Fields} {number : Nat} :
    (nestedEntries fields)[number]? = some entry ↔
      ∃ nested key, fields.get "history" = .obj nested ∧ nested[number]? = some (key, entry) := by
  unfold nestedEntries
  cases fields.get "history" <;> simp [Json.fields?]

theorem getElem?_singleton_iff {value : Json} {number : Nat} :
    [value][number]? = some entry ↔ number = 0 ∧ value = entry := by
  rw [List.getElem?_singleton]
  split_ifs with hnumber <;> simp [hnumber]

theorem candidate_iff {source number : Nat} : Candidate body jobId source number entry ↔
    ∃ members, (sources body jobId)[source]? = some members ∧ members[number]? = some entry := by
  constructor
  · intro h
    cases h with
    | own houtputs hjob => exact ⟨_, rfl, by rw [if_pos (isOwnEntry_iff.mpr ⟨houtputs, hjob⟩)]; rfl⟩
    | ofJob => exact ⟨_, rfl, rfl⟩
    | ofJobBelow => exact ⟨_, rfl, rfl⟩
    | below hhistory h => exact ⟨_, rfl, mem_nestedEntries_iff.mpr ⟨_, _, hhistory, h⟩⟩
    | value h => exact ⟨_, rfl, by rw [List.getElem?_map, h]; rfl⟩
    | item h => exact ⟨_, rfl, h⟩
  · rintro ⟨members, hmembers, hentry⟩
    cases body with
    | obj fields =>
        obtain _ | source := source
        · obtain rfl := Option.some.inj hmembers
          split_ifs at hentry with hown
          · obtain ⟨houtputs, hjob⟩ := isOwnEntry_iff.mp hown
            obtain ⟨rfl, rfl⟩ := getElem?_singleton_iff.mp hentry
            exact .own houtputs hjob
          · cases hentry
        · cases jobId with
          | some id =>
              obtain _ | _ | source := source
              · obtain rfl := Option.some.inj hmembers
                obtain ⟨rfl, rfl⟩ := getElem?_singleton_iff.mp hentry
                exact .ofJob fields id
              · obtain rfl := Option.some.inj hmembers
                obtain ⟨rfl, rfl⟩ := getElem?_singleton_iff.mp hentry
                exact .ofJobBelow fields id
              · cases hmembers
          | none =>
              obtain _ | _ | source := source
              · obtain rfl := Option.some.inj hmembers
                obtain ⟨nested, key, hhistory, hnested⟩ := mem_nestedEntries_iff.mp hentry
                exact .below hhistory hnested
              · obtain rfl := Option.some.inj hmembers
                rw [List.getElem?_map] at hentry
                obtain ⟨⟨key, _⟩, hvalue, rfl⟩ := Option.map_eq_some_iff.mp hentry
                exact .value hvalue
              · cases hmembers
    | arr items =>
        cases jobId with
        | some id => cases hmembers
        | none =>
            obtain _ | source := source
            · obtain rfl := Option.some.inj hmembers
              exact .item hentry
            · cases hmembers
    | _ => cases hmembers

/-! ### The whole search -/

/-- The groups of an entry; an entry without has none. -/
def groupsOf (entry : Json) : Fields := (outputGroups entry).getD []

theorem firstInEntry_eq (entry : Json) :
    firstInEntry entry = (groupsOf entry).findSome? fun named => firstInGroup named.2 := by
  unfold firstInEntry groupsOf
  cases outputGroups entry <;> rfl

theorem find?_eq (body : Json) (jobId : Option String) :
    find? body jobId = (sources body jobId).findSome? fun members =>
      members.findSome? firstInEntry := by
  unfold find?
  rw [candidates_eq]
  induction sources body jobId with
  | nil => rfl
  | cons members others ih =>
      rw [List.flatten_cons, List.findSome?_append, List.findSome?_cons, ih]
      cases members.findSome? firstInEntry <;> rfl

theorem mem_groupsOf_iff {number : Nat} {named : String × Json} :
    (groupsOf entry)[number]? = some named ↔
      ∃ groups, HoldsGroups entry groups ∧ groups[number]? = some named := by
  unfold groupsOf
  constructor
  · intro h
    cases hgroups : outputGroups entry with
    | none =>
        rw [hgroups] at h
        cases h
    | some groups =>
        rw [hgroups] at h
        exact ⟨groups, outputGroups_eq_some_iff.mp hgroups, h⟩
  · rintro ⟨groups, hgroups, h⟩
    rw [outputGroups_eq_some_iff.mpr hgroups]
    exact h

theorem mem_items_iff {value : Json} {number : Nat} :
    value.items[number]? = some raw ↔ ∃ items, value = .arr items ∧ items[number]? = some raw := by
  cases value <;> simp [Json.items, Json.items?]

/-- An item of the images of a group describes an image. -/
def GroupShowsAt (group : Json) : Nat × Unit → ImageRef → Prop :=
  MemberStandsAt (group.get "images").items fun raw _ => Describes raw

/-- A group of an entry shows an image. -/
def EntryShowsAt (entry : Json) : Nat × Nat × Unit → ImageRef → Prop :=
  MemberStandsAt (groupsOf entry) fun named => GroupShowsAt named.2

/-- A candidate of a source shows an image. -/
def SourceShowsAt (sources : List (List Json)) : Nat × Nat × Nat × Nat × Unit → ImageRef → Prop :=
  MemberStandsAt sources fun members => MemberStandsAt members EntryShowsAt

theorem isFirst_firstInGroup (group : Json) :
    IsFirst (Prod.Lex (· < ·) fun _ _ => False) (GroupShowsAt group) (firstInGroup group) :=
  isFirst_findSome? fun _ _ => isFirst_unit fun _ => ofJson?_eq_some_iff

theorem isFirst_firstInEntry (entry : Json) :
    IsFirst (Prod.Lex (· < ·) (Prod.Lex (· < ·) fun _ _ => False)) (EntryShowsAt entry)
      (firstInEntry entry) := by
  rw [firstInEntry_eq]
  exact isFirst_findSome? fun named _ => isFirst_firstInGroup named.2

theorem showsAt_iff {place : Place} : ShowsAt body jobId place image ↔
    SourceShowsAt (sources body jobId)
      (place.source, place.candidate, place.group, place.item, ()) image := by
  constructor
  · rintro ⟨entry, groups, name, group, images, raw, hentry, hgroups, hgroup, himages, hraw, himage⟩
    obtain ⟨members, hmembers, hentry⟩ := candidate_iff.mp hentry
    exact ⟨members, hmembers, entry, hentry, (name, group),
      mem_groupsOf_iff.mpr ⟨groups, hgroups, hgroup⟩, raw,
      mem_items_iff.mpr ⟨images, himages, hraw⟩, himage⟩
  · rintro ⟨members, hmembers, entry, hentry, ⟨name, group⟩, hgroup, raw, hraw, himage⟩
    obtain ⟨groups, hgroups, hgroup⟩ := mem_groupsOf_iff.mp hgroup
    obtain ⟨images, himages, hraw⟩ := mem_items_iff.mp hraw
    exact ⟨entry, groups, name, group, images, raw,
      candidate_iff.mpr ⟨members, hmembers, hentry⟩, hgroups, hgroup, himages, hraw, himage⟩

/-- One image stands at a place. -/
theorem ShowsAt.unique {place : Place} {other : ImageRef} (h : ShowsAt body jobId place image)
    (h' : ShowsAt body jobId place other) : image = other := by
  have hitem : ∀ raw (_ : Unit) image other, Describes raw image → Describes raw other →
      image = other := by
    intro raw _ image other h h'
    rw [← ofJson?_eq_some_iff] at h h'
    exact Option.some.inj (h.symm.trans h')
  rw [showsAt_iff] at h h'
  exact memberStandsAt_unique (fun _ => memberStandsAt_unique fun _ => memberStandsAt_unique
    fun _ => memberStandsAt_unique hitem) _ _ _ h h'

/-- What is found stands at the first place at which the body shows an image of the job. -/
theorem isFirst_find? (body : Json) (jobId : Option String) :
    IsFirst Place.Before (ShowsAt body jobId) (find? body jobId) := by
  rw [find?_eq]
  have hnested : IsFirst _ (SourceShowsAt (sources body jobId))
      ((sources body jobId).findSome? fun members => members.findSome? firstInEntry) :=
    isFirst_findSome? fun _ _ => isFirst_findSome? fun entry _ => isFirst_firstInEntry entry
  refine hnested.rename
    (fun place : Place => (place.source, place.candidate, place.group, place.item, ())) ?_ ?_
    fun place image => showsAt_iff
  · rintro ⟨source, candidate, group, item, ⟨⟩⟩
    exact ⟨⟨source, candidate, group, item⟩, rfl⟩
  · intro first second hbefore
    unfold Place.Before at hbefore
    simpa only [Prod.lex_def, and_false, or_false] using hbefore

/-- **The first image is found.**  Nothing is found exactly if the body shows no image of the job,
and otherwise what is found stands at the first place at which it shows one: sources, candidates,
groups and items are looked at in their order. -/
theorem find?_first (body : Json) (jobId : Option String) :
    (find? body jobId = none ↔ ∀ place image, ¬ ShowsAt body jobId place image) ∧
      ∀ image, find? body jobId = some image ↔
        ∃ place, ShowsAt body jobId place image ∧
          ∀ earlier, earlier.Before place → ∀ other, ¬ ShowsAt body jobId earlier other := by
  have hfirst := isFirst_find? body jobId
  cases hfound : find? body jobId with
  | none =>
      rw [hfound] at hfirst
      refine ⟨iff_of_true rfl hfirst, fun image => iff_of_false nofun ?_⟩
      rintro ⟨place, hshows, -⟩
      exact hfirst place image hshows
  | some found =>
      rw [hfound] at hfirst
      obtain ⟨place, hshows, hearlier⟩ := hfirst
      refine ⟨iff_of_false nofun fun h => h place found hshows, fun image => ?_⟩
      constructor
      · intro heq
        cases heq
        exact ⟨place, hshows, hearlier⟩
      · rintro ⟨place', hshows', hearlier'⟩
        obtain hbefore | rfl | hbefore := place.before_trichotomy place'
        · exact absurd hshows (hearlier' place hbefore found)
        · rw [hshows.unique hshows']
        · exact absurd hshows' (hearlier place' hbefore image)

end ImageRef

end RenderRelay
