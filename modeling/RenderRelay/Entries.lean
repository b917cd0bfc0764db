/-! # Ordered maps with text keys

A map is the list of its entries in the order in which their keys were first written.

* `put` replaces the value of a key where it stands and appends a new key.
* `putNew` writes only if the key is not there: the first writer wins.
* `keys_put` says that writing to a key that is there changes no order. -/

namespace RenderRelay

/-- The entries of a map, in order. -/
abbrev Entries (α : Type) := List (String × α)

namespace Entries

variable {α : Type}

/-- The value of the first entry with this key. -/
def get? (entries : Entries α) (key : String) : Option α := entries.lookup key

/-- Is there an entry with this key? -/
def has (entries : Entries α) (key : String) : Bool := (entries.lookup key).isSome

/-- Replaces the value of a key where it stands, or appends the entry. -/
def put : Entries α → String → α → Entries α
  | [], key, value => [(key, value)]
  | (k, v) :: rest, key, value =>
      if k = key then (k, value) :: rest else (k, v) :: put rest key value

/-- Appends an entry unless its key is there. -/
def putNew (entries : Entries α) (key : String) (value : α) : Entries α :=
  if entries.has key then entries else entries ++ [(key, value)]

/-- The keys, in order. -/
def keys (entries : Entries α) : List String := entries.map Prod.fst

/-- All entries of `more` put into `entries`. -/
def merge (entries more : Entries α) : Entries α :=
  more.foldl (fun acc entry => acc.put entry.1 entry.2) entries

/-- The entries without those of a key. -/
def remove (entries : Entries α) (key : String) : Entries α :=
  entries.filter fun entry => entry.1 ≠ key

@[simp] theorem lookup_put_self (entries : Entries α) (key : String) (value : α) :
    (entries.put key value).lookup key = some value := by
  induction entries with
  | nil => simp [put]
  | cons entry rest ih =>
      obtain ⟨k, v⟩ := entry
      by_cases h : k = key
      · simp [put, h]
      · have h' : (key == k) = false := by simpa using fun e : key = k => h e.symm
        simp [put, h, List.lookup_cons, h', ih]

theorem lookup_put_of_ne (entries : Entries α) {key other : String} (value : α)
    (h : other ≠ key) : (entries.put key value).lookup other = entries.lookup other := by
  induction entries with
  | nil =>
      have h' : (other == key) = false := by simpa using h
      simp [put, List.lookup_cons, h']
  | cons entry rest ih =>
      obtain ⟨k, v⟩ := entry
      by_cases hk : k = key
      · subst hk
        have h' : (other == k) = false := by simpa using h
        simp [put, List.lookup_cons, h']
      · simp only [put, hk, if_false]
        by_cases ho : (other == k) = true
        · simp [List.lookup_cons, ho]
        · simp only [Bool.not_eq_true] at ho
          simp [List.lookup_cons, ho, ih]

theorem keys_put (entries : Entries α) (key : String) (value : α) :
    (entries.put key value).keys =
      if key ∈ entries.keys then entries.keys else entries.keys ++ [key] := by
  induction entries with
  | nil => simp [put, keys]
  | cons entry rest ih =>
      obtain ⟨k, v⟩ := entry
      by_cases h : k = key
      · simp [put, keys, h]
      · have h' : ¬ key = k := fun e => h e.symm
        simp only [put, h, if_false]
        simp only [keys, List.map_cons, List.mem_cons, h', false_or] at ih ⊢
        rw [ih]
        by_cases hm : key ∈ List.map Prod.fst rest <;> simp [hm]

end Entries

end RenderRelay
