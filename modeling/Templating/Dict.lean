/-
Dictionaries with text keys, listed in the order of the keys.

A dictionary is a list of entries. `insert` keeps the entries sorted by key, so that two dictionaries built from the
same entries in different orders are equal and are listed alike. `get?_insert` is the law of look-up.
-/

namespace Templating

/-- entries sorted by key -/
structure Dict (α : Type) where
  entries : List (String × α)
  deriving Repr

namespace Dict

variable {α β : Type}

/-- the dictionary without entries -/
def empty : Dict α := ⟨[]⟩

instance : Inhabited (Dict α) := ⟨empty⟩

instance : EmptyCollection (Dict α) := ⟨empty⟩

/-- the value of the first entry with a key -/
def lookup (key : String) : List (String × α) → Option α
  | [] => none
  | (k, v) :: rest => if key = k then some v else lookup key rest

/-- the value under a key -/
def get? (d : Dict α) (key : String) : Option α :=
  lookup key d.entries

/-- the key has a value -/
def contains (d : Dict α) (key : String) : Bool :=
  (d.get? key).isSome

/-- a sorted list of entries with the value under the key replaced or added in its place -/
def insertEntry (key : String) (value : α) : List (String × α) → List (String × α)
  | [] => [(key, value)]
  | (k, v) :: rest =>
    if key = k then (key, value) :: rest
    else if key < k then (key, value) :: (k, v) :: rest
    else (k, v) :: insertEntry key value rest

/-- the dictionary with the value under the key replaced or added -/
def insert (d : Dict α) (key : String) (value : α) : Dict α :=
  ⟨insertEntry key value d.entries⟩

/-- the dictionary with the value under the key added when there is none -/
def insertNew (d : Dict α) (key : String) (value : α) : Dict α :=
  if d.contains key then d else d.insert key value

/-- the dictionary without the key -/
def erase (d : Dict α) (key : String) : Dict α :=
  ⟨d.entries.filter (·.1 ≠ key)⟩

/-- the dictionary of a list of entries; of several values under one key the last stays -/
def ofList (entries : List (String × α)) : Dict α :=
  entries.foldl (fun d (key, value) => d.insert key value) empty

/-- the entries of `other` written over those of the dictionary -/
def insertAll (d other : Dict α) : Dict α :=
  other.entries.foldl (fun d (key, value) => d.insert key value) d

/-- the entries of `other` added where the dictionary has none -/
def insertNewAll (d other : Dict α) : Dict α :=
  other.entries.foldl (fun d (key, value) => d.insertNew key value) d

/-- the keys in order -/
def keys (d : Dict α) : List String :=
  d.entries.map (·.1)

/-- number of entries -/
def size (d : Dict α) : Nat :=
  d.entries.length

/-- there are no entries -/
def isEmpty (d : Dict α) : Bool :=
  d.entries.isEmpty

/-- the same keys with other values -/
def mapValues (f : α → β) (d : Dict α) : Dict β :=
  ⟨d.entries.map fun (key, value) => (key, f value)⟩

@[simp] theorem get?_empty (key : String) : (empty : Dict α).get? key = none := rfl

theorem lookup_insertEntry (entries : List (String × α)) (key other : String) (value : α) :
    lookup other (insertEntry key value entries) = if other = key then some value else lookup other entries := by
  induction entries with
  | nil => rfl
  | cons entry rest ih =>
    obtain ⟨k, v⟩ := entry
    unfold insertEntry
    by_cases hk : key = k
    · subst hk
      by_cases h : other = key <;> simp [lookup, h]
    · by_cases hlt : key < k
      · simp [hk, hlt, lookup]
      · simp only [if_neg hk, if_neg hlt, lookup]
        by_cases h : other = k
        · subst h
          simp [Ne.symm hk]
        · simp [h, ih]

/-- A written key gives the written value, every other key what it gave before. -/
theorem get?_insert (d : Dict α) (key other : String) (value : α) :
    (d.insert key value).get? other = if other = key then some value else d.get? other :=
  lookup_insertEntry d.entries key other value

theorem mem_keys {d : Dict α} {key : String} : key ∈ d.keys ↔ d.contains key = true := by
  obtain ⟨entries⟩ := d
  simp only [keys, contains, get?]
  induction entries with
  | nil => simp [lookup]
  | cons entry rest ih =>
    obtain ⟨k, v⟩ := entry
    by_cases h : key = k
    · simp [lookup, h]
    · simp [lookup, h, ih]

end Dict

end Templating
