/-
Values through JSON and back.

JSON has no safe text, no attribute sets and no number that is infinite or undefined. `Value.stored` says what becomes
of a value that holds some: safe text is text, an attribute set is the map of its items, and such a number is `none`.
A value without them (`Value.isJson`) stays as it is.

- `Value.isJson_stored`, `Value.stored_of_isJson`: what is left of a value, and when that is the value itself.
- `Value.ofJson_toJson`: a value through JSON and back is what is left of it.
- `Value.json_round_trip`: so JSON loses only what it cannot hold.
-/
import Mathlib.Data.List.Induction
import Templating.Value

namespace Templating

/-! ## Dictionaries with other values -/

namespace Dict

variable {α β γ : Type} (f : α → β)

theorem map_insertEntry (key : String) (value : α) (entries : List (String × α)) :
    (insertEntry key value entries).map (Prod.map id f) = insertEntry key (f value) (entries.map (Prod.map id f)) := by
  induction entries with
  | nil => rfl
  | cons entry rest ih =>
    obtain ⟨k, v⟩ := entry
    unfold insertEntry
    by_cases hkey : key = k
    · simp [hkey]
    · by_cases hlt : key < k <;> simp [hkey, hlt, ih]

theorem mapValues_insert (d : Dict α) (key : String) (value : α) :
    (d.insert key value).mapValues f = (d.mapValues f).insert key (f value) :=
  congrArg Dict.mk (map_insertEntry f key value d.entries)

/-- **Other values for the entries of a list** are other values for its dictionary. -/
theorem ofList_map (entries : List (String × α)) :
    ofList (entries.map fun (key, value) => (key, f value)) = (ofList entries).mapValues f := by
  induction entries using List.reverseRecOn with
  | nil => rfl
  | append_singleton entries entry ih =>
    obtain ⟨key, value⟩ := entry
    simp only [ofList, List.map_append, List.map_cons, List.map_nil, List.foldl_append, List.foldl_cons,
      List.foldl_nil] at ih ⊢
    rw [ih, mapValues_insert]

theorem mapValues_mapValues (g : β → γ) (d : Dict α) :
    (d.mapValues f).mapValues g = d.mapValues fun value => g (f value) := by
  simp [mapValues]

end Dict

namespace Value

/-! ## What JSON holds -/

mutual

/-- what is left of the value in JSON -/
def stored : Value → Value
  | null => null
  | bool b => bool b
  | int i => int i
  | float f => if Decimal.isFinite f then float f else null
  | str s | safe s => str s
  | list items => list (storedAll items)
  | map ⟨entries⟩ => map ⟨storedEntries entries⟩
  | attrs a => map ((Dict.ofList a.items).mapValues str)

/-- what is left of the items of a list -/
def storedAll : List Value → List Value
  | [] => []
  | item :: rest => item.stored :: storedAll rest

/-- what is left of the entries of a map -/
def storedEntries : List (String × Value) → List (String × Value)
  | [] => []
  | (key, value) :: rest => (key, value.stored) :: storedEntries rest

end

mutual

/-- the value is made of `none`, booleans, integers, finite numbers, strings, lists and maps -/
def isJson : Value → Bool
  | null | bool _ | int _ | str _ => true
  | float f => Decimal.isFinite f
  | list items => isJsonAll items
  | map ⟨entries⟩ => isJsonEntries entries
  | safe _ | attrs _ => false

/-- all items of a list are so -/
def isJsonAll : List Value → Bool
  | [] => true
  | item :: rest => item.isJson && isJsonAll rest

/-- all entries of a map are so -/
def isJsonEntries : List (String × Value) → Bool
  | [] => true
  | (_, value) :: rest => value.isJson && isJsonEntries rest

end

theorem isJsonEntries_str (entries : List (String × String)) :
    isJsonEntries (entries.map fun (key, value) => (key, str value)) = true := by
  induction entries with
  | nil => rfl
  | cons entry rest ih => exact ih

mutual

/-- **Only such values are left.** -/
theorem isJson_stored (v : Value) : v.stored.isJson = true := by
  match v with
  | null | bool _ | int _ | str _ | safe _ => rfl
  | float f =>
    unfold stored
    by_cases hfinite : Decimal.isFinite f = true
    · rw [if_pos hfinite]
      exact hfinite
    · rw [if_neg hfinite]
      rfl
  | list items => exact isJsonAll_stored items
  | map ⟨entries⟩ => exact isJsonEntries_stored entries
  | attrs a => exact isJsonEntries_str _

theorem isJsonAll_stored (items : List Value) : isJsonAll (storedAll items) = true := by
  match items with
  | [] => rfl
  | item :: rest => exact Bool.and_eq_true_iff.2 ⟨isJson_stored item, isJsonAll_stored rest⟩

theorem isJsonEntries_stored (entries : List (String × Value)) : isJsonEntries (storedEntries entries) = true := by
  match entries with
  | [] => rfl
  | (_, value) :: rest => exact Bool.and_eq_true_iff.2 ⟨isJson_stored value, isJsonEntries_stored rest⟩

end

mutual

/-- **Nothing else is changed.** -/
theorem stored_of_isJson (v : Value) (h : v.isJson = true) : v.stored = v := by
  match v with
  | null | bool _ | int _ | str _ => rfl
  | float f => exact if_pos h
  | list items => exact congrArg list (storedAll_of_isJson items h)
  | map ⟨entries⟩ => exact congrArg (fun entries => map ⟨entries⟩) (storedEntries_of_isJson entries h)
  | safe _ | attrs _ => cases h

theorem storedAll_of_isJson (items : List Value) (h : isJsonAll items = true) : storedAll items = items := by
  match items with
  | [] => rfl
  | item :: rest =>
    obtain ⟨hitem, hrest⟩ := Bool.and_eq_true_iff.1 h
    rw [storedAll, stored_of_isJson item hitem, storedAll_of_isJson rest hrest]

theorem storedEntries_of_isJson (entries : List (String × Value)) (h : isJsonEntries entries = true) :
    storedEntries entries = entries := by
  match entries with
  | [] => rfl
  | (key, value) :: rest =>
    obtain ⟨hvalue, hrest⟩ := Bool.and_eq_true_iff.1 h
    rw [storedEntries, stored_of_isJson value hvalue, storedEntries_of_isJson rest hrest]

end

theorem stored_eq_iff (v : Value) : v.stored = v ↔ v.isJson = true :=
  ⟨fun h => h ▸ isJson_stored v, stored_of_isJson v⟩

theorem stored_stored (v : Value) : v.stored.stored = v.stored :=
  stored_of_isJson _ (isJson_stored v)

/-! ## To JSON and back -/

theorem ofJson_object (members : Dict Json) : ofJson (.object members) = map (members.mapValues ofJson) := by
  obtain ⟨members⟩ := members
  have hmembers : ofJsonMembers members = members.map fun (name, member) => (name, ofJson member) := by
    induction members with
    | nil => rfl
    | cons member rest ih => rw [ofJsonMembers, ih, List.map_cons]
  exact congrArg (fun entries => map ⟨entries⟩) hmembers

/-- an integer of sixty-four bits stays an integer -/
theorem ofJson_int (i : Int64) : ofJson (.int i.toInt) = int i := by
  have hrange : minInt ≤ i.toInt ∧ i.toInt ≤ maxInt := ⟨i.minValue_le_toInt, i.toInt_le⟩
  rw [ofJson, if_pos hrange, Int64.ofInt_toInt]

theorem ofJson_toJson_attrs (a : Attributes) : ofJson (attrs a).toJson = (attrs a).stored := by
  rw [toJson, ofJson_object, Dict.ofList_map, Dict.mapValues_mapValues]
  rfl

mutual

/-- **To JSON and back,** what is left of the value. -/
theorem ofJson_toJson (v : Value) : ofJson v.toJson = v.stored := by
  match v with
  | null | bool _ | str _ | safe _ => rfl
  | int i => exact ofJson_int i
  | float f =>
    unfold toJson stored
    by_cases hfinite : Decimal.isFinite f = true
    · rw [if_pos hfinite, if_pos hfinite, ofJson]
    · rw [if_neg hfinite, if_neg hfinite, ofJson]
  | list items => exact congrArg list (ofJsonAll_toJson items)
  | map ⟨entries⟩ => exact congrArg (fun entries => map ⟨entries⟩) (ofJsonMembers_toJson entries)
  | attrs a => exact ofJson_toJson_attrs a

theorem ofJsonAll_toJson (items : List Value) : ofJsonAll (toJsonAll items) = storedAll items := by
  match items with
  | [] => rfl
  | item :: rest => rw [toJsonAll, ofJsonAll, ofJson_toJson item, ofJsonAll_toJson rest, storedAll]

theorem ofJsonMembers_toJson (entries : List (String × Value)) :
    ofJsonMembers (toJsonEntries entries) = storedEntries entries := by
  match entries with
  | [] => rfl
  | (key, value) :: rest =>
    rw [toJsonEntries, ofJsonMembers, ofJson_toJson value, ofJsonMembers_toJson rest, storedEntries]

end

/-- **JSON loses only what it cannot hold.** Through JSON and back a value is what is left of it, which is the value
itself exactly when it is made of what JSON knows; a second way through JSON changes nothing. -/
theorem json_round_trip (v : Value) :
    ofJson v.toJson = v.stored ∧ (ofJson v.toJson = v ↔ v.isJson = true) ∧ (ofJson v.toJson).isJson = true ∧
      ofJson (ofJson v.toJson).toJson = ofJson v.toJson := by
  rw [ofJson_toJson, ofJson_toJson]
  exact ⟨rfl, stored_eq_iff v, isJson_stored v, stored_stored v⟩

end Value

end Templating
