/-
Dictionaries as functions of their keys.

A dictionary that operations have built lists its keys in order (`Dict.Sorted`). Such a dictionary is known when its
values are: `Sorted.ext`. What a list of entries leaves behind is, under each key, its last value; an attribute set
lists its keys by their first appearance.

- `Dict.get?_insertEach`: entries written one after the other over a dictionary.
- `Attributes.order_ofList`, `Attributes.get?_ofList`: the set of a list of pairs.
-/
import Mathlib.Data.List.Induction
import Mathlib.Data.List.Sort
import Mathlib.Data.String.Basic
import Templating.Attributes

namespace Templating

namespace Dict

variable {α : Type}

/-- the keys are listed in order, each once -/
def Sorted (d : Dict α) : Prop :=
  d.entries.Pairwise fun a b => a.1 < b.1

/-- the value of the last entry with a key -/
def last (key : String) (entries : List (String × α)) : Option α :=
  lookup key entries.reverse

theorem sorted_empty : (empty : Dict α).Sorted := List.Pairwise.nil

theorem mem_insertEntry {key : String} {value : α} {entries : List (String × α)} {entry : String × α}
    (h : entry ∈ insertEntry key value entries) : entry = (key, value) ∨ entry ∈ entries := by
  induction entries with
  | nil => exact Or.inl (List.mem_singleton.1 h)
  | cons head rest ih =>
    obtain ⟨k, v⟩ := head
    unfold insertEntry at h
    split_ifs at h
    · rcases List.mem_cons.1 h with rfl | h
      · exact Or.inl rfl
      · exact Or.inr (List.mem_cons_of_mem _ h)
    · rcases List.mem_cons.1 h with rfl | h
      · exact Or.inl rfl
      · exact Or.inr h
    · rcases List.mem_cons.1 h with rfl | h
      · exact Or.inr List.mem_cons_self
      · exact (ih h).imp_right (List.mem_cons_of_mem _)

theorem pairwise_insertEntry (key : String) (value : α) {entries : List (String × α)}
    (h : entries.Pairwise fun a b => a.1 < b.1) : (insertEntry key value entries).Pairwise fun a b => a.1 < b.1 := by
  induction entries with
  | nil => exact List.pairwise_singleton _ _
  | cons head rest ih =>
    obtain ⟨k, v⟩ := head
    obtain ⟨hhead, hrest⟩ := List.pairwise_cons.1 h
    unfold insertEntry
    split_ifs with hkey hlt
    · subst hkey
      exact List.pairwise_cons.2 ⟨hhead, hrest⟩
    · refine List.pairwise_cons.2 ⟨fun entry hentry => ?_, h⟩
      rcases List.mem_cons.1 hentry with rfl | hentry
      · exact hlt
      · exact String.lt_trans hlt (hhead entry hentry)
    · refine List.pairwise_cons.2 ⟨fun entry hentry => ?_, ih hrest⟩
      rcases mem_insertEntry hentry with rfl | hentry
      · exact lt_of_le_of_ne (not_lt.1 hlt) (Ne.symm hkey)
      · exact hhead entry hentry

theorem Sorted.insert {d : Dict α} (h : d.Sorted) (key : String) (value : α) : (d.insert key value).Sorted :=
  pairwise_insertEntry key value h

theorem mem_of_lookup {key : String} {value : α} {entries : List (String × α)} (h : lookup key entries = some value) :
    (key, value) ∈ entries := by
  induction entries with
  | nil => cases h
  | cons head rest ih =>
    obtain ⟨k, v⟩ := head
    unfold lookup at h
    split_ifs at h with hkey
    · cases h
      subst hkey
      exact List.mem_cons_self
    · exact List.mem_cons_of_mem _ (ih h)

theorem Sorted.mem_entries {d : Dict α} (h : d.Sorted) (entry : String × α) :
    entry ∈ d.entries ↔ d.get? entry.1 = some entry.2 := by
  refine ⟨fun hmem => ?_, mem_of_lookup⟩
  obtain ⟨entries⟩ := d
  simp only [Sorted] at h
  simp only [get?]
  induction entries with
  | nil => cases hmem
  | cons head rest ih =>
    obtain ⟨hhead, hrest⟩ := List.pairwise_cons.1 h
    rcases List.mem_cons.1 hmem with rfl | hmem
    · simp [lookup]
    · have hne : entry.1 ≠ head.1 := ne_of_gt (hhead entry hmem)
      rw [lookup, if_neg hne]
      exact ih hrest hmem

/-- **Sorted dictionaries with the same values** are the same. -/
theorem Sorted.ext {d d' : Dict α} (h : d.Sorted) (h' : d'.Sorted) (hget : ∀ key, d.get? key = d'.get? key) :
    d = d' := by
  have hmem : ∀ entry, entry ∈ d.entries ↔ entry ∈ d'.entries := fun entry => by
    rw [h.mem_entries, h'.mem_entries, hget]
  have : Std.Irrefl fun a b : String × α => a.1 < b.1 := ⟨fun a => lt_irrefl a.1⟩
  have : Std.Antisymm fun a b : String × α => a.1 < b.1 := ⟨fun a b hab hba => absurd hba (lt_asymm hab)⟩
  have hentries : d.entries = d'.entries := List.Pairwise.eq_of_mem_iff h h' hmem
  cases d
  cases d'
  simpa using hentries

theorem lookup_append (key : String) (front rest : List (String × α)) :
    lookup key (front ++ rest) = (lookup key front).or (lookup key rest) := by
  induction front with
  | nil => rfl
  | cons head front ih =>
    obtain ⟨k, v⟩ := head
    by_cases hkey : key = k <;> simp [lookup, hkey, ih]

@[simp] theorem last_nil (key : String) : last key ([] : List (String × α)) = none := rfl

theorem last_append (key : String) (front rest : List (String × α)) :
    last key (front ++ rest) = (last key rest).or (last key front) := by
  rw [last, List.reverse_append, lookup_append, last, last]

theorem last_cons (key : String) (entry : String × α) (rest : List (String × α)) :
    last key (entry :: rest) = (last key rest).or (if key = entry.1 then some entry.2 else none) := by
  have h := last_append key [entry] rest
  simpa [last, lookup] using h

theorem last_map {β : Type} (f : α → β) (key : String) (entries : List (String × α)) :
    last key (entries.map fun (k, v) => (k, f v)) = (last key entries).map f := by
  induction entries with
  | nil => rfl
  | cons entry rest ih =>
    rw [List.map_cons, last_cons, last_cons, ih]
    by_cases hkey : key = entry.1 <;> cases last key rest <;> simp [hkey]

/-- the last entry with a key among those whose keys are kept -/
theorem last_filter (keep : String → Bool) (key : String) (entries : List (String × α)) :
    last key (entries.filter fun entry => keep entry.1) = if keep key then last key entries else none := by
  induction entries with
  | nil => simp
  | cons entry rest ih =>
    rw [List.filter_cons, last_cons]
    by_cases hkey : key = entry.1
    · subst hkey
      cases hkeep : keep entry.1 <;> simp [last_cons, ih, hkeep]
    · cases keep entry.1 <;> simp [last_cons, ih, hkey]

theorem isSome_last {key : String} {entries : List (String × α)} :
    (last key entries).isSome ↔ key ∈ entries.map (·.1) := by
  induction entries with
  | nil => simp
  | cons entry rest ih =>
    rw [last_cons, List.map_cons, List.mem_cons, ← ih]
    by_cases hkey : key = entry.1 <;> cases last key rest <;> simp [hkey]

/-- what is written last under a key has nothing behind it with that key -/
theorem last_eq_some {key : String} {value : α} {entries : List (String × α)} :
    last key entries = some value ↔
      ∃ front behind, entries = front ++ (key, value) :: behind ∧ key ∉ behind.map (·.1) := by
  constructor
  · intro h
    induction entries with
    | nil => cases h
    | cons entry rest ih =>
      rw [last_cons] at h
      cases hrest : last key rest with
      | some v =>
        rw [hrest, Option.some_or] at h
        obtain ⟨front, behind, rfl, hbehind⟩ := ih (hrest.trans h)
        exact ⟨entry :: front, behind, rfl, hbehind⟩
      | none =>
        rw [hrest, Option.none_or, Option.ite_none_right_eq_some] at h
        obtain ⟨rfl, hvalue⟩ := h
        cases hvalue
        exact ⟨[], rest, rfl, by rw [← isSome_last, hrest]; exact Bool.false_ne_true⟩
  · rintro ⟨front, behind, rfl, hbehind⟩
    have hnone : last key behind = none := by rwa [← isSome_last, Option.not_isSome_iff_eq_none] at hbehind
    rw [last_append, last_cons, hnone]
    simp

/-- the same for the entries that a list gives -/
theorem last_map_eq_some {β : Type} {key : String} {value : α} {name : β → String} {f : β → α} {l : List β} :
    last key (l.map fun b => (name b, f b)) = some value ↔
      ∃ front b behind, l = front ++ b :: behind ∧ name b = key ∧ f b = value ∧ ∀ other ∈ behind, name other ≠ key := by
  rw [last_eq_some]
  constructor
  · rintro ⟨front, behind, hentries, hbehind⟩
    obtain ⟨front, rest, rfl, -, hrest⟩ := List.map_eq_append_iff.1 hentries
    obtain ⟨b, behind, rfl, hb, rfl⟩ := List.map_eq_cons_iff.1 hrest
    obtain ⟨hname, hvalue⟩ := Prod.mk.inj hb
    exact ⟨front, b, behind, rfl, hname, hvalue, by simpa using hbehind⟩
  · rintro ⟨front, b, behind, rfl, rfl, rfl, hbehind⟩
    exact ⟨_, _, List.map_append.trans (congrArg _ List.map_cons), by simpa using hbehind⟩

/-- **Entries written one after the other**: under each key stands the last of them, or what was there before. -/
theorem get?_insertEach (d : Dict α) (entries : List (String × α)) (key : String) :
    (entries.foldl (fun d (key, value) => d.insert key value) d).get? key = (last key entries).or (d.get? key) := by
  induction entries generalizing d with
  | nil => rfl
  | cons entry rest ih =>
    rw [List.foldl_cons, ih, get?_insert, last_cons, Option.or_assoc]
    by_cases hkey : key = entry.1 <;> simp [hkey]

theorem Sorted.insertEach {d : Dict α} (h : d.Sorted) (entries : List (String × α)) :
    (entries.foldl (fun d (key, value) => d.insert key value) d).Sorted := by
  induction entries generalizing d with
  | nil => exact h
  | cons entry rest ih => exact ih (h.insert entry.1 entry.2)

theorem get?_ofList (entries : List (String × α)) (key : String) : (ofList entries).get? key = last key entries := by
  rw [ofList, get?_insertEach, get?_empty, Option.or_none]

theorem sorted_ofList (entries : List (String × α)) : (ofList entries).Sorted :=
  sorted_empty.insertEach entries

end Dict

namespace Attributes

theorem ofList_concat (pairs : List (String × String)) (pair : String × String) :
    ofList (pairs ++ [pair]) = (ofList pairs).put pair.1 pair.2 := by
  rw [ofList, List.foldl_append]
  rfl

/-- the values of the set of a list of pairs are those of a dictionary -/
theorem values_ofList (pairs : List (String × String)) : (ofList pairs).values = .ofList pairs := by
  induction pairs using List.reverseRecOn with
  | nil => rfl
  | append_singleton pairs pair ih =>
    rw [ofList_concat, put, ih, Dict.ofList, Dict.ofList, List.foldl_append]
    rfl

theorem get?_ofList (pairs : List (String × String)) (key : String) :
    (ofList pairs).values.get? key = Dict.last key pairs := by
  rw [values_ofList, Dict.get?_ofList]

/-- **The keys of an attribute set** stand in the order of their first appearance. -/
theorem order_ofList (pairs : List (String × String)) : (ofList pairs).order = (pairs.map (·.1)).eraseDups := by
  induction pairs using List.reverseRecOn with
  | nil => rfl
  | append_singleton pairs pair ih =>
    have hhas : (ofList pairs).has pair.1 = true ↔ pair.1 ∈ pairs.map (·.1) := by
      rw [has, Dict.contains, get?_ofList, Dict.isSome_last]
    rw [ofList_concat, put, ih, List.map_append, List.eraseDups_append]
    by_cases hmem : pair.1 ∈ pairs.map (·.1)
    · simp [hhas.2 hmem, List.removeAll, hmem]
    · have hno : (ofList pairs).has pair.1 = false := Bool.eq_false_iff.2 (mt hhas.1 hmem)
      simp [hno, List.removeAll, hmem, List.eraseDups_cons]

/-- a set is known by the order of its keys and by their values -/
theorem eq_ofList {a : Attributes} {pairs : List (String × String)} (horder : a.order = (pairs.map (·.1)).eraseDups)
    (hvalues : ∀ key, a.values.get? key = Dict.last key pairs) (hsorted : a.values.Sorted) : a = ofList pairs := by
  have hdict : a.values = (ofList pairs).values := by
    rw [values_ofList]
    exact hsorted.ext (Dict.sorted_ofList pairs) fun key => by rw [hvalues, Dict.get?_ofList]
  rw [← order_ofList] at horder
  calc a = ⟨a.order, a.values⟩ := rfl
    _ = ⟨(ofList pairs).order, (ofList pairs).values⟩ := by rw [horder, hdict]

end Attributes

end Templating
