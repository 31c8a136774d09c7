/-
Attribute sets as ordered maps.

A set keeps its keys apart from their values, so every operation has two things to keep in step: `Consistent` says that
they are. A set that new sets, selections and defaults have led to lists each of its keys once, and its items are those
of an association list that goes through the same changes, where a known key is updated in place and a new one goes to
the end.

- `Consistent.put`, `Consistent.filterKeys`, `Consistent.withDefault`: every operation keeps the two in step.
- `Consistent.items_put`, `Consistent.items_filterKeys`, `Consistent.items_withDefault`: what each does to the items.
- `Change.apply_items`, `after_items`: so it is for one change, and for any sequence of them.
- `ordered_map`: and a selection and its complement split the items.
-/
import Templating.Proofs.DictLaws

namespace Templating

namespace Dict

variable {α : Type}

theorem Sorted.nodup_keys {d : Dict α} (h : d.Sorted) : d.keys.Nodup :=
  (List.pairwise_map.2 h).imp ne_of_lt

theorem lookup_keyed (f : String → α) (keys : List String) (key : String) :
    lookup key (keys.map fun k => (k, f k)) = if key ∈ keys then some (f key) else none := by
  induction keys with
  | nil => rfl
  | cons k rest ih => by_cases h : key = k <;> simp [lookup, h, ih]

theorem last_keyed (f : String → α) (keys : List String) (key : String) :
    last key (keys.map fun k => (k, f k)) = if key ∈ keys then some (f key) else none := by
  rw [last, ← List.map_reverse, lookup_keyed]
  simp only [List.mem_reverse]

end Dict

namespace Attributes

/-! ## Changes of a set, and of an association list -/

/-- what can be done with an attribute set -/
inductive Change where
  | new (pairs : List (String × String))
  | only (keys : List String)
  | without (keys : List String)
  | default (key value : String)
  deriving Repr

/-- the set behind a change -/
def Change.apply (a : Attributes) : Change → Attributes
  | new pairs => ofList pairs
  | only keys => a.only keys
  | without keys => a.without keys
  | default key value => a.withDefault key value

/-- the set behind changes, one after the other -/
def after (a : Attributes) (changes : List Change) : Attributes :=
  changes.foldl Change.apply a

/-- the list with one more pair: a known key keeps its place and takes the new value, another goes to the end -/
def putItem (key value : String) : List (String × String) → List (String × String)
  | [] => [(key, value)]
  | (k, v) :: rest => if k = key then (key, value) :: rest else (k, v) :: putItem key value rest

/-- the list that pairs are put into one after the other -/
def itemsOf (pairs : List (String × String)) : List (String × String) :=
  pairs.foldl (fun items (key, value) => putItem key value items) []

/-- the list behind a change -/
def Change.applyItems (items : List (String × String)) : Change → List (String × String)
  | new pairs => itemsOf pairs
  | only keys => items.filter fun (key, _) => keys.contains key
  | without keys => items.filter fun (key, _) => !keys.contains key
  | default key value =>
    match Dict.lookup key items with
    | none => items ++ [(key, value)]
    | some existing => if key = classKey then putItem key (value ++ " " ++ existing) items else items

/-- the list behind changes, one after the other -/
def itemsAfter (items : List (String × String)) (changes : List Change) : List (String × String) :=
  changes.foldl Change.applyItems items

theorem putItem_keyed {order : List String} (hnodup : order.Nodup) (f : String → String) (key value : String) :
    putItem key value (order.map fun k => (k, f k)) =
      (if key ∈ order then order else order ++ [key]).map fun k => (k, if k = key then value else f k) := by
  induction order with
  | nil => simp [putItem]
  | cons k order ih =>
    obtain ⟨hk, hnodup⟩ := List.nodup_cons.1 hnodup
    rw [List.map_cons, putItem]
    by_cases hkey : k = key
    · subst hkey
      have hrest : ∀ other ∈ order, (other, f other) = (other, if other = k then value else f other) := by
        rintro other hother
        rw [if_neg]
        rintro rfl
        exact hk hother
      simp [List.map_congr_left hrest]
    · rw [if_neg hkey, ih hnodup]
      by_cases hmem : key ∈ order <;> simp [hmem, hkey, Ne.symm hkey]

/-! ## Keys and values in step -/

/-- each key is listed once, and the listed keys are those that have a value -/
structure Consistent (a : Attributes) : Prop where
  nodup : a.order.Nodup
  keys : ∀ key, key ∈ a.order ↔ a.has key = true
  sorted : a.values.Sorted

namespace Consistent

variable {a : Attributes}

theorem values_get? (h : a.Consistent) (key : String) :
    a.values.get? key = if key ∈ a.order then some (a.get key) else none := by
  have hkey := h.keys key
  rw [has, Dict.contains] at hkey
  rw [get]
  cases hvalue : a.values.get? key <;> simp_all

/-- no listed key is without a value -/
theorem items_eq (h : a.Consistent) : a.items = a.order.map fun key => (key, a.get key) := by
  have hitem : ∀ key ∈ a.order, ((a.values.get? key).map fun value => (key, value)) = some (key, a.get key) := by
    intro key hkey
    rw [h.values_get?, if_pos hkey, Option.map_some]
  rw [items, List.filterMap_congr hitem, List.filterMap_eq_map']

theorem items_keys (h : a.Consistent) : a.items.map (·.1) = a.order := by
  rw [h.items_eq, List.map_map]
  exact List.map_id _

theorem lookup_items (h : a.Consistent) (key : String) : Dict.lookup key a.items = a.values.get? key := by
  rw [h.items_eq, Dict.lookup_keyed, h.values_get?]

theorem perm_keys (h : a.Consistent) : a.order.Perm a.values.keys :=
  (List.perm_ext_iff_of_nodup h.nodup h.sorted.nodup_keys).2 fun key => by rw [h.keys, Dict.mem_keys, has]

/-! ### a pair more -/

theorem order_put (h : a.Consistent) (key value : String) :
    (a.put key value).order = if key ∈ a.order then a.order else a.order ++ [key] := by
  simp only [Attributes.put, h.keys]

theorem put (h : a.Consistent) (key value : String) : (a.put key value).Consistent where
  nodup := by
    rw [h.order_put]
    split
    · exact h.nodup
    · next hkey =>
      rw [← List.concat_eq_append, List.nodup_concat]
      exact ⟨hkey, h.nodup⟩
  keys other := by
    have hhas : (a.put key value).has other = (decide (other = key) || a.has other) := by
      rw [has, Dict.contains, Attributes.put, Dict.get?_insert]
      by_cases heq : other = key <;> simp [heq, has, Dict.contains]
    rw [hhas, Bool.or_eq_true, decide_eq_true_eq, ← h.keys, h.order_put]
    by_cases hkey : key ∈ a.order
    · rw [if_pos hkey]
      exact ⟨Or.inr, by rintro (rfl | hother); exacts [hkey, hother]⟩
    · rw [if_neg hkey, List.mem_append, List.mem_singleton, or_comm]
  sorted := h.sorted.insert key value

theorem items_put (h : a.Consistent) (key value : String) : (a.put key value).items = putItem key value a.items := by
  have hget : ∀ k, (a.put key value).get k = if k = key then value else a.get k := by
    intro k
    rw [get, Attributes.put, Dict.get?_insert]
    split <;> rfl
  rw [(h.put key value).items_eq, h.items_eq, putItem_keyed h.nodup, h.order_put]
  simp only [hget]

end Consistent

theorem consistent_empty : empty.Consistent where
  nodup := List.nodup_nil
  keys _ := by simp [empty, has, Dict.contains]
  sorted := Dict.sorted_empty

/-- **A new set** lists its pairs as the association list that they are put into. -/
theorem consistent_ofList (pairs : List (String × String)) :
    (ofList pairs).Consistent ∧ (ofList pairs).items = itemsOf pairs := by
  induction pairs using List.reverseRecOn with
  | nil => exact ⟨consistent_empty, rfl⟩
  | append_singleton pairs pair ih =>
    obtain ⟨hconsistent, hitems⟩ := ih
    rw [ofList_concat, itemsOf, List.foldl_append, ← itemsOf, ← hitems]
    exact ⟨hconsistent.put pair.1 pair.2, hconsistent.items_put pair.1 pair.2⟩

namespace Consistent

variable {a : Attributes}

/-! ### a part -/

theorem filterKeys_get? (h : a.Consistent) (keep : String → Bool) (key : String) :
    (a.filterKeys keep).values.get? key = if key ∈ a.order.filter keep then some (a.get key) else none := by
  have hitem : ∀ k ∈ a.order.filter keep, ((a.values.get? k).map fun value => (k, value)) = some (k, a.get k) := by
    intro k hk
    rw [h.values_get?, if_pos (List.mem_of_mem_filter hk), Option.map_some]
  rw [filterKeys, List.filterMap_congr hitem, List.filterMap_eq_map', Dict.get?_ofList, Dict.last_keyed]

theorem filterKeys (h : a.Consistent) (keep : String → Bool) : (a.filterKeys keep).Consistent where
  nodup := h.nodup.filter keep
  keys key := by
    rw [has, Dict.contains, h.filterKeys_get?]
    by_cases hmem : key ∈ a.order.filter keep
    · simp only [hmem, if_true, Option.isSome_some, iff_true]
      exact hmem
    · simp only [hmem, if_false, Option.isSome_none, Bool.false_eq_true, iff_false]
      exact hmem
  sorted := Dict.sorted_ofList _

theorem items_filterKeys (h : a.Consistent) (keep : String → Bool) :
    (a.filterKeys keep).items = a.items.filter fun (key, _) => keep key := by
  have hget : ∀ key ∈ a.order.filter keep, (key, (a.filterKeys keep).get key) = (key, a.get key) := by
    intro key hkey
    rw [get, h.filterKeys_get?, if_pos hkey, Option.getD_some]
  rw [(h.filterKeys keep).items_eq, h.items_eq, List.filter_map]
  exact List.map_congr_left hget

/-! ### a default -/

/-- a default puts a pair, or leaves the set as it is -/
theorem withDefault_eq (a : Attributes) (key value : String) :
    a.withDefault key value =
      match a.values.get? key with
      | none => a.put key value
      | some existing => if key = classKey then a.put key (value ++ " " ++ existing) else a := by
  unfold withDefault Attributes.put has Dict.contains
  cases hvalue : a.values.get? key <;> simp

theorem withDefault (h : a.Consistent) (key value : String) : (a.withDefault key value).Consistent := by
  rw [withDefault_eq]
  split
  · exact h.put _ _
  · split
    · exact h.put _ _
    · exact h

theorem putItem_absent {key : String} {items : List (String × String)} (habsent : Dict.lookup key items = none)
    (value : String) : putItem key value items = items ++ [(key, value)] := by
  induction items with
  | nil => rfl
  | cons item rest ih =>
    obtain ⟨k, v⟩ := item
    rw [Dict.lookup] at habsent
    split_ifs at habsent with hkey
    rw [putItem, if_neg (Ne.symm hkey), ih habsent, List.cons_append]

theorem items_withDefault (h : a.Consistent) (key value : String) :
    (a.withDefault key value).items = (Change.default key value).applyItems a.items := by
  have hlookup := h.lookup_items key
  rw [withDefault_eq, Change.applyItems, hlookup]
  cases hvalue : a.values.get? key with
  | none => rw [h.items_put, putItem_absent (hlookup.trans hvalue)]
  | some existing =>
    dsimp only
    split
    · exact h.items_put _ _
    · rfl

end Consistent

/-! ## Sequences of changes -/

variable {a : Attributes}

/-- **One change** does to the items what it does to the association list. -/
theorem Change.apply_items (h : a.Consistent) (change : Change) :
    (change.apply a).Consistent ∧ (change.apply a).items = change.applyItems a.items := by
  cases change with
  | new pairs => exact consistent_ofList pairs
  | only keys => exact ⟨h.filterKeys _, h.items_filterKeys _⟩
  | without keys => exact ⟨h.filterKeys _, h.items_filterKeys _⟩
  | default key value => exact ⟨h.withDefault key value, h.items_withDefault key value⟩

/-- **So do changes** one after the other. -/
theorem after_items (h : a.Consistent) (changes : List Change) :
    (a.after changes).Consistent ∧ (a.after changes).items = itemsAfter a.items changes := by
  induction changes generalizing a with
  | nil => exact ⟨h, rfl⟩
  | cons change rest ih =>
    obtain ⟨hnext, hitems⟩ := change.apply_items h
    have hrest := ih hnext
    rw [hitems] at hrest
    exact hrest

/-- **Attribute sets are ordered maps.** Whatever new sets, selections and defaults follow each other on the set of a
list of pairs: each key is listed once, the listed keys are those that have a value and none is missed among the items,
and the items are those of an association list that goes through the same changes. What a selection keeps and what its
complement keeps are two parts of the items, each in the order of the set, with no key in both. -/
theorem ordered_map (pairs : List (String × String)) (changes : List Change) :
    let a := (ofList pairs).after changes
    a.order.Nodup ∧ a.order.Perm a.values.keys ∧ a.items.map (·.1) = a.order ∧
      (∀ key, a.values.get? key = Dict.lookup key a.items) ∧ a.items = itemsAfter (itemsOf pairs) changes ∧
      ∀ keys, (a.only keys).items.Sublist a.items ∧ (a.without keys).items.Sublist a.items ∧
        (a.only keys).order.Disjoint (a.without keys).order ∧
        ((a.only keys).items ++ (a.without keys).items).Perm a.items := by
  intro a
  obtain ⟨hnew, hpairs⟩ := consistent_ofList pairs
  obtain ⟨h, hitems⟩ : a.Consistent ∧ a.items = itemsAfter (ofList pairs).items changes := after_items hnew changes
  rw [hpairs] at hitems
  refine ⟨h.nodup, h.perm_keys, h.items_keys, fun key => (h.lookup_items key).symm, hitems, fun keys => ?_⟩
  rw [only, without, h.items_filterKeys, h.items_filterKeys]
  refine ⟨List.filter_sublist, List.filter_sublist, fun key hkey hnot => ?_, List.filter_append_perm _ _⟩
  have hmem : keys.contains key = true := (List.mem_filter.1 hkey).2
  have hno : (!keys.contains key) = true := (List.mem_filter.1 hnot).2
  rw [hmem] at hno
  cases hno

/-- the default of a class goes in front of the classes, and that of another known key is passed over -/
example : ((ofList [("class", "active"), ("id", "x")]).after
    [.default "class" "btn", .default "id" "y", .default "type" "button", .without ["id"]]).items =
      [("class", "btn active"), ("type", "button")] := by decide +kernel

end Attributes

end Templating
