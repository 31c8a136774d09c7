/-
Slot data by keys, from the written list to the variables of a slot.

A list of keys stands in braces with white space wherever it may: around the braces, inside of them, and behind commas
and colons. No key has a brace, a comma, a colon or white space in it, so what is cut off at both ends is just what was
written around the list, and each name ends where it was meant to.

- `insideBraces_written`: the list is what is left between the braces.
- `readKeys?_written`: it is read key by key.
- `slot_keys`: so the keys come back in order, and the slots see them under the names that they go by, of which one
  that is given twice means the last.
-/
import Templating.Component.SlotData
import Templating.Proofs.ComponentData
import Templating.Proofs.Trimming

namespace Templating

namespace SlotData

/-! ## Written keys -/

/-- a name in the characters of keys -/
def IsKey (name : List Char) : Prop :=
  name ≠ [] ∧ ∀ c ∈ name, isKeyChar c = true

-- the characters of the name are gone through, not all characters that there are
instance (name : List Char) : Decidable (IsKey name) :=
  decidable_of_iff (name ≠ [] ∧ name.all isKeyChar = true) (and_congr_right fun _ => List.all_eq_true)

/-- a key of the list as it is written, with the white space in front of it -/
structure WrittenKey where
  before : List Char
  name : List Char
  /-- the white space behind the colon, and the other name -/
  other : Option (List Char × List Char)
  deriving DecidableEq, Repr

namespace WrittenKey

/-- the key without the white space in front of it -/
def text (key : WrittenKey) : List Char :=
  key.name ++ match key.other with
    | none => []
    | some (blanks, other) => ':' :: (blanks ++ other)

/-- the key that it means -/
def key (key : WrittenKey) : SlotKey :=
  ⟨String.ofList key.name, key.other.map fun (_, other) => String.ofList other⟩

/-- names are names, and what stands between them is white space -/
structure Valid (key : WrittenKey) : Prop where
  before : ∀ c ∈ key.before, Text.isBlank c = true
  name : IsKey key.name
  other : ∀ other ∈ key.other, (∀ c ∈ other.1, Text.isBlank c = true) ∧ IsKey other.2

end WrittenKey

/-- keys as they are written behind a first one, a comma in front of each -/
def furtherKeys (keys : List WrittenKey) : List Char :=
  keys.flatMap fun key => ',' :: (key.before ++ key.text)

/-- keys as they are written, a comma between each two -/
def listText (first : WrittenKey) (rest : List WrittenKey) : List Char :=
  first.text ++ furtherKeys rest

/-- the list with white space around it -/
def spacedList (first : WrittenKey) (rest : List WrittenKey) (last : List Char) : List Char :=
  first.before ++ (listText first rest ++ last)

/-- the list in braces, with white space inside of them -/
def inBraces (first : WrittenKey) (rest : List WrittenKey) (last : List Char) : List Char :=
  '\x7b' :: (spacedList first rest last ++ ['\x7d'])

theorem isBlank_of_isKeyChar {c : Char} (h : isKeyChar c = true) : Text.isBlank c = false := by
  rw [isKeyChar, Bool.or_eq_true, beq_iff_eq] at h
  rcases h with h | rfl
  · exact Text.isBlank_of_isAlphanum h
  · decide

theorem isBrace_of_isBlank {c : Char} (h : Text.isBlank c = true) : isBrace c = false := by
  rw [isBrace, Bool.or_eq_false_iff, beq_eq_false_iff_ne, beq_eq_false_iff_ne]
  constructor <;> rintro rfl <;> exact absurd h (by decide)

theorem isBrace_of_isKeyChar {c : Char} (h : isKeyChar c = true) : isBrace c = false := by
  rw [isBrace, Bool.or_eq_false_iff, beq_eq_false_iff_ne, beq_eq_false_iff_ne]
  constructor <;> rintro rfl <;> exact absurd h (by decide)

/-! ## The ends of a list -/

theorem exists_first {first : WrittenKey} (h : first.Valid) (rest : List WrittenKey) :
    ∃ c tail, listText first rest = c :: tail ∧ isKeyChar c = true := by
  obtain ⟨c, tail, hname⟩ := List.exists_cons_of_ne_nil h.name.1
  have hc : isKeyChar c = true := h.name.2 c (by rw [hname]; exact List.mem_cons_self)
  exact ⟨c, _, by rw [listText, WrittenKey.text, hname, List.cons_append, List.cons_append], hc⟩

theorem IsKey.exists_last {name : List Char} (h : IsKey name) : ∃ init c, name = init ++ [c] ∧ isKeyChar c = true := by
  rcases List.eq_nil_or_concat name with rfl | ⟨init, c, rfl⟩
  · exact absurd rfl h.1
  · exact ⟨init, c, List.concat_eq_append, h.2 c (by simp)⟩

theorem WrittenKey.Valid.exists_last {key : WrittenKey} (h : key.Valid) :
    ∃ init c, key.text = init ++ [c] ∧ isKeyChar c = true := by
  obtain ⟨before, name, other⟩ := key
  cases other with
  | none => simpa [WrittenKey.text] using h.name.exists_last
  | some other =>
    obtain ⟨init, c, hother, hc⟩ := (h.other other rfl).2.exists_last
    exact ⟨name ++ ':' :: (other.1 ++ init), c, by simp [WrittenKey.text, hother], hc⟩

theorem exists_last {first : WrittenKey} {rest : List WrittenKey} (hfirst : first.Valid)
    (hrest : ∀ key ∈ rest, key.Valid) : ∃ init c, listText first rest = init ++ [c] ∧ isKeyChar c = true := by
  rcases List.eq_nil_or_concat rest with rfl | ⟨front, key, rfl⟩
  · simpa [listText, furtherKeys] using hfirst.exists_last
  · obtain ⟨init, c, hkey, hc⟩ := (hrest key (by simp)).exists_last
    exact ⟨first.text ++ (furtherKeys front ++ ',' :: (key.before ++ init)), c,
      by simp [listText, furtherKeys, hkey], hc⟩

/-! ## Reading -/

theorem readName?_key {name behind : List Char} (h : IsKey name) (hbehind : ∀ c ∈ behind.head?, isKeyChar c = false) :
    readName? (name ++ behind) = some (name, behind) := by
  obtain ⟨htake, hdrop⟩ := Text.takeWhile_front h.2 hbehind
  unfold readName?
  rw [htake, hdrop]
  cases name with
  | nil => exact absurd rfl h.1
  | cons c name => rfl

/-- **A key is read** in front of what is neither a part of its name nor another name for it. -/
theorem readKey?_text {key : WrittenKey} (h : key.Valid) {behind : List Char}
    (hbehind : ∀ c ∈ behind.head?, isKeyChar c = false ∧ c ≠ ':') :
    readKey? (key.text ++ behind) = some (key.key, behind) := by
  obtain ⟨before, name, other⟩ := key
  unfold readKey?
  cases other with
  | none =>
    have hname : readName? (WrittenKey.text ⟨before, name, none⟩ ++ behind) = some (name, behind) := by
      simpa [WrittenKey.text] using readName?_key h.name fun c hc => (hbehind c hc).1
    rw [hname]
    simp only [bind, Option.bind]
    split
    · exact absurd rfl (hbehind ':' rfl).2
    · rfl
  | some other =>
    obtain ⟨blanks, other⟩ := other
    obtain ⟨hblanks, hother⟩ := h.other _ rfl
    have htext : WrittenKey.text ⟨before, name, some (blanks, other)⟩ ++ behind =
        name ++ ':' :: (blanks ++ (other ++ behind)) := by
      simp [WrittenKey.text]
    have hname := readName?_key h.name
      (Text.stops_cons (show isKeyChar ':' = false by decide) (blanks ++ (other ++ behind)))
    have hread := readName?_key hother fun c hc => (hbehind c hc).1
    have hstart : Text.trimStart (blanks ++ (other ++ behind)) = other ++ behind := by
      obtain ⟨c, tail, rfl⟩ := List.exists_cons_of_ne_nil hother.1
      rw [Text.trimStart_blanks hblanks]
      exact Text.trimStart_cons (isBlank_of_isKeyChar (hother.2 c List.mem_cons_self)) _
    rw [htext, hname]
    simp only [bind, Option.bind, hstart, hread]
    rfl

/-- **The keys are read** one by one, up to the end. -/
theorem readKeys?_written {first : WrittenKey} {rest : List WrittenKey} (hfirst : first.Valid)
    (hrest : ∀ key ∈ rest, key.Valid) {fuel : Nat} (hfuel : rest.length < fuel) :
    readKeys? fuel (listText first rest) = some ((first :: rest).map WrittenKey.key) := by
  induction rest generalizing first fuel with
  | nil =>
    obtain ⟨fuel, rfl⟩ := Nat.exists_eq_succ_of_ne_zero (Nat.ne_of_gt hfuel)
    have hread : readKey? (first.text ++ []) = some (first.key, []) := readKey?_text hfirst (by simp)
    rw [listText, furtherKeys, List.flatMap_nil, readKeys?, hread]
    rfl
  | cons next rest ih =>
    obtain ⟨fuel, rfl⟩ := Nat.exists_eq_succ_of_ne_zero (Nat.ne_of_gt (Nat.zero_lt_of_lt hfuel))
    obtain ⟨hnext, hrest⟩ := List.forall_mem_cons.1 hrest
    have hbehind : furtherKeys (next :: rest) = ',' :: (next.before ++ listText next rest) := by
      simp [furtherKeys, listText]
    have hread : readKey? (first.text ++ furtherKeys (next :: rest)) = some (first.key, furtherKeys (next :: rest)) :=
      readKey?_text hfirst (by rw [hbehind]; rintro c hc; cases hc; decide)
    have hstart : Text.trimStart (next.before ++ listText next rest) = listText next rest := by
      obtain ⟨c, tail, htext, hc⟩ := exists_first hnext rest
      rw [Text.trimStart_blanks hnext.before, htext]
      exact Text.trimStart_cons (isBlank_of_isKeyChar hc) _
    have hmore : readKeys? fuel (listText next rest) = some ((next :: rest).map WrittenKey.key) :=
      ih hnext hrest (by simpa using hfuel)
    rw [listText, readKeys?, hread, hbehind]
    simp only [bind, Option.bind, hstart, hmore]
    rfl

/-! ## Braces -/

variable {first : WrittenKey} {rest : List WrittenKey} {last : List Char}

theorem WrittenKey.Valid.not_isBrace {key : WrittenKey} (h : key.Valid) {c : Char} (hc : c ∈ key.before ++ key.text) :
    isBrace c = false := by
  obtain ⟨before, name, other⟩ := key
  rcases List.mem_append.1 hc with hc | hc
  · exact isBrace_of_isBlank (h.before c hc)
  rcases List.mem_append.1 hc with hc | hc
  · exact isBrace_of_isKeyChar (h.name.2 c hc)
  cases other with
  | none => cases hc
  | some other =>
    obtain ⟨hblanks, hother⟩ := h.other other rfl
    rcases List.mem_cons.1 hc with rfl | hc
    · decide
    rcases List.mem_append.1 hc with hc | hc
    · exact isBrace_of_isBlank (hblanks c hc)
    · exact isBrace_of_isKeyChar (hother.2 c hc)

/-- no brace is in the list with its white space -/
theorem not_isBrace_spacedList (hfirst : first.Valid) (hrest : ∀ key ∈ rest, key.Valid)
    (hlast : ∀ c ∈ last, Text.isBlank c = true) : ∀ c ∈ spacedList first rest last, isBrace c = false := by
  intro c hc
  rw [spacedList, listText, ← List.append_assoc, ← List.append_assoc] at hc
  rcases List.mem_append.1 hc with hc | hc
  · rcases List.mem_append.1 hc with hc | hc
    · exact hfirst.not_isBrace hc
    · obtain ⟨key, hkey, hc⟩ := List.mem_flatMap.1 hc
      rcases List.mem_cons.1 hc with rfl | hc
      · decide
      · exact (hrest key hkey).not_isBrace hc
  · exact isBrace_of_isBlank (hlast c hc)

/-- **Between the braces** is the list, without the white space around it. -/
theorem insideBraces_written (hfirst : first.Valid) (hrest : ∀ key ∈ rest, key.Valid)
    (hlast : ∀ c ∈ last, Text.isBlank c = true) : insideBraces (inBraces first rest last) = listText first rest := by
  have hnone := not_isBrace_spacedList hfirst hrest hlast
  have hcut : Text.dropEndWhile isBrace ((['\x7b'] ++ (spacedList first rest last ++ ['\x7d'])).dropWhile isBrace) =
      spacedList first rest last :=
    Text.cut_between (List.forall_mem_singleton.2 rfl) (List.forall_mem_singleton.2 rfl)
      (fun c hc => hnone c (List.mem_of_mem_head? hc)) (fun c hc => hnone c (List.mem_of_mem_getLast? hc))
  rw [insideBraces, show inBraces first rest last = ['\x7b'] ++ (spacedList first rest last ++ ['\x7d']) from rfl, hcut]
  obtain ⟨c, tail, hstart, hc⟩ := exists_first hfirst rest
  obtain ⟨init, d, hend, hd⟩ := exists_last hfirst hrest
  refine Text.trim_between hfirst.before hlast ?_ ?_
  · rw [hstart]
    exact Text.stops_cons (isBlank_of_isKeyChar hc) tail
  · rw [hend]
    simpa using isBlank_of_isKeyChar hd

theorem length_listText (hfirst : first.Valid) (rest : List WrittenKey) :
    rest.length < (listText first rest).length := by
  have hfurther : rest.length ≤ (furtherKeys rest).length := by
    induction rest with
    | nil => exact Nat.le_refl 0
    | cons key rest ih =>
      rw [furtherKeys, List.flatMap_cons, List.length_append, ← furtherKeys]
      simp only [List.length_cons]
      omega
  have hname : 0 < first.name.length := List.length_pos_iff.2 hfirst.name.1
  rw [listText, List.length_append, WrittenKey.text, List.length_append]
  omega

/-- **The list in braces** is read as its keys. -/
theorem ofText?_written (hfirst : first.Valid) (hrest : ∀ key ∈ rest, key.Valid)
    (hlast : ∀ c ∈ last, Text.isBlank c = true) {front behind : List Char}
    (hfront : ∀ c ∈ front, Text.isBlank c = true) (hbehind : ∀ c ∈ behind, Text.isBlank c = true) :
    ofText? (String.ofList (front ++ (inBraces first rest last ++ behind))) =
      some (keys ((first :: rest).map WrittenKey.key)) := by
  have hhead : (inBraces first rest last).head? = some '\x7b' := rfl
  have hend : (inBraces first rest last).getLast? = some '\x7d' := by
    rw [inBraces, ← List.cons_append, List.getLast?_concat]
  have htext : Text.trim (front ++ (inBraces first rest last ++ behind)) = inBraces first rest last := by
    refine Text.trim_between hfront hbehind (Text.stops_cons (by decide) _) ?_
    rw [hend]
    rintro c hc
    cases hc
    decide
  have hsome : (listText first rest).isEmpty = false := by
    obtain ⟨c, tail, hstart, -⟩ := exists_first hfirst rest
    rw [hstart]
    rfl
  have hkeys := readKeys?_written hfirst hrest (length_listText hfirst rest)
  have hempty : (inBraces first rest last).isEmpty = false := rfl
  simp only [ofText?, String.toList_ofList, htext, hempty, hhead, hend, insideBraces_written hfirst hrest hlast, hsome,
    hkeys, Bool.false_eq_true, if_false, and_self, if_true, Option.map_some]

/-- in the scope of a slot a name has the value of the last key that goes by it -/
theorem get?_keys {list front behind : List SlotKey} {key : SlotKey} (hlist : list = front ++ key :: behind)
    (hlast : ∀ other ∈ behind, other.binding ≠ key.binding) (data : Data) (around : Scope) :
    (slotScope around ((keys list).bindings data)).get? key.binding = some ((data.get? key.name).getD .null) := by
  have hvalue : Dict.last key.binding ((keys list).bindings data) = some ((data.get? key.name).getD .null) :=
    Dict.last_map_eq_some.2 ⟨front, key, behind, hlist, rfl, rfl, hlast⟩
  rw [Scope.slotScope_eq, Scope.get?, List.findSome?_cons, Dict.get?_ofList, hvalue]

/-- **Slot data by keys.** A list of keys in braces, with or without other names and with any white space behind commas
and colons, inside of the braces and around them, is read as these keys in order. What the slots are given is, in the
same order, the value of each key of the data, or none, under the name that the key goes by; in the scope of a slot a
name has the value of the last key that goes by it. -/
theorem slot_keys (hfirst : first.Valid) (hrest : ∀ key ∈ rest, key.Valid)
    (hlast : ∀ c ∈ last, Text.isBlank c = true) {front behind : List Char}
    (hfront : ∀ c ∈ front, Text.isBlank c = true) (hbehind : ∀ c ∈ behind, Text.isBlank c = true) :
    ofText? (String.ofList (front ++ (inBraces first rest last ++ behind))) =
        some (keys ((first :: rest).map WrittenKey.key)) ∧
      ∀ data, (keys ((first :: rest).map WrittenKey.key)).bindings data =
          (first :: rest).map (fun written => (written.key.binding, (data.get? written.key.name).getD .null)) ∧
        ∀ before key after, (first :: rest).map WrittenKey.key = before ++ key :: after →
          (∀ other ∈ after, other.binding ≠ key.binding) → ∀ around,
            (slotScope around ((keys ((first :: rest).map WrittenKey.key)).bindings data)).get? key.binding =
              some ((data.get? key.name).getD .null) := by
  refine ⟨ofText?_written hfirst hrest hlast hfront hbehind, fun data => ⟨?_, ?_⟩⟩
  · rw [bindings, List.map_map]
    rfl
  · intro before key after hsplit hother around
    exact get?_keys hsplit hother data around

/-- a key that goes by the name of the first one, and a key that the data does not have -/
def countAndSize : List WrittenKey :=
  [⟨"\n ".toList, "count".toList, some (" ".toList, "user".toList)⟩, ⟨[], "size".toList, none⟩]

theorem slot_keys_count :
    ofText? "  \x7b user,\n count: user,size \x7d\t" =
        some (keys [⟨"user", none⟩, ⟨"count", some "user"⟩, ⟨"size", none⟩]) ∧
      (slotScope (.root .empty) ((keys [⟨"user", none⟩, ⟨"count", some "user"⟩, ⟨"size", none⟩]).bindings
        (.ofList [("user", .str "ann"), ("count", .int 2)]))).get? "user" = some (.int 2) := by
  have hfirst : WrittenKey.Valid ⟨" ".toList, "user".toList, none⟩ :=
    ⟨List.all_eq_true.1 (by decide), by decide, by rintro _ ⟨⟩⟩
  have hcount : WrittenKey.Valid ⟨"\n ".toList, "count".toList, some (" ".toList, "user".toList)⟩ :=
    ⟨List.all_eq_true.1 (by decide), by decide, by rintro _ ⟨⟩; exact ⟨List.all_eq_true.1 (by decide), by decide⟩⟩
  have hsize : WrittenKey.Valid ⟨[], "size".toList, none⟩ :=
    ⟨List.all_eq_true.1 (by decide), by decide, by rintro _ ⟨⟩⟩
  have hrest : ∀ key ∈ countAndSize, key.Valid :=
    List.forall_mem_cons.2 ⟨hcount, List.forall_mem_singleton.2 hsize⟩
  have hlast : " ".toList.all Text.isBlank = true := by decide
  have hfront : "  ".toList.all Text.isBlank = true := by decide
  have hbehind : "\t".toList.all Text.isBlank = true := by decide
  obtain ⟨hread, hdata⟩ := slot_keys hfirst hrest (List.all_eq_true.1 hlast)
    (List.all_eq_true.1 hfront) (List.all_eq_true.1 hbehind)
  obtain ⟨-, hvalue⟩ := hdata (.ofList [("user", .str "ann"), ("count", .int 2)])
  exact ⟨hread, hvalue [⟨"user", none⟩] ⟨"count", some "user"⟩ [⟨"size", none⟩] rfl (by decide) (.root .empty)⟩

end SlotData

end Templating
