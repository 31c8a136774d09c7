/-
Which texts in braces are lists of slot data.

Between the braces stands nothing, or keys with commas between them and white space around them (`Lists`). What is
read there is such a list, key by key, and every such list is read. But the braces are not one at each end: all that
stand there are cut off, of either kind, before the list is looked at. So a list in further braces is accepted as well.

- `readKeys?_eq_some`: what is read key by key is written as keys.
- `lists_iff`: reading a text without the white space around it is the same as its being a list.
- `slot_list_iff`: a text in braces is accepted exactly when a list is inside all of its braces.
- `further_braces_accepted`: braces in braces are no list, and are accepted.
-/
import Templating.Proofs.SlotKeys

namespace Templating

namespace SlotData

/-! ## Lists -/

/-- the text is a list of these keys: white space only, or keys as they are written with white space around them -/
inductive Lists : List Char → List SlotKey → Prop where
  | blank {blanks : List Char} (hblanks : ∀ c ∈ blanks, Text.isBlank c = true) : Lists blanks []
  | keys {first : WrittenKey} {rest : List WrittenKey} {last : List Char} (hfirst : first.Valid)
      (hrest : ∀ key ∈ rest, key.Valid) (hlast : ∀ c ∈ last, Text.isBlank c = true) :
      Lists (spacedList first rest last) ((first :: rest).map WrittenKey.key)

variable {text rest inside : List Char} {list : List SlotKey}

/-- no brace is in a list -/
theorem Lists.not_isBrace (h : Lists text list) : ∀ c ∈ text, isBrace c = false := by
  cases h with
  | blank hblanks => exact fun c hc => isBrace_of_isBlank (hblanks c hc)
  | keys hfirst hrest hlast => exact not_isBrace_spacedList hfirst hrest hlast

/-! ## Reading -/

/-- a name that is read is a name -/
theorem readName?_eq_some {name : List Char} (h : readName? text = some (name, rest)) :
    text = name ++ rest ∧ IsKey name := by
  unfold readName? at h
  split at h
  · cases h
  · next hname =>
    cases h
    exact ⟨List.takeWhile_append_dropWhile.symm, hname, fun c hc => List.mem_takeWhile_imp hc⟩

/-- white space is what is cut off in front of a text -/
theorem exists_front (text : List Char) :
    ∃ blanks, text = blanks ++ Text.trimStart text ∧ ∀ c ∈ blanks, Text.isBlank c = true :=
  ⟨text.takeWhile Text.isBlank, List.takeWhile_append_dropWhile.symm, fun _ hc => List.mem_takeWhile_imp hc⟩

/-- a key that is read is written as one -/
theorem readKey?_eq_some {key : SlotKey} (h : readKey? text = some (key, rest)) (before : List Char)
    (hbefore : ∀ c ∈ before, Text.isBlank c = true) :
    ∃ written : WrittenKey, written.Valid ∧ written.before = before ∧ text = written.text ++ rest ∧
      written.key = key := by
  obtain ⟨⟨name, behind⟩, hname, hread⟩ := Option.bind_eq_some_iff.1 h
  obtain ⟨rfl, hkey⟩ := readName?_eq_some hname
  dsimp only at hread
  split at hread
  · next behind =>
    obtain ⟨⟨other, left⟩, hother, hread⟩ := Option.bind_eq_some_iff.1 hread
    obtain ⟨hsplit, hotherKey⟩ := readName?_eq_some hother
    obtain ⟨blanks, hblanks, hblank⟩ := exists_front behind
    cases hread
    refine ⟨⟨before, name, some (blanks, other)⟩, ⟨hbefore, hkey, ?_⟩, rfl, ?_, rfl⟩
    · rintro _ ⟨⟩
      exact ⟨hblank, hotherKey⟩
    · rw [hblanks, hsplit]
      simp [WrittenKey.text]
  · cases hread
    exact ⟨⟨before, name, none⟩, ⟨hbefore, hkey, by rintro _ ⟨⟩⟩, rfl, by simp [WrittenKey.text], rfl⟩

/-- **What is read key by key** is written as keys, with a comma between each two. -/
theorem readKeys?_eq_some {fuel : Nat} (h : readKeys? fuel text = some list) (before : List Char)
    (hbefore : ∀ c ∈ before, Text.isBlank c = true) :
    ∃ (first : WrittenKey) (rest : List WrittenKey), first.Valid ∧ (∀ key ∈ rest, key.Valid) ∧
      first.before = before ∧ text = listText first rest ∧ list = (first :: rest).map WrittenKey.key := by
  induction fuel generalizing text list before with
  | zero => cases h
  | succ fuel ih =>
    obtain ⟨⟨key, behind⟩, hkey, hread⟩ := Option.bind_eq_some_iff.1 h
    obtain ⟨first, hfirst, hfront, rfl, rfl⟩ := readKey?_eq_some hkey before hbefore
    dsimp only at hread
    split at hread
    · cases hread
      exact ⟨first, [], hfirst, by simp, hfront, by simp [listText, furtherKeys], rfl⟩
    · next behind =>
      obtain ⟨more, hmore, hread⟩ := Option.bind_eq_some_iff.1 hread
      obtain ⟨blanks, hsplit, hblank⟩ := exists_front behind
      obtain ⟨next, rest, hnext, hrest, rfl, htext, rfl⟩ := ih hmore blanks hblank
      cases hread
      refine ⟨first, next :: rest, hfirst, List.forall_mem_cons.2 ⟨hnext, hrest⟩, hfront, ?_, rfl⟩
      rw [hsplit, htext]
      simp [listText, furtherKeys]
    · cases hread

/-- the white space around a list is cut off, and its keys are left -/
theorem trim_spacedList {first : WrittenKey} {rest : List WrittenKey} {last : List Char} (hfirst : first.Valid)
    (hrest : ∀ key ∈ rest, key.Valid) (hlast : ∀ c ∈ last, Text.isBlank c = true) :
    Text.trim (spacedList first rest last) = listText first rest := by
  obtain ⟨c, tail, hstart, hc⟩ := exists_first hfirst rest
  obtain ⟨init, d, hend, hd⟩ := exists_last hfirst hrest
  refine Text.trim_between hfirst.before hlast ?_ ?_
  · rw [hstart]
    exact Text.stops_cons (isBlank_of_isKeyChar hc) tail
  · rw [hend]
    simpa using isBlank_of_isKeyChar hd

/-- **A text is a list** exactly when its keys are read, or when it is white space and there are none. -/
theorem lists_iff : Lists text list ↔
    if (Text.trim text).isEmpty then list = []
    else readKeys? (Text.trim text).length (Text.trim text) = some list := by
  obtain ⟨front, hfront, hblank⟩ := exists_front text
  obtain ⟨behind, hbehind, hlast⟩ := Text.exists_blanks (Text.trimStart text)
  have hsplit : text = front ++ (Text.trim text ++ behind) := by rw [Text.trim, ← hbehind, ← hfront]
  constructor
  · intro h
    cases h with
    | blank hblanks =>
      have hnone : Text.trim text = [] := by
        rw [Text.trim, Text.trimStart, List.dropWhile_eq_nil_iff.2 hblanks]
        rfl
      rw [if_pos (List.isEmpty_iff.2 hnone)]
    | @keys first rest last hfirst hrest hlast =>
      obtain ⟨c, tail, hstart, -⟩ := exists_first hfirst rest
      rw [trim_spacedList hfirst hrest hlast, if_neg (by rw [hstart]; exact Bool.false_ne_true)]
      exact readKeys?_written hfirst hrest (length_listText hfirst rest)
  · intro h
    split_ifs at h with hempty
    · rw [List.isEmpty_iff.1 hempty, List.nil_append] at hsplit
      rw [h, hsplit]
      exact .blank (List.forall_mem_append.2 ⟨hblank, hlast⟩)
    · obtain ⟨first, rest, hfirst, hrest, rfl, htext, rfl⟩ := readKeys?_eq_some h front hblank
      rw [hsplit, htext]
      exact .keys hfirst hrest hlast

/-! ## Braces -/

/-- the text is a list of these keys with further braces of either kind around it -/
def InFurther (further inside : List Char) (list : List SlotKey) : Prop :=
  ∃ front middle behind, inside = front ++ (middle ++ behind) ∧ further = front ++ behind ∧
    (∀ c ∈ further, isBrace c = true) ∧ Lists middle list

theorem inFurther_nil : InFurther [] inside list ↔ Lists inside list := by
  constructor
  · rintro ⟨front, middle, behind, rfl, hnone, -, hlist⟩
    obtain ⟨rfl, rfl⟩ := List.append_eq_nil_iff.1 hnone.symm
    rwa [List.nil_append, List.append_nil]
  · intro h
    exact ⟨[], inside, [], by rw [List.nil_append, List.append_nil], rfl, by simp, h⟩

variable {value : String}

/-- what is read of a text in braces is the list inside all of them -/
theorem ofText?_braced {front middle behind : List Char}
    (htext : Text.trim value.toList = '\x7b' :: (front ++ (middle ++ behind) ++ ['\x7d']))
    (hbraces : ∀ c ∈ front ++ behind, isBrace c = true) (hhead : ∀ c ∈ middle.head?, isBrace c = false)
    (hlast : ∀ c ∈ middle.getLast?, isBrace c = false) {data : SlotData} :
    ofText? value = some data ↔ ∃ list, Lists middle list ∧ data = keys list := by
  obtain ⟨hfront, hbehind⟩ := List.forall_mem_append.1 hbraces
  have hcut : Text.dropEndWhile isBrace ((('\x7b' :: front) ++ (middle ++ (behind ++ ['\x7d']))).dropWhile isBrace) =
      middle := by
    refine Text.cut_between (List.forall_mem_cons.2 ⟨by decide, hfront⟩) ?_ hhead hlast
    exact List.forall_mem_append.2 ⟨hbehind, List.forall_mem_singleton.2 rfl⟩
  have hsame : Text.trim value.toList = ('\x7b' :: front) ++ (middle ++ (behind ++ ['\x7d'])) := by
    rw [htext]
    simp
  have hinside : insideBraces (Text.trim value.toList) = Text.trim middle := by
    rw [insideBraces, hsame, hcut]
  have hopens : (Text.trim value.toList).head? = some '\x7b' := by
    rw [htext]
    rfl
  have hcloses : (Text.trim value.toList).getLast? = some '\x7d' := by
    rw [htext, ← List.cons_append, List.getLast?_concat]
  have hsome : (Text.trim value.toList).isEmpty = false := by
    rw [htext]
    rfl
  simp only [ofText?, hsome, hopens, hcloses, hinside, lists_iff, Bool.false_eq_true, if_false, and_self, if_true]
  split_ifs <;> simp [eq_comm]

/-- **Which texts in braces are accepted.** A text in braces is accepted exactly when inside of all its braces stands a
list, and its keys are those of the list; everything else is refused. So the text is accepted exactly when a list stands
between its first brace and its last one, but for a list in further braces, which is accepted although it is none. -/
theorem slot_list_iff (htext : Text.trim value.toList = '\x7b' :: (inside ++ ['\x7d'])) :
    (∀ data, ofText? value = some data ↔ ∃ further list, InFurther further inside list ∧ data = keys list) ∧
    (((ofText? value).isSome = true ↔ ∃ list, Lists inside list) ↔
      ∀ further list, InFurther further inside list → further = []) := by
  have haccepted : ∀ data, ofText? value = some data ↔
      ∃ further list, InFurther further inside list ∧ data = keys list := by
    intro data
    constructor
    · intro h
      obtain ⟨front, middle, behind, rfl, hbraces, hhead, hlast⟩ := Text.exists_between isBrace inside
      obtain ⟨list, hlist, rfl⟩ := (ofText?_braced htext hbraces hhead hlast).1 h
      exact ⟨_, list, ⟨front, middle, behind, rfl, rfl, hbraces, hlist⟩, rfl⟩
    · rintro ⟨further, list, ⟨front, middle, behind, rfl, rfl, hbraces, hlist⟩, rfl⟩
      have hnone := hlist.not_isBrace
      exact (ofText?_braced htext hbraces (fun c hc => hnone c (List.mem_of_mem_head? hc))
        fun c hc => hnone c (List.mem_of_mem_getLast? hc)).2 ⟨list, hlist, rfl⟩
  refine ⟨haccepted, ⟨fun hsame further list hfurther => ?_, fun hnone => ?_⟩⟩
  · -- the text is accepted, so it is a list itself, and no brace is in it
    obtain ⟨list', hlist'⟩ := hsame.1 (Option.isSome_iff_exists.2 ⟨_, (haccepted _).2 ⟨_, _, hfurther, rfl⟩⟩)
    obtain ⟨front, middle, behind, rfl, rfl, hbraces, -⟩ := hfurther
    refine List.eq_nil_iff_forall_not_mem.2 fun c hc => ?_
    have hbrace := hlist'.not_isBrace c (by simp only [List.mem_append] at hc ⊢; tauto)
    rw [hbraces c hc] at hbrace
    cases hbrace
  · rw [Option.isSome_iff_exists]
    constructor
    · rintro ⟨data, h⟩
      obtain ⟨further, list, hfurther, -⟩ := (haccepted data).1 h
      obtain rfl := hnone further list hfurther
      exact ⟨list, inFurther_nil.1 hfurther⟩
    · rintro ⟨list, hlist⟩
      exact ⟨_, (haccepted _).2 ⟨[], list, inFurther_nil.2 hlist, rfl⟩⟩

/-- an empty entry is refused, and a list with one brace more is accepted -/
theorem slot_list_iff_emptyEntry :
    (Text.trim " \x7ba,,b\x7d".toList = '\x7b' :: ("a,,b".toList ++ ['\x7d']) ∧
      ∀ further list, ¬InFurther further "a,,b".toList list) ∧
    (Text.trim "\x7ba: b \x7d\x7d\n".toList = '\x7b' :: ("a: b \x7d".toList ++ ['\x7d']) ∧
      ∃ further list, InFurther further "a: b \x7d".toList list ∧ keys [⟨"a", some "b"⟩] = keys list) := by
  have hrefused : Text.trim " \x7ba,,b\x7d".toList = '\x7b' :: ("a,,b".toList ++ ['\x7d']) := by decide
  have haccepted : Text.trim "\x7ba: b \x7d\x7d\n".toList = '\x7b' :: ("a: b \x7d".toList ++ ['\x7d']) := by decide
  refine ⟨⟨hrefused, fun further list hlist => ?_⟩, haccepted, ((slot_list_iff haccepted).1 _).1 (by decide)⟩
  have hread := ((slot_list_iff hrefused).1 (keys list)).2 ⟨further, list, hlist, rfl⟩
  have hnone : ofText? " \x7ba,,b\x7d" = none := by decide
  cases hnone.symm.trans hread

/-- a list in two pairs of braces is accepted, and what stands in the outer pair is no list -/
theorem further_braces_accepted :
    Text.trim "\x7b\x7bkey\x7d\x7d".toList = '\x7b' :: ("\x7bkey\x7d".toList ++ ['\x7d']) ∧
      ofText? "\x7b\x7bkey\x7d\x7d" = some (keys [⟨"key", none⟩]) ∧ ¬∃ list, Lists "\x7bkey\x7d".toList list := by
  refine ⟨by decide, by decide, fun ⟨list, hlist⟩ => ?_⟩
  exact absurd (hlist.not_isBrace '\x7b' (by decide)) (by decide)

end SlotData

end Templating
