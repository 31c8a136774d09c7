/-
Values without a character of markup.

`Value.Clean c`: no safe text inside the value holds the character `c`. Other texts may: they are escaped on their way
out. The filter `safe` is the only thing in an expression that makes a safe text of another one, and escaping a text
leaves none of the characters of `Text.escaped` in it.

- `free_toHtml`: a clean value is written without the character.
- `eval_clean`: on a clean scope, an expression that does not apply `safe` has a clean value.
-/
import Templating.Expr.Eval
import Templating.Proofs.DictLaws
import Templating.Proofs.Entities
import Templating.Proofs.Outcome
import Templating.Proofs.Reading
import Templating.Proofs.Trimming

namespace Templating

/-! ## Texts -/

namespace Text

/-- the characters that an escaped text does not hold; the others that are escaped stand in the entities themselves -/
def escaped : List Char := ['<', '>', '\'']

/-- the character does not stand in the text -/
def Free (c : Char) (s : String) : Prop :=
  c ∉ s.toList

variable {c : Char}

@[simp] theorem free_empty : Free c "" := by
  simp [Free]

@[simp] theorem free_append {s t : String} : Free c (s ++ t) ↔ Free c s ∧ Free c t := by
  simp [Free]

theorem free_intercalate {sep : String} (hsep : Free c sep) {parts : List String} (h : ∀ part ∈ parts, Free c part) :
    Free c (sep.intercalate parts) := by
  induction parts with
  | nil => simp
  | cons part parts ih =>
    rw [List.forall_mem_cons] at h
    cases parts with
    | nil => simpa using h.1
    | cons next parts =>
      rw [String.intercalate_cons_cons, free_append, free_append]
      exact ⟨⟨h.1, hsep⟩, ih h.2⟩

/-- **Escaping leaves none of the characters.** -/
theorem free_escapeHtml (hc : c ∈ escaped) (s : String) : Free c (escapeHtml s) := by
  have hmarkup : escaped ⊆ markupChars := by simp [escaped, markupChars]
  rw [Free, escapeHtml, String.toList_ofList]
  exact not_mem_escapeChars (hmarkup hc) s.toList

end Text

open Text

/-! ## Values -/

theorem Attributes.free_render {c : Char} (hc : c ∈ escaped) (a : Attributes) : Free c a.render := by
  have hspace : Free c " " ∧ Free c "=\"" ∧ Free c "\"" := by
    simp only [escaped, List.mem_cons, List.not_mem_nil, or_false] at hc
    rcases hc with rfl | rfl | rfl <;> simp [Free]
  refine free_intercalate hspace.1 fun part hpart => ?_
  obtain ⟨⟨key, value⟩, -, rfl⟩ := List.mem_map.1 hpart
  simp only [Attributes.renderItem, free_append]
  exact ⟨⟨⟨free_escapeHtml hc key, hspace.2.1⟩, free_escapeHtml hc value⟩, hspace.2.2⟩

namespace Value

mutual

/-- no safe text in the value holds the character -/
def Clean (c : Char) : Value → Prop
  | safe s => Free c s
  | list items => CleanAll c items
  | map ⟨entries⟩ => CleanEntries c entries
  | _ => True

/-- no safe text in the items holds the character -/
def CleanAll (c : Char) : List Value → Prop
  | [] => True
  | item :: rest => item.Clean c ∧ CleanAll c rest

/-- no safe text in the entries holds the character -/
def CleanEntries (c : Char) : List (String × Value) → Prop
  | [] => True
  | (_, value) :: rest => value.Clean c ∧ CleanEntries c rest

end

end Value

/-- no safe text in the data holds the character -/
def Data.Clean (c : Char) (data : Data) : Prop :=
  ∀ entry ∈ data.entries, entry.2.Clean c

namespace Value

variable {c : Char}

@[simp] theorem clean_null : null.Clean c := trivial

@[simp] theorem clean_bool {b : Bool} : (bool b).Clean c := trivial

@[simp] theorem clean_int {i : Int64} : (int i).Clean c := trivial

@[simp] theorem clean_float {f : Float} : (float f).Clean c := trivial

@[simp] theorem clean_str {s : String} : (str s).Clean c := trivial

@[simp] theorem clean_attrs {a : Attributes} : (attrs a).Clean c := trivial

@[simp] theorem clean_safe {s : String} : (safe s).Clean c ↔ Free c s := Iff.rfl

theorem cleanAll_iff {items : List Value} : CleanAll c items ↔ ∀ v ∈ items, v.Clean c := by
  induction items with
  | nil => simp [CleanAll]
  | cons item rest ih => simp [CleanAll, ih]

theorem cleanEntries_iff {entries : List (String × Value)} :
    CleanEntries c entries ↔ ∀ entry ∈ entries, entry.2.Clean c := by
  induction entries with
  | nil => simp [CleanEntries]
  | cons entry rest ih => simp [CleanEntries, ih]

@[simp] theorem clean_list {items : List Value} : (list items).Clean c ↔ ∀ v ∈ items, v.Clean c :=
  cleanAll_iff

@[simp] theorem clean_map {entries : Dict Value} : (map entries).Clean c ↔ Data.Clean c entries :=
  cleanEntries_iff

/-- **A clean value is written without the character.** -/
theorem free_toHtml (hc : c ∈ escaped) {v : Value} (h : v.Clean c) : Free c v.toHtml := by
  cases v with
  | safe s => exact h
  | attrs a => exact Attributes.free_render hc a
  | _ => exact free_escapeHtml hc _

end Value

/-! ## JSON -/

namespace Value

variable {c : Char}

mutual

theorem clean_ofJson (json : Json) : (ofJson json).Clean c := by
  match json with
  | .null | .bool _ | .float _ | .str _ => trivial
  | .int i =>
    simp only [ofJson]
    split <;> trivial
  | .array items => exact clean_ofJsonAll items
  | .object ⟨members⟩ => exact clean_ofJsonMembers members

theorem clean_ofJsonAll (items : List Json) : CleanAll c (ofJsonAll items) := by
  match items with
  | [] => trivial
  | item :: rest => exact ⟨clean_ofJson item, clean_ofJsonAll rest⟩

theorem clean_ofJsonMembers (members : List (String × Json)) : CleanEntries c (ofJsonMembers members) := by
  match members with
  | [] => trivial
  | (_, member) :: rest => exact ⟨clean_ofJson member, clean_ofJsonMembers rest⟩

end

end Value

/-! ## Data and scopes -/

namespace Data

variable {c : Char} {data : Data}

theorem clean_empty : Clean c .empty := by
  intro entry hentry
  cases hentry

theorem Clean.get (h : Clean c data) {key : String} {v : Value} (hv : data.get? key = some v) : v.Clean c :=
  h _ (Dict.mem_of_lookup hv)

theorem Clean.getD (h : Clean c data) (key : String) : ((data.get? key).getD .null).Clean c := by
  cases hv : data.get? key with
  | none => exact Value.clean_null
  | some v => exact h.get hv

theorem Clean.insert (h : Clean c data) (key : String) {v : Value} (hv : v.Clean c) : Clean c (data.insert key v) := by
  intro entry hentry
  rcases Dict.mem_insertEntry hentry with rfl | hentry
  · exact hv
  · exact h entry hentry

theorem clean_ofList {entries : List (String × Value)} (h : ∀ entry ∈ entries, entry.2.Clean c) :
    Clean c (.ofList entries) := by
  unfold Dict.ofList
  have hempty := clean_empty (c := c)
  generalize (Dict.empty : Data) = start at hempty
  induction entries generalizing start with
  | nil => exact hempty
  | cons entry rest ih =>
    rw [List.forall_mem_cons] at h
    exact ih h.2 _ (hempty.insert entry.1 h.1)

end Data

/-- data that was JSON holds no safe text at all -/
theorem Data.clean_dataOfJson {c : Char} {json : Json} {data : Data} (h : Value.dataOfJson? json = some data) :
    Data.Clean c data := by
  have hclean := Value.clean_ofJson (c := c) json
  unfold Value.dataOfJson? at h
  split at h
  · next entries hjson =>
    cases h
    rw [hjson] at hclean
    exact Value.clean_map.1 hclean
  · cases h
    exact clean_empty
  · cases h

namespace Scope

variable {c : Char} {s : Scope}

/-- no safe text in sight holds the character -/
def Clean (c : Char) (s : Scope) : Prop :=
  ∀ vars ∈ s.locals :: s.outer, Data.Clean c vars

theorem clean_root {vars : Data} (h : Data.Clean c vars) : (root vars).Clean c := by
  simpa [Clean, root] using h

theorem Clean.child (h : s.Clean c) : s.child.Clean c :=
  List.forall_mem_cons.2 ⟨Data.clean_empty, h⟩

theorem Clean.set (h : s.Clean c) (name : String) {v : Value} (hv : v.Clean c) : (s.set name v).Clean c := by
  obtain ⟨hlocals, houter⟩ := List.forall_mem_cons.1 h
  exact List.forall_mem_cons.2 ⟨hlocals.insert name hv, houter⟩

theorem Clean.get (h : s.Clean c) {name : String} {v : Value} (hv : s.get? name = some v) : v.Clean c := by
  obtain ⟨vars, hvars, hget⟩ := List.exists_of_findSome?_eq_some hv
  exact (h vars hvars).get hget

theorem Clean.getD (h : s.Clean c) (name : String) : ((s.get? name).getD .null).Clean c := by
  cases hv : s.get? name with
  | none => exact Value.clean_null
  | some v => exact h.get hv

end Scope

/-! ## Expressions -/

namespace Value

variable {c : Char} {v w : Value}

theorem clean_of_isPlain (h : v.isPlain = true) : v.Clean c := by
  cases v with
  | safe s | list items | map entries => cases h
  | _ => trivial

theorem Clean.member (h : v.Clean c) (key : String) : (v.member key).Clean c := by
  cases v with
  | map entries => exact (clean_map.1 h).getD key
  | attrs a =>
    simp only [Value.member]
    split_ifs <;> trivial
  | list items =>
    simp only [Value.member]
    cases hv : (listIndex? key).bind fun index => items[index]? with
    | none => exact clean_null
    | some v =>
      obtain ⟨index, -, hget⟩ := Option.bind_eq_some_iff.1 hv
      exact clean_list.1 h v (List.mem_of_getElem? hget)
  | _ => exact clean_null

theorem callMethod_clean {method : String} {args : List String} (h : v.callMethod method args = .ok w) : w.Clean c := by
  unfold callMethod at h
  cases v with
  | attrs a =>
    dsimp only at h
    split at h <;> cases h <;> trivial
  | _ => cases h

theorem negate_clean (h : v.negate = .ok w) : w.Clean c := by
  cases v with
  | int i =>
    simp only [negate] at h
    split_ifs at h
    cases h
    trivial
  | float f =>
    cases h
    trivial
  | _ => cases h

theorem filtered_clean (hc : c ∈ escaped) {name : Filter} (hname : name ≠ .safe) (hv : v.Clean c) {arg : Option Value}
    (harg : ∀ w ∈ arg, w.Clean c) : (v.filtered name arg).Clean c := by
  cases name with
  | safe => exact absurd rfl hname
  | escape => exact free_escapeHtml hc _
  | default =>
    unfold filtered
    dsimp only
    split_ifs
    · exact hv
    · cases arg with
      | none => exact clean_null
      | some w => exact harg w rfl
  | _ => trivial

end Value

namespace Expr

/-- the expression is no use of the filter `safe` -/
def isQuiet : Expr → Bool
  | filter name _ _ => name != .safe
  | _ => true

variable {c : Char} {s : Scope}

mutual

theorem eval_free (hc : c ∈ escaped) (hs : s.Clean c) (e : Expr) (hplain : e.Plain) (hquiet : e.all isQuiet = true)
    {v : Value} (h : e.eval s = .ok v) : v.Clean c := by
  match e with
  | literal w =>
    cases h
    exact Value.clean_of_isPlain hplain
  | var name =>
    cases h
    exact hs.getD name
  | member target key =>
    simp only [all, Bool.and_eq_true] at hquiet
    obtain ⟨w, hw, h⟩ := bind_eq_ok.1 h
    cases h
    exact (eval_free hc hs target (plain_member.1 hplain) hquiet.2 hw).member key
  | index target key =>
    simp only [all, Bool.and_eq_true] at hquiet
    obtain ⟨w, hw, h⟩ := bind_eq_ok.1 h
    obtain ⟨k, -, h⟩ := bind_eq_ok.1 h
    cases h
    exact (eval_free hc hs target (plain_index.1 hplain).1 hquiet.1.2 hw).member k.text
  | call target method args =>
    obtain ⟨w, -, h⟩ := bind_eq_ok.1 h
    obtain ⟨values, -, h⟩ := bind_eq_ok.1 h
    exact Value.callMethod_clean h
  | list items =>
    simp only [all, Bool.and_eq_true] at hquiet
    obtain ⟨values, hvalues, h⟩ := bind_eq_ok.1 h
    cases h
    exact Value.clean_list.2 (evalAll_free hc hs items (plain_list.1 hplain) hquiet.2 hvalues)
  | neg e =>
    obtain ⟨w, -, h⟩ := bind_eq_ok.1 h
    exact Value.negate_clean h
  | not e =>
    obtain ⟨w, -, h⟩ := bind_eq_ok.1 h
    cases h
    exact Value.clean_bool
  | compare op left right =>
    obtain ⟨a, -, h⟩ := bind_eq_ok.1 h
    obtain ⟨b, -, h⟩ := bind_eq_ok.1 h
    obtain ⟨outcome, -, h⟩ := bind_eq_ok.1 h
    cases h
    exact Value.clean_bool
  | and left right =>
    simp only [all, Bool.and_eq_true] at hquiet
    obtain ⟨w, hw, h⟩ := bind_eq_ok.1 h
    split_ifs at h
    · exact eval_free hc hs right (plain_and.1 hplain).2 hquiet.2 h
    · cases h
      exact eval_free hc hs left (plain_and.1 hplain).1 hquiet.1.2 hw
  | or left right =>
    simp only [all, Bool.and_eq_true] at hquiet
    obtain ⟨w, hw, h⟩ := bind_eq_ok.1 h
    split_ifs at h
    · cases h
      exact eval_free hc hs left (plain_or.1 hplain).1 hquiet.1.2 hw
    · exact eval_free hc hs right (plain_or.1 hplain).2 hquiet.2 h
  | filter name e none =>
    simp only [all, Bool.and_eq_true, isQuiet, bne_iff_ne] at hquiet
    obtain ⟨w, hw, h⟩ := bind_eq_ok.1 h
    cases h
    exact Value.filtered_clean hc hquiet.1 (eval_free hc hs e (plain_filter_none.1 hplain) hquiet.2 hw) (by simp)
  | filter name e (some arg) =>
    simp only [all, Bool.and_eq_true, isQuiet, bne_iff_ne] at hquiet
    obtain ⟨w, hw, h⟩ := bind_eq_ok.1 h
    obtain ⟨b, hb, h⟩ := bind_eq_ok.1 h
    cases h
    have hbclean := eval_free hc hs arg (plain_filter_some.1 hplain).2 hquiet.2 hb
    exact Value.filtered_clean hc hquiet.1.1 (eval_free hc hs e (plain_filter_some.1 hplain).1 hquiet.1.2 hw)
      (by simpa using hbclean)

theorem evalAll_free (hc : c ∈ escaped) (hs : s.Clean c) (items : List Expr) (hplain : PlainItems items)
    (hquiet : allItems isQuiet items = true) {values : List Value} (h : evalAll s items = .ok values) :
    ∀ v ∈ values, v.Clean c := by
  match items with
  | [] =>
    cases h
    simp
  | e :: rest =>
    simp only [allItems, Bool.and_eq_true] at hquiet
    rw [plainItems_cons] at hplain
    obtain ⟨v, hv, h⟩ := bind_eq_ok.1 h
    obtain ⟨rest', hrest, h⟩ := bind_eq_ok.1 h
    cases h
    exact List.forall_mem_cons.2
      ⟨eval_free hc hs e hplain.1 hquiet.1 hv, evalAll_free hc hs rest hplain.2 hquiet.2 hrest⟩

end

/-- every value of the expression on a clean scope is clean -/
def Clean (c : Char) (e : Expr) : Prop :=
  ∀ s v, s.Clean c → e.eval s = .ok v → v.Clean c

/-- **An expression that does not apply `safe`** has clean values on clean scopes. -/
theorem eval_clean (hc : c ∈ escaped) {e : Expr} (hplain : e.Plain) (hquiet : e.all isQuiet = true) : e.Clean c :=
  fun _ _ hs h => eval_free hc hs e hplain hquiet h

end Expr

end Templating
