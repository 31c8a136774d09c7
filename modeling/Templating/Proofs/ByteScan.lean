/-
The end of a region, looked for from byte to byte.

A source is bytes, and its characters are one to four of them. The search for the end of a region may go over the bytes
one by one (`findClose`), where a backslash in quotes hides the byte behind it, and not the character. That makes no
difference: everything that the search knows is a single byte below 128, while a longer character has no byte below 128
(`utf8EncodeChar_eq_cons`), so the search passes over the bytes that are left of it, whether its first byte is hidden or
not (`findClose_parts`).

- `findClose_bytesOf`: the bytes in front of the end of a region are those of the text that `cutClose?` cuts off there.
-/
import Templating.Proofs.QuoteScan

namespace Templating.Template

/-! ## Bytes of characters -/

/-- the character is a single byte -/
def IsSingle (c : Char) : Prop :=
  c.val ≤ 127

instance (c : Char) : Decidable (IsSingle c) :=
  inferInstanceAs (Decidable (c.val ≤ 127))

/-- the bytes of a text -/
def bytesOf (text : List Char) : List UInt8 :=
  text.flatMap String.utf8EncodeChar

/-- the byte is part of a longer character -/
def IsPart (b : UInt8) : Prop :=
  128 ≤ b.toNat

theorem toUInt8_toNat {m : Char} (hm : IsSingle m) : m.toUInt8.toNat = m.toNat := by
  have hle : m.toNat ≤ 127 := UInt32.le_iff_toNat_le.1 hm
  have hbyte : m.toUInt8.toNat = m.toNat % 256 := UInt32.toNat_toUInt8 m.val
  omega

theorem IsPart.ne {b : UInt8} (h : IsPart b) {m : Char} (hm : IsSingle m) : b ≠ m.toUInt8 := by
  rintro rfl
  have hle : m.toNat ≤ 127 := UInt32.le_iff_toNat_le.1 hm
  rw [IsPart, toUInt8_toNat hm] at h
  omega

theorem isPart_ofNat {n : Nat} (hle : 128 ≤ n) (hlt : n < 256) : IsPart (UInt8.ofNat n) := by
  rwa [IsPart, UInt8.toNat_ofNat', Nat.mod_eq_of_lt hlt]

/-- a longer character has no byte that is a character -/
theorem isPart_of_longer {c : Char} (hc : ¬IsSingle c) : ∀ b ∈ String.utf8EncodeChar c, IsPart b := by
  have hlong : ¬c.val.toNat ≤ 127 := fun hle => hc (UInt32.le_iff_toNat_le.2 hle)
  unfold String.utf8EncodeChar
  dsimp only
  rw [if_neg hlong]
  split_ifs
  all_goals
    simp only [List.forall_mem_cons, List.not_mem_nil, false_imp_iff, implies_true, and_true]
  · exact ⟨isPart_ofNat (by omega) (by omega), isPart_ofNat (by omega) (by omega)⟩
  · exact ⟨isPart_ofNat (by omega) (by omega), isPart_ofNat (by omega) (by omega), isPart_ofNat (by omega) (by omega)⟩
  · exact ⟨isPart_ofNat (by omega) (by omega), isPart_ofNat (by omega) (by omega), isPart_ofNat (by omega) (by omega),
      isPart_ofNat (by omega) (by omega)⟩

theorem utf8EncodeChar_single {m : Char} (hm : IsSingle m) : String.utf8EncodeChar m = [m.toUInt8] :=
  String.utf8EncodeChar_eq_singleton (Char.utf8Size_eq_one_iff.2 hm)

/-- a character has a first byte, which is a given single byte exactly when the character is, and its other bytes, of
which a single byte has none, are parts -/
theorem utf8EncodeChar_eq_cons (c : Char) :
    ∃ b parts, String.utf8EncodeChar c = b :: parts ∧ (∀ m, IsSingle m → (b = m.toUInt8 ↔ c = m)) ∧
      (∀ part ∈ parts, IsPart part) ∧ (IsSingle c → parts = []) := by
  by_cases hc : IsSingle c
  · refine ⟨c.toUInt8, [], utf8EncodeChar_single hc, fun m hm => ?_, by simp, fun _ => rfl⟩
    refine ⟨fun heq => Char.ext (UInt32.toNat_inj.1 ?_), fun heq => by rw [heq]⟩
    have hnat := congrArg UInt8.toNat heq
    rwa [toUInt8_toNat hc, toUInt8_toNat hm] at hnat
  · have hparts := isPart_of_longer hc
    have hlength := String.length_utf8EncodeChar c
    rcases hbytes : String.utf8EncodeChar c with _ | ⟨b, parts⟩ <;> rw [hbytes] at hparts hlength
    · exact absurd hlength (Nat.ne_of_lt c.utf8Size_pos)
    · obtain ⟨hb, hparts⟩ := List.forall_mem_cons.1 hparts
      refine ⟨b, parts, rfl, fun m hm => iff_of_false (hb.ne hm) ?_, hparts, fun hsingle => absurd hsingle hc⟩
      rintro rfl
      exact hc hm

/-! ## The search -/

/-- how many bytes are in front of the first `close` and brace outside quoted texts; `quote` is the quotation mark that
is open -/
def findClose (close : UInt8) (quote : Option UInt8) : List UInt8 → Option Nat
  | [] => none
  | [_] => none
  | b :: d :: rest =>
    match quote with
    | some q =>
      if b = '\\'.toUInt8 then (findClose close quote rest).map (· + 2)
      else (findClose close (if b = q then none else quote) (d :: rest)).map (· + 1)
    | none =>
      if b = close ∧ d = '\x7d'.toUInt8 then some 0
      else
        (findClose close (if b = '"'.toUInt8 ∨ b = '\''.toUInt8 then some b else none) (d :: rest)).map (· + 1)

section

variable (close q b : UInt8) (bytes : List UInt8)

theorem findClose_inside : findClose close (some q) (b :: bytes) =
    if b = '\\'.toUInt8 then (findClose close (some q) bytes.tail).map (· + 2)
    else (findClose close (if b = q then none else some q) bytes).map (· + 1) := by
  cases bytes <;> simp [findClose]

theorem findClose_outside : findClose close none (b :: bytes) =
    if b = close ∧ bytes.head? = some '\x7d'.toUInt8 then some 0
    else (findClose close (if b = '"'.toUInt8 ∨ b = '\''.toUInt8 then some b else none) bytes).map (· + 1) := by
  cases bytes <;> simp [findClose]

end

variable {close : Char} {quote : Option Char} {bytes parts : List UInt8}

/-- the search passes over what is left of a character -/
theorem findClose_parts (hclose : IsSingle close) (hquote : ∀ q ∈ quote, IsSingle q) (hparts : ∀ b ∈ parts, IsPart b) :
    findClose close.toUInt8 (quote.map Char.toUInt8) (parts ++ bytes) =
      (findClose close.toUInt8 (quote.map Char.toUInt8) bytes).map (· + parts.length) := by
  induction parts with
  | nil => simp
  | cons b parts ih =>
    obtain ⟨hb, hparts⟩ := List.forall_mem_cons.1 hparts
    have hnext : findClose close.toUInt8 (quote.map Char.toUInt8) (b :: (parts ++ bytes)) =
        (findClose close.toUInt8 (quote.map Char.toUInt8) (parts ++ bytes)).map (· + 1) := by
      cases quote with
      | none =>
        rw [Option.map_none, findClose_outside, if_neg fun h => hb.ne hclose h.1,
          if_neg (not_or.2 ⟨hb.ne (by decide), hb.ne (by decide)⟩)]
      | some q =>
        rw [Option.map_some, findClose_inside, if_neg (hb.ne (by decide)), if_neg (hb.ne (hquote q rfl))]
    rw [List.cons_append, hnext, ih hparts, Option.map_map, List.length_cons]
    rfl

theorem bytesOf_cons (c : Char) (text : List Char) : bytesOf (c :: text) = String.utf8EncodeChar c ++ bytesOf text :=
  List.flatMap_cons

theorem head?_bytesOf {m : Char} (hm : IsSingle m) (text : List Char) :
    (bytesOf text).head? = some m.toUInt8 ↔ text.head? = some m := by
  cases text with
  | nil => simp [bytesOf]
  | cons c text =>
    obtain ⟨b, parts, hbytes, hb, -, -⟩ := utf8EncodeChar_eq_cons c
    rw [bytesOf_cons, hbytes, List.cons_append, List.head?_cons, List.head?_cons, Option.some_inj, Option.some_inj,
      hb m hm]

/-! ## One character -/

/-- how many bytes are in front of the end of a region that is cut off -/
def cutLength (cut : List Char × List Char) : Nat :=
  (bytesOf cut.1).length

/-- the cut with one more character in front -/
def consCut (c : Char) (cut : List Char × List Char) : List Char × List Char :=
  (c :: cut.1, cut.2)

section

variable {c : Char} {text : List Char} {cut? : Option (List Char × List Char)}

/-- behind the first byte of a character the search passes over the others -/
theorem findClose_behind (hclose : IsSingle close) (hquote : ∀ q ∈ quote, IsSingle q)
    (hbehind : findClose close.toUInt8 (quote.map Char.toUInt8) (bytesOf text) = cut?.map cutLength) {b : UInt8}
    (hbytes : String.utf8EncodeChar c = b :: parts) (hparts : ∀ part ∈ parts, IsPart part) :
    (findClose close.toUInt8 (quote.map Char.toUInt8) (parts ++ bytesOf text)).map (· + 1) =
      (cut?.map (consCut c)).map cutLength := by
  rw [findClose_parts hclose hquote hparts, hbehind]
  cases cut? with
  | none => rfl
  | some cut =>
    simp only [Option.map_some, Option.some_inj, cutLength, consCut, bytesOf_cons, hbytes, List.length_append,
      List.length_cons]
    omega

/-- what is open behind a character in quotes is a single byte -/
theorem single_inside {q : Char} (hq : IsSingle q) : ∀ m ∈ (if c = q then none else some q), IsSingle m := by
  intro m hm
  split_ifs at hm <;> cases hm
  exact hq

/-- so is what is open behind a character outside of quotes -/
theorem single_outside : ∀ m ∈ (if c = '"' ∨ c = '\'' then some c else none), IsSingle m := by
  intro m hm
  split_ifs at hm with hmark <;> cases hm
  rcases hmark with rfl | rfl <;> decide

/-- a character in quotes that hides nothing -/
theorem findClose_cons_inside (hclose : IsSingle close) {q : Char} (hq : IsSingle q) (hc : c ≠ '\\')
    (hbehind : findClose close.toUInt8 ((if c = q then none else some q).map Char.toUInt8) (bytesOf text) =
      cut?.map cutLength) :
    findClose close.toUInt8 (some q.toUInt8) (bytesOf (c :: text)) = (cut?.map (consCut c)).map cutLength := by
  obtain ⟨b, parts, hbytes, hb, hparts, -⟩ := utf8EncodeChar_eq_cons c
  have hslash : b ≠ '\\'.toUInt8 := fun heq => hc ((hb '\\' (by decide)).1 heq)
  have hopen : (if b = q.toUInt8 then none else some q.toUInt8) =
      (if c = q then none else some q).map Char.toUInt8 := by
    simp only [hb q hq]
    split_ifs <;> rfl
  rw [bytesOf_cons, hbytes, List.cons_append, findClose_inside, if_neg hslash, hopen]
  exact findClose_behind hclose (single_inside hq) hbehind hbytes hparts

/-- a character outside of quotes where the region does not end -/
theorem findClose_cons_outside (hclose : IsSingle close) (hend : ¬(c = close ∧ text.head? = some '\x7d'))
    (hbehind : findClose close.toUInt8 ((if c = '"' ∨ c = '\'' then some c else none).map Char.toUInt8)
      (bytesOf text) = cut?.map cutLength) :
    findClose close.toUInt8 none (bytesOf (c :: text)) = (cut?.map (consCut c)).map cutLength := by
  obtain ⟨b, parts, hbytes, hb, hparts, hnone⟩ := utf8EncodeChar_eq_cons c
  have hend : ¬(b = close.toUInt8 ∧ (parts ++ bytesOf text).head? = some '\x7d'.toUInt8) := by
    rintro ⟨hfirst, hhead⟩
    obtain rfl := (hb close hclose).1 hfirst
    rw [hnone hclose, List.nil_append, head?_bytesOf (by decide)] at hhead
    exact hend ⟨rfl, hhead⟩
  have hdouble := hb '"' (by decide)
  have hsingle := hb '\'' (by decide)
  have hopen : (if b = '"'.toUInt8 ∨ b = '\''.toUInt8 then some b else none) =
      (if c = '"' ∨ c = '\'' then some c else none).map Char.toUInt8 := by
    simp only [hdouble, hsingle]
    split_ifs with hmark
    · rcases hmark with rfl | rfl
      · rw [hdouble.2 rfl, Option.map_some]
      · rw [hsingle.2 rfl, Option.map_some]
    · rfl
  rw [bytesOf_cons, hbytes, List.cons_append, findClose_outside, if_neg hend, hopen]
  exact findClose_behind hclose single_outside hbehind hbytes hparts

/-- a backslash in quotes hides the first byte of the character behind it -/
theorem findClose_hidden (hclose : IsSingle close) {q d : Char} (hq : IsSingle q)
    (hbehind : findClose close.toUInt8 (some q.toUInt8) (bytesOf text) = cut?.map cutLength) :
    findClose close.toUInt8 (some q.toUInt8) (bytesOf ('\\' :: d :: text)) =
      (cut?.map (consCut '\\' ∘ consCut d)).map cutLength := by
  obtain ⟨b, parts, hbytes, -, hparts, -⟩ := utf8EncodeChar_eq_cons d
  have hsingle : ∀ m ∈ some q, IsSingle m := by simpa using hq
  have hrest : findClose close.toUInt8 (some q.toUInt8) (parts ++ bytesOf text) = _ :=
    findClose_parts hclose hsingle hparts
  have hslash := utf8EncodeChar_single (m := '\\') (by decide)
  rw [Option.map_some, hbehind] at hrest
  rw [bytesOf_cons, bytesOf_cons, hslash, hbytes, List.cons_append, List.cons_append, List.nil_append,
    findClose_inside, if_pos rfl, List.tail_cons, hrest]
  cases cut? with
  | none => rfl
  | some cut =>
    simp only [Option.map_some, Option.some_inj, Function.comp_apply, cutLength, consCut, bytesOf_cons, hslash, hbytes,
      List.length_append, List.length_cons, List.length_nil]
    omega

end

/-! ## Whole texts -/

/-- **From byte to byte** the search finds the end of the region that it finds from character to character: the bytes in
front of it are those of the text in front of it. -/
theorem findClose_bytesOf (hclose : IsSingle close) (hquote : ∀ q ∈ quote, IsSingle q) (text : List Char) :
    findClose close.toUInt8 (quote.map Char.toUInt8) (bytesOf text) = (cutClose? close quote text).map cutLength := by
  fun_induction cutClose? close quote text with
  | case1 => rfl
  | case2 quote c =>
    have hnothing : ∀ quote : Option Char, findClose close.toUInt8 (quote.map Char.toUInt8) (bytesOf []) =
        (none : Option (List Char × List Char)).map cutLength := fun _ => rfl
    cases quote with
    | none => exact findClose_cons_outside hclose (by simp) (hnothing _)
    | some q =>
      by_cases hc : c = '\\'
      · subst hc
        rfl
      · exact findClose_cons_inside hclose (hquote q rfl) hc (hnothing _)
  | case3 d rest q ih => exact findClose_hidden hclose (hquote q rfl) (ih hquote)
  | case4 c d rest q hc ih =>
    have hq := hquote q rfl
    exact findClose_cons_inside hclose hq hc (ih (single_inside hq))
  | case5 c d rest hend =>
    obtain ⟨rfl, rfl⟩ := hend
    rw [bytesOf_cons, bytesOf_cons, utf8EncodeChar_single hclose, utf8EncodeChar_single (by decide),
      List.singleton_append, List.singleton_append, Option.map_none, findClose_outside, if_pos ⟨rfl, rfl⟩]
    rfl
  | case6 c d rest hend ih =>
    have hgoes : ¬(c = close ∧ (d :: rest).head? = some '\x7d') := fun h => hend ⟨h.1, Option.some.inj h.2⟩
    exact findClose_cons_outside hclose hgoes (ih single_outside)

example : findClose '%'.toUInt8 none (bytesOf "\"\\é%\x7d\" %\x7d".toList) = some 8 := by decide +kernel

end Templating.Template
