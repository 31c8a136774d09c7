/-
The regions of a source, piece by piece.

Whether a region starts at a place, and where it ends, is decided by the text of the region alone: the same text is the
same region wherever it stands and whatever follows (`IsRegion`), only its position is another. So a source is read
from the front, one piece after the other (`Scan`): a character of plain text, or the whole text of a region.

- `regionsAfter_eq_ok_iff`: the regions of a text are what such a reading gives.
- `exists_piece`: a region that is found is found in the same text everywhere.
- `Scan.found`: every region but a text stands somewhere in the source, and starts at its position.
- `Outside.regions`: up to a place outside of all regions, the regions do not depend on what follows.
-/
import Templating.Proofs.QuoteScan

namespace Templating.Template

/-- the region at another place -/
def Region.placed (position : Position) : Region → Region
  | .output _ inner marks => .output position inner marks
  | .tag _ name args marks => .tag position name args marks
  | region => region

/-- the region is plain text -/
def Region.isText : Region → Bool
  | .text _ => true
  | _ => false

@[simp] theorem Region.placed_placed (p q : Position) (region : Region) :
    (region.placed p).placed q = region.placed q := by
  cases region <;> rfl

@[simp] theorem Region.isText_placed (p : Position) (region : Region) : (region.placed p).isText = region.isText := by
  cases region <;> rfl

variable {position : Position} {c : Char} {region : Region} {text piece rest left : List Char} {all : List Region}

/-! ## the text of a region -/

/-- the body of a verbatim region and the tag that ends it, in front of what follows -/
def verbatimRest (body inner left : List Char) : List Char :=
  body ++ '\x7b' :: '%' :: (inner ++ '%' :: '\x7d' :: left)

/-- a body that goes on behind a brace looks for the end in what is there of it -/
theorem cutAt?_verbatimRest {body inner found more : List Char}
    (h : Text.cutAt? ['%', '\x7d'] (verbatimRest body inner left) = some (found, more)) (left' : List Char) :
    ∃ more', Text.cutAt? ['%', '\x7d'] (verbatimRest body inner left') = some (found, more') := by
  have hsplit : ∀ behind, verbatimRest body inner behind =
      (body ++ '\x7b' :: '%' :: inner) ++ ['%', '\x7d'] ++ behind := by
    intro behind
    simp [verbatimRest]
  have hsome := Text.cutAt?_isSome ['%', '\x7d'] (body ++ '\x7b' :: '%' :: inner) []
  obtain ⟨⟨found', more'⟩, hcut⟩ := Option.isSome_iff_exists.1 hsome
  rw [List.append_nil] at hcut
  have hleft := Text.cutAt?_append hcut left
  rw [← hsplit, h] at hleft
  obtain ⟨rfl, -⟩ := Prod.mk.inj (Option.some.inj hleft)
  exact ⟨more' ++ left', by rw [hsplit, Text.cutAt?_append hcut left']⟩

/-- no character of a tag name is a quotation mark or ends a tag -/
theorem unquoted_of_isTagNameChar {c : Char} (h : isTagNameChar c = true) : Quotes.Unquoted c ∧ c ≠ '%' := by
  refine ⟨⟨?_, ?_, ?_⟩, ?_⟩ <;>
  · rintro rfl
    exact absurd h (by decide)

/-- a tag that starts no verbatim region -/
theorem readTag_named {inner unmarked name args : List Char} {marks : Marks}
    (hmarks : splitMarks inner = (unmarked, marks)) (hsplit : splitTag unmarked = (name, args))
    (hname : name.isEmpty = false ∧ name ≠ verbatimName) (position : Position) (left : List Char) :
    readTag position inner left = .ok (.tag position name args marks, left) := by
  simp only [readTag, hmarks, hsplit, hname.1, hname.2, Bool.false_eq_true, if_false]

/-- **A verbatim region** ends where it ends, whatever follows. -/
theorem cutVerbatim?_piece {body : List Char} {marks : Marks} (h : cutVerbatim? text = some (body, marks, left)) :
    ∃ inner, text = verbatimRest body inner left ∧
      ∀ left', cutVerbatim? (verbatimRest body inner left') = some (body, marks, left') := by
  fun_induction cutVerbatim? text generalizing body with
  | case1 => cases h
  | case2 => cases h
  | case3 c rest inside hinside inner left' hcut inner' marks' hmarks hends =>
    cases h
    refine ⟨inner, ?_, fun left' => ?_⟩
    · rw [← Text.afterMark?_eq_some.1 hinside, Text.cutAt?_eq_some hcut]
      simp [verbatimRest]
    · have hfront := Text.cutAt?_front hcut left'
      rw [List.append_assoc] at hfront
      have hmark : Text.afterMark? ['\x7b', '%'] (verbatimRest [] inner left') =
          some (inner ++ (['%', '\x7d'] ++ left')) := Text.afterMark?_eq_some.2 rfl
      rw [verbatimRest, List.nil_append] at hmark ⊢
      rw [cutVerbatim?, hmark]
      dsimp only
      rw [hfront]
      simp only [hmarks, hends, if_true]
  | case4 c rest inside hinside inner left' hcut inner' marks' hmarks hends ih =>
    obtain ⟨⟨body', marks'', left''⟩, hbehind, h⟩ := Option.map_eq_some_iff.1 h
    cases h
    obtain ⟨last, hrest, hall⟩ := ih hbehind
    refine ⟨last, by rw [hrest]; rfl, fun left' => ?_⟩
    obtain ⟨rfl, htag⟩ := List.cons.inj (Text.afterMark?_eq_some.1 hinside)
    rw [hrest] at htag
    cases body' with
    | nil => exact absurd (List.cons.inj htag).1 (by decide)
    | cons d body' =>
      obtain ⟨rfl, rfl⟩ := List.cons.inj htag
      obtain ⟨more', hcut'⟩ := cutAt?_verbatimRest hcut left'
      have hmark : Text.afterMark? ['\x7b', '%'] ('\x7b' :: verbatimRest ('%' :: body') last left') =
          some (verbatimRest body' last left') := Text.afterMark?_eq_some.2 rfl
      rw [show verbatimRest ('\x7b' :: '%' :: body') last left' =
        '\x7b' :: verbatimRest ('%' :: body') last left' from rfl, cutVerbatim?, hmark]
      dsimp only
      rw [hcut']
      simp only [hmarks, hends, if_false, hall left', Option.map_some]
  | case5 c rest hnone ih =>
    obtain ⟨⟨body', marks'', left''⟩, hbehind, h⟩ := Option.map_eq_some_iff.1 h
    cases h
    obtain ⟨last, hrest, hall⟩ := ih hbehind
    refine ⟨last, by rw [hrest]; rfl, fun left' => ?_⟩
    have hmark : Text.afterMark? ['\x7b', '%'] (c :: verbatimRest body' last left') = none := by
      rw [hrest] at hnone
      cases body' with
      | nil => simp [verbatimRest, Text.afterMark?]
      | cons d body' => simpa [verbatimRest, Text.afterMark?] using hnone
    rw [show verbatimRest (c :: body') last left' = c :: verbatimRest body' last left' from rfl, cutVerbatim?, hmark]
    dsimp only
    rw [hall left', Option.map_some]

/-- the text is this region wherever it stands and whatever follows -/
def IsRegion (piece : List Char) (region : Region) : Prop :=
  ∀ position left, regionAt? position (piece ++ left) = some (.ok (region.placed position, left))

theorem IsRegion.ne_nil (h : IsRegion piece region) : piece ≠ [] := by
  rintro rfl
  cases h .start []

theorem isRegion_comment (h : Text.cutAt? ['#', '\x7d'] text = some (piece, left)) :
    IsRegion ('\x7b' :: '#' :: (piece ++ ['#', '\x7d'])) .comment := by
  intro position behind
  have hcut := Text.cutAt?_front h behind
  rw [List.cons_append, List.cons_append, regionAt?, Delimiter.ofChar?, Option.map_some, readRegion, hcut]
  rfl

theorem isRegion_output {inner : List Char} (h : Quotes.outside.Closes '\x7d' inner) (position : Position) :
    IsRegion ('\x7b' :: '\x7b' :: (inner ++ ['\x7d', '\x7d']))
      (.output position (Text.trim (splitMarks inner).1) (splitMarks inner).2) := by
  intro position' behind
  have hcut : cutClose? '\x7d' none (inner ++ ['\x7d', '\x7d'] ++ behind) = some (inner, behind) :=
    cutClose?_eq_some_iff.2 ⟨by simp, h⟩
  rw [List.cons_append, List.cons_append, regionAt?, Delimiter.ofChar?, Option.map_some, readRegion, hcut]
  rfl

theorem isRegion_tag {inner : List Char} (h : Quotes.outside.Closes '%' inner)
    (hread : ∀ position left, readTag position inner (rest ++ left) = .ok (region.placed position, left)) :
    IsRegion ('\x7b' :: '%' :: (inner ++ ['%', '\x7d'] ++ rest)) region := by
  intro position' behind
  have hcut : cutClose? '%' none (inner ++ ['%', '\x7d'] ++ rest ++ behind) = some (inner, rest ++ behind) :=
    cutClose?_eq_some_iff.2 ⟨by simp, h⟩
  rw [List.cons_append, List.cons_append, regionAt?, Delimiter.ofChar?, Option.map_some, readRegion, hcut]
  dsimp only
  rw [hread]

/-- what is read of a tag and what it encloses does not depend on what follows -/
theorem readTag_piece {inner : List Char} (h : readTag position inner text = .ok (region, left)) :
    ∃ rest, text = rest ++ left ∧ region.placed position = region ∧ region.isText = false ∧
      ∀ position' left', readTag position' inner (rest ++ left') = .ok (region.placed position', left') := by
  unfold readTag at h
  dsimp only at h
  split_ifs at h with hempty hname
  · cases hcut : cutVerbatim? text with
    | none =>
      rw [hcut] at h
      cases h
    | some cut =>
      obtain ⟨body, closing, left'⟩ := cut
      rw [hcut] at h
      cases h
      obtain ⟨last, hsplit, hall⟩ := cutVerbatim?_piece hcut
      refine ⟨body ++ '\x7b' :: '%' :: (last ++ ['%', '\x7d']), by rw [hsplit]; simp [verbatimRest], rfl, rfl, ?_⟩
      intro position' left'
      have hrest := hall left'
      have hsame : body ++ '\x7b' :: '%' :: (last ++ ['%', '\x7d']) ++ left' = verbatimRest body last left' := by
        simp [verbatimRest]
      have hnamed : verbatimName.isEmpty = false := by decide
      simp only [readTag, hname, hnamed, Bool.false_eq_true, if_false, if_true, hsame, hrest, Region.placed]
  · cases h
    refine ⟨[], rfl, rfl, rfl, fun position' left' => ?_⟩
    simp [readTag, hempty, hname, Region.placed]

theorem ofChar?_cases {d : Char} {delimiter : Delimiter} (h : Delimiter.ofChar? d = some delimiter) :
    (d = '\x7b' ∧ delimiter = .output) ∨ (d = '%' ∧ delimiter = .tag) ∨ (d = '#' ∧ delimiter = .comment) := by
  unfold Delimiter.ofChar? at h
  split at h <;> cases h <;> simp

/-- **A region that is found** is the same region wherever its text stands. -/
theorem exists_piece (h : regionAt? position text = some (.ok (region, left))) :
    ∃ piece, text = piece ++ left ∧ IsRegion piece region ∧ region.placed position = region ∧
      region.isText = false := by
  unfold regionAt? at h
  split at h
  · next d body =>
    obtain ⟨delimiter, hdelimiter, h⟩ := Option.map_eq_some_iff.1 h
    unfold readRegion at h
    rcases ofChar?_cases hdelimiter with ⟨rfl, rfl⟩ | ⟨rfl, rfl⟩ | ⟨rfl, rfl⟩
    · cases hcut : cutClose? '\x7d' none body with
      | none =>
        rw [hcut] at h
        cases h
      | some cut =>
        obtain ⟨inner, left'⟩ := cut
        rw [hcut] at h
        cases h
        obtain ⟨hsplit, hcloses⟩ := cutClose?_eq_some_iff.1 hcut
        exact ⟨_, by rw [hsplit]; simp, isRegion_output hcloses position, rfl, rfl⟩
    · cases hcut : cutClose? '%' none body with
      | none =>
        rw [hcut] at h
        cases h
      | some cut =>
        obtain ⟨inner, behind⟩ := cut
        rw [hcut] at h
        obtain ⟨hsplit, hcloses⟩ := cutClose?_eq_some_iff.1 hcut
        obtain ⟨rest, hrest, hplaced, htext, hall⟩ := readTag_piece h
        exact ⟨_, by rw [hsplit, hrest]; simp, isRegion_tag hcloses hall, hplaced, htext⟩
    · cases hcut : Text.cutAt? ['#', '\x7d'] body with
      | none =>
        rw [hcut] at h
        cases h
      | some cut =>
        obtain ⟨inner, left'⟩ := cut
        rw [hcut] at h
        cases h
        exact ⟨_, by rw [Text.cutAt?_eq_some hcut]; simp, isRegion_comment hcut, rfl, rfl⟩
  · cases h

/-- whether a region starts is decided by two characters -/
theorem regionAt?_eq_none_iff :
    regionAt? position text = none ↔ ∀ d body, text = '\x7b' :: d :: body → Delimiter.ofChar? d = none := by
  unfold regionAt?
  split
  · next d body =>
    rw [Option.map_eq_none_iff]
    constructor
    · intro hnone d' body' htext
      cases htext
      exact hnone
    · intro hnone
      exact hnone d body rfl
  · next hother =>
    refine ⟨fun _ d body htext => absurd htext (hother d body), fun _ => rfl⟩

/-! ## reading on -/

theorem regionsAfter_drop (skip : Nat) (position : Position) (text : List Char) :
    regionsAfter skip position text = regionsAfter 0 (position.after (text.take skip)) (text.drop skip) := by
  induction text generalizing skip position with
  | nil => cases skip <;> rfl
  | cons c text ih =>
    cases skip with
    | zero => rfl
    | succ skip => exact ih skip (position.advance c)

/-- a character at which no region starts is text -/
theorem regionsAfter_char (h : regionAt? position (c :: rest) = none) :
    regionsAfter 0 position (c :: rest) = (regionsAfter 0 (position.advance c) rest).map (consText c) := by
  rw [regionsAfter, h]

/-- no opening delimiter is in the text -/
def NoOpening (text : List Char) : Prop :=
  ∀ front d back, text = front ++ '\x7b' :: d :: back → d ∉ ['\x7b', '%', '#']

theorem NoOpening.tail (h : NoOpening (c :: text)) : NoOpening text :=
  fun front d back hsplit => h (c :: front) d back (by rw [hsplit, List.cons_append])

/-- a text without an opening delimiter, when none starts at its end either -/
theorem regionsAfter_text (h : NoOpening text) (hlast : text.getLast? ≠ some '\x7b' ∨ rest = [])
    (position : Position) : regionsAfter 0 position (text ++ rest) =
      (regionsAfter 0 (position.after text) rest).map fun all => text.foldr consText all := by
  induction text generalizing position with
  | nil =>
    rw [List.nil_append, Position.after_nil]
    cases regionsAfter 0 position rest <;> rfl
  | cons c text ih =>
    have htail : text.getLast? ≠ some '\x7b' ∨ rest = [] := by
      refine hlast.imp_left fun hlast => ?_
      cases text with
      | nil => simp
      | cons d text => rwa [List.getLast?_cons_cons] at hlast
    have hnone : regionAt? position (c :: (text ++ rest)) = none := by
      rw [regionAt?_eq_none_iff]
      intro d body hsplit
      obtain ⟨rfl, hbody⟩ := List.cons.inj hsplit
      cases text with
      | nil =>
        rcases hlast with hlast | rfl
        · exact absurd rfl hlast
        · cases hbody
      | cons e text =>
        obtain ⟨rfl, -⟩ := List.cons.inj hbody
        have hd := h [] e text rfl
        rw [← Option.not_isSome_iff_eq_none]
        intro hsome
        obtain ⟨delimiter, hdelimiter⟩ := Option.isSome_iff_exists.1 hsome
        rcases ofChar?_cases hdelimiter with ⟨rfl, -⟩ | ⟨rfl, -⟩ | ⟨rfl, -⟩ <;> exact absurd hd (by decide)
    rw [List.cons_append, regionsAfter_char hnone, ih h.tail htail, Position.after_cons]
    cases regionsAfter 0 ((position.advance c).after text) rest <;> rfl

/-- a region at the start of a text, and the reading goes on behind it -/
theorem regionsAfter_piece (h : IsRegion piece region) (position : Position) (rest : List Char) :
    regionsAfter 0 position (piece ++ rest) =
      (regionsAfter 0 (position.after piece) rest).map (region.placed position :: ·) := by
  obtain ⟨c, tail, rfl⟩ := List.exists_cons_of_ne_nil h.ne_nil
  have hregion := h position rest
  rw [List.cons_append] at hregion ⊢
  have hlength : (tail ++ rest).length - rest.length = tail.length := by simp
  rw [regionsAfter, hregion]
  dsimp only
  rw [hlength, regionsAfter_drop, List.take_left, List.drop_left, Position.after_cons]

/-- the reading of a text, piece by piece -/
inductive Scan : Position → List Char → List Region → Prop where
  | nil (position : Position) : Scan position [] []
  | char {position : Position} {c : Char} {rest : List Char} {all : List Region} :
      regionAt? position (c :: rest) = none → Scan (position.advance c) rest all →
      Scan position (c :: rest) (consText c all)
  | region {position : Position} {piece rest : List Char} {region : Region} {all : List Region} :
      regionAt? position (piece ++ rest) = some (.ok (region, rest)) → Scan (position.after piece) rest all →
      Scan position (piece ++ rest) (region :: all)

theorem scan_of_regionsAfter (h : regionsAfter 0 position text = .ok all) : Scan position text all := by
  induction hlength : text.length using Nat.strongRecOn generalizing position text all with
  | ind n ih =>
    subst hlength
    cases text with
    | nil =>
      cases h
      exact .nil position
    | cons c rest =>
      cases hregion : regionAt? position (c :: rest) with
      | none =>
        rw [regionsAfter_char hregion] at h
        obtain ⟨behind, hbehind, rfl⟩ := map_eq_ok.1 h
        exact .char hregion (ih _ (Nat.lt_succ_self _) hbehind rfl)
      | some read =>
        rcases read with fault | ⟨region, left⟩
        · rw [regionsAfter, hregion] at h
          cases h
        · obtain ⟨piece, hpiece, hisRegion, hplaced, -⟩ := exists_piece hregion
          rw [hpiece] at hregion h ⊢
          rw [regionsAfter_piece hisRegion, hplaced] at h
          obtain ⟨behind, hbehind, rfl⟩ := map_eq_ok.1 h
          have hshort : left.length < (c :: rest).length := by
            have hne := List.length_pos_iff.2 hisRegion.ne_nil
            rw [hpiece, List.length_append]
            omega
          exact .region hregion (ih _ hshort hbehind rfl)

theorem regionsAfter_of_scan (h : Scan position text all) : regionsAfter 0 position text = .ok all := by
  induction h with
  | nil => rfl
  | char hnone _ ih => rw [regionsAfter_char hnone, ih]; rfl
  | @region position piece region rest all hregion _ ih =>
    obtain ⟨piece', hpiece, hisRegion, hplaced, -⟩ := exists_piece hregion
    obtain rfl := List.append_cancel_right hpiece
    rw [regionsAfter_piece hisRegion, ih, hplaced]
    rfl

/-- **The regions of a text** are read off piece by piece. -/
theorem regionsAfter_eq_ok_iff : regionsAfter 0 position text = .ok all ↔ Scan position text all :=
  ⟨scan_of_regionsAfter, regionsAfter_of_scan⟩

theorem map_consText (p : Position) (c : Char) (all : List Region) :
    (consText c all).map (Region.placed p) = consText c (all.map (Region.placed p)) := by
  cases all with
  | nil => rfl
  | cons region all => cases region <;> rfl

/-- the same text somewhere else has the same regions, but for their positions -/
theorem Scan.moved (h : Scan position text all) (p : Position) :
    ∃ all', Scan p text all' ∧ all'.map (Region.placed .start) = all.map (Region.placed .start) := by
  induction h generalizing p with
  | nil => exact ⟨[], .nil p, rfl⟩
  | @char position c rest all hnone _ ih =>
    obtain ⟨all', hall', hsame⟩ := ih (p.advance c)
    refine ⟨consText c all', .char (regionAt?_eq_none_iff.2 (regionAt?_eq_none_iff.1 hnone)) hall', ?_⟩
    rw [map_consText, map_consText, hsame]
  | @region position piece rest region all hregion _ ih =>
    obtain ⟨all', hall', hsame⟩ := ih (p.after piece)
    obtain ⟨piece', hpiece, hisRegion, -, -⟩ := exists_piece hregion
    obtain rfl := List.append_cancel_right hpiece
    refine ⟨region.placed p :: all', .region (hisRegion p rest) hall', ?_⟩
    rw [List.map_cons, List.map_cons, hsame, Region.placed_placed]

/-- no text follows a text, and none is empty -/
theorem Scan.behind_text (h : Scan position text all) {s : List Char} {behind : List Region}
    (hall : all = .text s :: behind) : s ≠ [] ∧ ∀ region ∈ behind.head?, region.isText = false := by
  induction h generalizing s behind with
  | nil => cases hall
  | @char position c rest all _ _ ih =>
    cases all with
    | nil =>
      cases hall
      exact ⟨by simp, by simp⟩
    | cons region all =>
      cases region with
      | text s' =>
        cases hall
        exact ⟨by simp, (ih rfl).2⟩
      | _ =>
        cases hall
        exact ⟨by simp, by simp [Region.isText]⟩
  | region hregion _ _ =>
    obtain ⟨-, -, -, -, htext⟩ := exists_piece hregion
    cases hall
    cases htext

/-! ## places outside of regions -/

/-- the place between a front of a source and what is behind is outside of all regions: the reading comes to it -/
inductive Outside (back : List Char) : List Char → Prop where
  | here : Outside back []
  | char {c : Char} {front : List Char} : regionAt? .start (c :: (front ++ back)) = none → Outside back front →
      Outside back (c :: front)
  | region {piece front : List Char} {region : Region} :
      regionAt? .start (piece ++ (front ++ back)) = some (.ok (region, front ++ back)) → Outside back front →
      Outside back (piece ++ front)

/-- **Every region** but a text stands somewhere in the source, where the reading comes to it. -/
theorem Scan.found (h : Scan position text all) (hmem : region ∈ all) (htext : region.isText = false) :
    ∃ front piece back, text = front ++ (piece ++ back) ∧ Outside (piece ++ back) front ∧
      regionAt? (position.after front) (piece ++ back) = some (.ok (region, back)) := by
  induction h with
  | nil => cases hmem
  | @char position c rest all hnone _ ih =>
    have hbehind : region ∈ all := by
      cases all with
      | nil =>
        obtain rfl := List.mem_singleton.1 hmem
        cases htext
      | cons first all =>
        cases first with
        | text s =>
          rcases List.mem_cons.1 hmem with rfl | hmem
          · cases htext
          · exact List.mem_cons_of_mem _ hmem
        | _ =>
          rcases List.mem_cons.1 hmem with rfl | hmem
          · cases htext
          · exact hmem
    obtain ⟨front, piece, back, rfl, hout, hregion⟩ := ih hbehind
    exact ⟨c :: front, piece, back, rfl, .char (regionAt?_eq_none_iff.2 (regionAt?_eq_none_iff.1 hnone)) hout, hregion⟩
  | @region position piece rest first all hfirst _ ih =>
    rcases List.mem_cons.1 hmem with rfl | hmem
    · exact ⟨[], piece, rest, rfl, .here, hfirst⟩
    · obtain ⟨front, piece', back, rfl, hout, hregion⟩ := ih hmem
      obtain ⟨piece'', hpiece, hisRegion, -, -⟩ := exists_piece hfirst
      obtain rfl := List.append_cancel_right hpiece
      refine ⟨piece ++ front, piece', back, by rw [List.append_assoc], .region (hisRegion _ _) hout, ?_⟩
      rwa [Position.after_append]

/-- the regions of a text in which none starts -/
def plainRegions (text : List Char) : List Region :=
  if text = [] then [] else [.text text]

/-- a text in front of a region -/
theorem foldr_consText (lead : List Char) (h : ∀ region ∈ all.head?, region.isText = false) :
    lead.foldr consText all = plainRegions lead ++ all := by
  induction lead with
  | nil => rfl
  | cons c lead ih =>
    rw [List.foldr_cons, ih]
    cases lead with
    | nil =>
      cases all with
      | nil => rfl
      | cons region all =>
        have hregion := h region rfl
        cases region with
        | text s => cases hregion
        | _ => rfl
    | cons d lead => rfl

/-- a text in front of a text -/
theorem foldr_consText_text (lead s : List Char) (all : List Region) :
    lead.foldr consText (.text s :: all) = .text (lead ++ s) :: all := by
  induction lead with
  | nil => rfl
  | cons c lead ih =>
    rw [List.foldr_cons, ih]
    rfl

/-- **Up to a place outside of regions** the regions do not depend on what follows: there are some that end with one
that is no text, and then there is text, which what follows may go on with. -/
theorem Outside.regions {front back : List Char} (h : Outside back front) (hbrace : front.getLast? ≠ some '\x7b')
    (position : Position) : ∃ (head : List Region) (lead : List Char),
      (∀ region ∈ head.getLast?, region.isText = false) ∧ ∀ back',
      regionsAfter 0 position (front ++ back') =
        (regionsAfter 0 (position.after front) back').map fun all => head ++ lead.foldr consText all := by
  induction h generalizing position with
  | here =>
    refine ⟨[], [], by simp, fun back' => ?_⟩
    simp only [List.nil_append, Position.after_nil, List.foldr_nil]
    cases regionsAfter 0 position back' <;> rfl
  | @char c front hnone _ ih =>
    have hlast : front.getLast? ≠ some '\x7b' := by
      cases front with
      | nil => simp
      | cons d front => rwa [List.getLast?_cons_cons] at hbrace
    obtain ⟨head, lead, hhead, hregions⟩ := ih hlast (position.advance c)
    have hchar : ∀ back', regionAt? position (c :: (front ++ back')) = none := by
      intro back'
      rw [regionAt?_eq_none_iff] at hnone ⊢
      intro d body hbody
      cases front with
      | nil =>
        obtain ⟨rfl, -⟩ := List.cons.inj hbody
        exact absurd rfl hbrace
      | cons e front =>
        cases hbody
        exact hnone _ _ rfl
    cases head with
    | nil =>
      refine ⟨[], c :: lead, hhead, fun back' => ?_⟩
      rw [List.cons_append, regionsAfter_char (hchar back'), hregions back', Position.after_cons]
      cases regionsAfter 0 ((position.advance c).after front) back' <;> rfl
    | cons first head =>
      refine ⟨consText c (first :: head), lead, ?_, fun back' => ?_⟩
      · cases first with
        | text s =>
          cases head with
          | nil => exact absurd (hhead _ rfl) (by simp [Region.isText])
          | cons second head => exact hhead
        | _ => exact hhead
      · rw [List.cons_append, regionsAfter_char (hchar back'), hregions back', Position.after_cons]
        cases regionsAfter 0 ((position.advance c).after front) back' with
        | error fault => rfl
        | ok all => cases first <;> rfl
  | @region piece front region hregion _ ih =>
    have hlast : front.getLast? ≠ some '\x7b' := by
      cases front with
      | nil => simp
      | cons d front => simpa [List.getLast?_append] using hbrace
    obtain ⟨piece', hpiece, hisRegion, -, htext⟩ := exists_piece hregion
    obtain rfl := List.append_cancel_right hpiece
    obtain ⟨head, lead, hhead, hregions⟩ := ih hlast (position.after piece)
    refine ⟨region.placed position :: head, lead, ?_, fun back' => ?_⟩
    · cases head with
      | nil =>
        intro last hlast
        obtain rfl : region.placed position = last := by simpa using hlast
        rw [Region.isText_placed, htext]
      | cons first head => exact hhead
    · rw [List.append_assoc, regionsAfter_piece hisRegion, hregions back', Position.after_append]
      cases regionsAfter 0 ((position.after piece).after front) back' <;> rfl

end Templating.Template
