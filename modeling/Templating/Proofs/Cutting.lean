/-
A source and the pieces that it is cut into.

`IsCut` says what cutting means, without the scan: a tag or a verbatim region wherever one starts, and between them as
much text as there is. The scan cuts a source so (`isCut_pieces`), and what is said of its pieces is proved from the
cut: a piece that is no text is what is read at its place, and nothing is read inside a text (`IsCut.readAt`,
`IsCut.no_piece`).

- `isCut_pieces`: the pieces of a source are a cut.
- `Lossless`, `pieces_lossless`: the pieces are the source, by the syntax of tags, and outside verbatim regions no tag
  is missed.
-/
import Mathlib.Data.List.Chain
import Templating.Proofs.TagSyntax

namespace Templating.Markup

variable {tagPrefix source : List Char} {all front back : List Piece} {piece : Piece}

/-! ## cuts -/

/-- the source of pieces -/
def sourceOf (all : List Piece) : List Char :=
  all.flatMap Piece.span

@[simp] theorem sourceOf_nil : sourceOf [] = [] := rfl

@[simp] theorem sourceOf_cons : sourceOf (piece :: all) = piece.span ++ sourceOf all := rfl

@[simp] theorem sourceOf_append : sourceOf (front ++ back) = sourceOf front ++ sourceOf back :=
  List.flatMap_append

/-- the expanded source of pieces -/
def codeOf (all : List Piece) : List Char :=
  all.flatMap Piece.expand

@[simp] theorem codeOf_cons : codeOf (piece :: all) = piece.expand ++ codeOf all := rfl

@[simp] theorem codeOf_append : codeOf (front ++ back) = codeOf front ++ codeOf back :=
  List.flatMap_append

theorem toList_expand (tagPrefix source : String) :
    (expand tagPrefix source).code.toList = codeOf (pieces tagPrefix.toList source.toList) :=
  String.toList_ofList

/-- pieces that their source is cut into from the front: a tag or a verbatim region where one starts, and text up to the
next one -/
inductive IsCut (tagPrefix : List Char) : List Piece → Prop
  | nil : IsCut tagPrefix []
  | found {piece : Piece} {pieces : List Piece}
    (hpiece : pieceAt? tagPrefix (piece.span ++ sourceOf pieces) = some piece) (hrest : IsCut tagPrefix pieces) :
    IsCut tagPrefix (piece :: pieces)
  | text {span : List Char} {pieces : List Piece} (hspan : span ≠ [])
    (hnone : ∀ before behind, span = before ++ behind → behind ≠ [] →
      pieceAt? tagPrefix (behind ++ sourceOf pieces) = none)
    (hrest : IsCut tagPrefix pieces) (hnext : ∀ next ∈ pieces.head?, next.event ≠ .text) :
    IsCut tagPrefix (⟨span, .text⟩ :: pieces)

/-- one more character of text in front of a cut -/
theorem IsCut.consText {c : Char} (h : IsCut tagPrefix all) (hnone : pieceAt? tagPrefix (c :: sourceOf all) = none) :
    IsCut tagPrefix (consText c all) := by
  have hsingle : ∀ before behind, [c] = before ++ behind → behind ≠ [] →
      pieceAt? tagPrefix (behind ++ sourceOf all) = none := by
    intro before behind hsplit hbehind
    cases before with
    | nil =>
      rw [List.nil_append] at hsplit
      rw [← hsplit]
      exact hnone
    | cons d before =>
      have hlength := congrArg List.length hsplit
      simp only [List.length_cons, List.length_append, List.length_nil] at hlength
      exact absurd (List.eq_nil_of_length_eq_zero (by omega)) hbehind
  cases h with
  | nil => exact .text (List.cons_ne_nil c []) hsingle .nil (by simp)
  | @found piece pieces hpiece hrest =>
    have hevent : piece.event ≠ .text := pieceAt?_ne_text hpiece
    have hcut := IsCut.text (List.cons_ne_nil c []) hsingle (.found hpiece hrest) (by simpa using hevent)
    obtain ⟨span, event⟩ := piece
    cases event with
    | text => exact absurd rfl hevent
    | _ => exact hcut
  | @text span pieces hspan hinside hrest hnext =>
    refine .text (List.cons_ne_nil c span) ?_ hrest hnext
    intro before behind hsplit hbehind
    cases before with
    | nil =>
      rw [List.nil_append] at hsplit
      rw [← hsplit]
      exact hnone
    | cons d before => exact hinside before behind (List.cons.inj hsplit).2 hbehind

theorem isCut_piecesAfter (tagPrefix : List Char) (skip : Nat) (text : List Char) :
    IsCut tagPrefix (piecesAfter tagPrefix skip text) := by
  induction text generalizing skip with
  | nil =>
    rw [piecesAfter]
    exact .nil
  | cons c text ih =>
    cases skip with
    | succ skip => exact ih skip
    | zero =>
      rw [piecesAfter]
      cases hfound : pieceAt? tagPrefix (c :: text) with
      | none =>
        refine (ih 0).consText ?_
        rw [sourceOf, span_piecesAfter]
        exact hfound
      | some piece =>
        refine .found ?_ (ih _)
        obtain ⟨rest, hrest⟩ := pieceAt?_span hfound
        obtain ⟨d, tail, hspan⟩ := List.exists_cons_of_ne_nil (pieceAt?_span_ne_nil hfound)
        have hsource : piece.span ++ text.drop (piece.span.length - 1) = c :: text := by
          rw [hspan] at hrest ⊢
          obtain ⟨rfl, rfl⟩ := List.cons.inj hrest
          simp
        rw [sourceOf, span_piecesAfter, hsource]
        exact hfound

/-- **The pieces of a source** are a cut. -/
theorem isCut_pieces (tagPrefix source : List Char) : IsCut tagPrefix (pieces tagPrefix source) :=
  isCut_piecesAfter tagPrefix 0 source

theorem sourceOf_pieces (tagPrefix source : List Char) : sourceOf (pieces tagPrefix source) = source :=
  span_pieces tagPrefix source

namespace IsCut

/-- a cut goes on behind any of its pieces -/
theorem behind (h : IsCut tagPrefix (front ++ back)) : IsCut tagPrefix back := by
  induction front with
  | nil => exact h
  | cons piece front ih =>
    cases h with
    | found _ hrest => exact ih hrest
    | text _ _ hrest _ => exact ih hrest

/-- a piece that is no text is what is read at its place -/
theorem readAt (h : IsCut tagPrefix (front ++ piece :: back)) (hevent : piece.event ≠ .text) :
    pieceAt? tagPrefix (piece.span ++ sourceOf back) = some piece := by
  cases h.behind with
  | found hpiece _ => exact hpiece
  | text => exact absurd rfl hevent

/-- nothing is read inside a text -/
theorem no_piece {before behind : List Char} (h : IsCut tagPrefix (front ++ ⟨before ++ behind, .text⟩ :: back))
    (hbehind : behind ≠ []) : pieceAt? tagPrefix (behind ++ sourceOf back) = none := by
  cases h.behind with
  | found hpiece _ => exact absurd rfl (pieceAt?_ne_text hpiece)
  | text _ hnone _ _ => exact hnone before behind rfl hbehind

/-- everything that a piece of a cut can be -/
theorem mem_cases (h : IsCut tagPrefix all) (hmem : piece ∈ all) :
    (piece.event = .text ∧ piece.span ≠ []) ∨ IsTag tagPrefix piece.span piece.event ∨
      piece.event = .verbatim ∧ IsVerbatim piece.span := by
  obtain ⟨front, back, rfl⟩ := List.append_of_mem hmem
  cases h.behind with
  | found hpiece _ => exact Or.inr (pieceAt?_eq_some_iff.1 hpiece).1
  | text hspan _ _ _ => exact Or.inl ⟨rfl, hspan⟩

theorem span_ne_nil (h : IsCut tagPrefix all) (hmem : piece ∈ all) : piece.span ≠ [] := by
  obtain ⟨front, back, rfl⟩ := List.append_of_mem hmem
  cases h.behind with
  | found hpiece _ => exact pieceAt?_span_ne_nil hpiece
  | text hspan _ _ _ => exact hspan

/-- between two texts something else stands -/
theorem texts_apart (h : IsCut tagPrefix all) :
    all.IsChain fun piece next => ¬ (piece.event = .text ∧ next.event = .text) := by
  induction h with
  | nil => exact .nil
  | found hpiece _ ih =>
    refine List.isChain_cons.2 ⟨fun next _ hboth => ?_, ih⟩
    exact pieceAt?_ne_text hpiece hboth.1
  | text _ _ _ hnext ih =>
    refine List.isChain_cons.2 ⟨fun next hmem hboth => ?_, ih⟩
    exact hnext next hmem hboth.2

end IsCut

/-! ## sources in two parts -/

theorem piecesAfter_drop (tagPrefix : List Char) (skip : Nat) (text : List Char) :
    piecesAfter tagPrefix skip text = pieces tagPrefix (text.drop skip) := by
  induction text generalizing skip with
  | nil => cases skip <;> rfl
  | cons c text ih =>
    cases skip with
    | zero => rfl
    | succ skip => exact ih skip

/-- a piece is read, and the cutting goes on behind it -/
theorem pieces_found {span rest : List Char} {event : Event}
    (h : pieceAt? tagPrefix (span ++ rest) = some ⟨span, event⟩) :
    pieces tagPrefix (span ++ rest) = ⟨span, event⟩ :: pieces tagPrefix rest := by
  obtain ⟨c, tail, rfl⟩ := List.exists_cons_of_ne_nil (pieceAt?_span_ne_nil h)
  have hdrop : (tail ++ rest).drop ((c :: tail).length - 1) = rest := List.drop_left' rfl
  rw [List.cons_append] at h ⊢
  rw [pieces, piecesAfter, h]
  dsimp only
  rw [piecesAfter_drop, hdrop]

theorem codeOf_consText (c : Char) (all : List Piece) : codeOf (consText c all) = c :: codeOf all := by
  cases all with
  | nil => rfl
  | cons piece all =>
    obtain ⟨span, event⟩ := piece
    cases event <;> rfl

/-- a character that no tag and no region starts with stays in front -/
theorem codeOf_pieces_cons {c : Char} (htag : c ≠ '<') (hregion : c ≠ '\x7b') (rest : List Char) :
    codeOf (pieces tagPrefix (c :: rest)) = c :: codeOf (pieces tagPrefix rest) := by
  have hnone : pieceAt? tagPrefix (c :: rest) = none := by
    rw [Option.eq_none_iff_forall_ne_some]
    intro piece hpiece
    obtain ⟨hwritten | ⟨-, hverbatim⟩, left, hleft⟩ := pieceAt?_eq_some_iff.1 hpiece
    · obtain ⟨tail, hspan⟩ := exists_tail_of_isTag hwritten
      rw [hspan] at hleft
      exact htag (List.cons.inj hleft).1
    · obtain ⟨tail, hspan⟩ := brace_of_isVerbatim hverbatim
      rw [hspan] at hleft
      exact hregion (List.cons.inj hleft).1
  rw [pieces, piecesAfter, hnone]
  exact codeOf_consText c _

/-- **A plain text and a verbatim region** stay as they are in front of whatever follows. -/
theorem codeOf_pieces_verbatim {front region : List Char} (hfront : ∀ c ∈ front, c ≠ '<' ∧ c ≠ '\x7b')
    (hregion : IsVerbatim region) (rest : List Char) :
    codeOf (pieces tagPrefix (front ++ region ++ rest)) = front ++ region ++ codeOf (pieces tagPrefix rest) := by
  induction front with
  | nil =>
    have hread : pieceAt? tagPrefix (region ++ rest) = some ⟨region, .verbatim⟩ :=
      pieceAt?_eq_some_iff.2 ⟨Or.inr ⟨rfl, hregion⟩, rest, rfl⟩
    rw [List.nil_append]
    exact congrArg codeOf (pieces_found hread)
  | cons c front ih =>
    obtain ⟨hc, hfront⟩ := List.forall_mem_cons.1 hfront
    simp only [List.cons_append]
    rw [codeOf_pieces_cons hc.1 hc.2, ih hfront]

/-! ## places -/

/-- a place of the source lies in a verbatim region -/
def Hidden (all : List Piece) (place : Nat) : Prop :=
  ∃ front piece back, all = front ++ piece :: back ∧ piece.event = .verbatim ∧
    (sourceOf front).length ≤ place ∧ place < (sourceOf front).length + piece.span.length

/-- a character of a text that is put together from parts is a character of one of the parts -/
theorem exists_part {α : Type} {part : α → List Char} {list : List α} {before rest : List Char} {c : Char}
    (h : list.flatMap part = before ++ c :: rest) :
    ∃ front a back inside behind, list = front ++ a :: back ∧ part a = inside ++ c :: behind ∧
      before = front.flatMap part ++ inside ∧ rest = behind ++ back.flatMap part := by
  induction list generalizing before with
  | nil => simp at h
  | cons a list ih =>
    rw [List.flatMap_cons] at h
    rcases List.append_eq_append_iff.1 h with ⟨middle, hbefore, hrest⟩ | ⟨middle, hpart, hrest⟩
    · obtain ⟨front, b, back, inside, behind, rfl, hb, rfl, rfl⟩ := ih hrest
      exact ⟨a :: front, b, back, inside, behind, rfl, hb, by simp [hbefore], rfl⟩
    · cases middle with
      | nil =>
        have hbehind : list.flatMap part = [] ++ c :: rest := hrest.symm
        obtain ⟨front, b, back, inside, behind, rfl, hb, hinside, rfl⟩ := ih hbehind
        exact ⟨a :: front, b, back, inside, behind, rfl, hb, by simp [← hinside, hpart], rfl⟩
      | cons d middle =>
        obtain ⟨rfl, hbehind⟩ := List.cons.inj hrest
        exact ⟨[], a, list, before, middle, rfl, hpart, rfl, hbehind⟩

/-- **Where a tag stands** in a source that is cut, a piece that is no text reaches over its place. -/
theorem IsCut.reached (h : IsCut tagPrefix all) {before span rest : List Char} {event : Event}
    (htag : IsTag tagPrefix span event) (hsource : sourceOf all = before ++ span ++ rest) :
    ∃ front piece back inside behind, all = front ++ piece :: back ∧ piece.event ≠ .text ∧
      piece.span = inside ++ '<' :: behind ∧ before = sourceOf front ++ inside ∧
      pieceAt? tagPrefix ('<' :: behind ++ sourceOf back) = some ⟨span, event⟩ := by
  obtain ⟨tail, hspan⟩ := exists_tail_of_isTag htag
  have hplace : all.flatMap Piece.span = before ++ '<' :: (tail ++ rest) := by
    rw [← sourceOf, hsource, hspan]
    simp
  obtain ⟨front, piece, back, inside, behind, rfl, hpiece, hbefore, hrest⟩ := exists_part hplace
  have hread : pieceAt? tagPrefix ('<' :: behind ++ sourceOf back) = some ⟨span, event⟩ := by
    have htext : '<' :: behind ++ sourceOf back = span ++ rest := by
      rw [List.cons_append, hspan, List.cons_append, hrest]
      rfl
    rw [htext]
    exact pieceAt?_isTag htag rest
  refine ⟨front, piece, back, inside, behind, rfl, ?_, hpiece, hbefore, hread⟩
  intro htext
  obtain ⟨span', event'⟩ := piece
  obtain rfl : event' = .text := htext
  obtain rfl : span' = inside ++ '<' :: behind := hpiece
  rw [h.no_piece (List.cons_ne_nil _ _)] at hread
  cases hread

/-- what lies in a verbatim region of the source is hidden -/
theorem hidden_of_verbatim {inside behind : List Char} {c : Char} (hevent : piece.event = .verbatim)
    (hspan : piece.span = inside ++ c :: behind) :
    Hidden (front ++ piece :: back) (sourceOf front ++ inside).length := by
  refine ⟨front, piece, back, rfl, hevent, ?_, ?_⟩
  · rw [List.length_append]
    exact Nat.le_add_right _ _
  · rw [hspan]
    simp

/-- where a tag stands, it is one of the pieces, or its place is hidden -/
theorem IsCut.tag_found (h : IsCut tagPrefix all) (hbracket : '<' ∉ tagPrefix) {before span rest : List Char}
    {event : Event} (htag : IsTag tagPrefix span event) (hsource : sourceOf all = before ++ span ++ rest) :
    (∃ front back, all = front ++ ⟨span, event⟩ :: back ∧ sourceOf front = before) ∨ Hidden all before.length := by
  obtain ⟨front, piece, back, inside, behind, rfl, hevent, hpiece, rfl, hread⟩ := h.reached htag hsource
  rcases h.mem_cases (List.mem_append_right front List.mem_cons_self) with ⟨htext, -⟩ | hother | ⟨hverbatim, -⟩
  · exact absurd htext hevent
  · left
    obtain ⟨tail, hspan, hnot⟩ := not_mem_of_isTag hbracket hother
    have hinside : inside = [] := by
      cases inside with
      | nil => rfl
      | cons d inside =>
        rw [hspan] at hpiece
        obtain ⟨-, rfl⟩ := List.cons.inj hpiece
        exact absurd (by simp) hnot
    rw [hinside, List.nil_append] at hpiece
    have hsame := h.readAt hevent
    rw [hpiece, hread] at hsame
    obtain rfl := Option.some.inj hsame
    exact ⟨front, back, rfl, by rw [hinside, List.append_nil]⟩
  · exact Or.inr (hidden_of_verbatim hverbatim hpiece)

/-! ## nothing is lost -/

/-- what a source is cut into, when nothing of it is lost and no tag is missed -/
structure Lossless (tagPrefix source : List Char) (all : List Piece) : Prop where
  /-- the spans follow each other, and together they are the source -/
  spans : all.flatMap Piece.span = source
  span_ne_nil : ∀ piece ∈ all, piece.span ≠ []
  texts_apart : all.IsChain fun piece next => ¬ (piece.event = .text ∧ next.event = .text)
  /-- texts and verbatim regions stay as they are -/
  kept : ∀ piece ∈ all, piece.event = .text ∨ piece.event = .verbatim → piece.expand = piece.span
  /-- a tag has the syntax of a tag with its name and its attributes -/
  tag : ∀ piece ∈ all, piece.event.isTag = true → IsTag tagPrefix piece.span piece.event
  /-- a verbatim region ends at the first end mark -/
  verbatim : ∀ piece ∈ all, piece.event = .verbatim → IsVerbatim piece.span
  /-- a tag anywhere outside the verbatim regions is one of the pieces -/
  found : ∀ before span rest event, source = before ++ span ++ rest → IsTag tagPrefix span event →
    ¬ Hidden all before.length →
    ∃ front back, all = front ++ ⟨span, event⟩ :: back ∧ front.flatMap Piece.span = before

/-- **Nothing of a source is lost and no tag is missed**, whatever stands before the tag: an unfinished tag and an open
quote do not reach over the next tag. -/
theorem pieces_lossless (source : List Char) (hbracket : '<' ∉ tagPrefix) :
    Lossless tagPrefix source (pieces tagPrefix source) := by
  have hcut : IsCut tagPrefix (pieces tagPrefix source) := isCut_pieces tagPrefix source
  have hsource : sourceOf (pieces tagPrefix source) = source := sourceOf_pieces tagPrefix source
  refine
    { spans := hsource, span_ne_nil := fun piece hmem => hcut.span_ne_nil hmem, texts_apart := hcut.texts_apart
      kept := ?_, tag := ?_, verbatim := ?_, found := ?_ }
  · intro piece _ hevent
    rcases hevent with hevent | hevent <;> simp only [Piece.expand, hevent]
  · intro piece hmem hevent
    rcases hcut.mem_cases hmem with ⟨htext, -⟩ | htag | ⟨hverbatim, -⟩
    · rw [htext] at hevent
      cases hevent
    · exact htag
    · rw [hverbatim] at hevent
      cases hevent
  · intro piece hmem hevent
    rcases hcut.mem_cases hmem with ⟨htext, -⟩ | htag | ⟨-, hverbatim⟩
    · rw [htext] at hevent
      cases hevent
    · have hall := isTag_of_isTag htag
      rw [hevent] at hall
      cases hall
    · exact hverbatim
  · intro before span rest event hsplit htag hnot
    rcases hcut.tag_found hbracket htag (hsource.trans hsplit) with hfound | hhidden
    · exact hfound
    · exact absurd hhidden hnot

/-- an unfinished tag with an open quote, a tag behind it, and a tag in a verbatim region -/
def openQuote : List Char :=
  "<x-a title=\"oops>text <x-b>\x7b% verbatim %\x7d<x-c>\x7b% endverbatim %\x7d".toList

/-- the unfinished tag is text, and the tag behind it is found -/
theorem pieces_lossless_openQuote :
    '<' ∉ "x-".toList ∧ Lossless "x-".toList openQuote (pieces "x-".toList openQuote) ∧
      (pieces "x-".toList openQuote).map Piece.event = [.text, .opening ['b'] [], .verbatim] :=
  ⟨by decide, pieces_lossless openQuote (by decide), by decide⟩

end Templating.Markup
