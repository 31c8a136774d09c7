/-
Component markup inside a template source.

A source is cut into pieces: plain text, verbatim regions, and complete tags `<PREFIXname …>`, `<PREFIXname … />` and
`</PREFIXname>`, where `PREFIX` is the tag prefix of the template set. The name `slot` stands for named slots. Each
piece keeps the source text that it spans, so the spans of all pieces in order are the source (`span_pieces`). Nothing
is an error: what does not form a complete tag is text.
-/
import Templating.Text.Blank
import Templating.Text.Scan

namespace Templating.Markup

/-- what a piece of source is -/
inductive Event where
  | text
  | verbatim
  | opening (name attributes : List Char)
  | selfClosing (name attributes : List Char)
  | closing (name : List Char)
  | slotOpening (attributes : List Char) (selfClosing : Bool)
  | slotClosing
  deriving DecidableEq, Repr

/-- a piece of source and what it is -/
structure Piece where
  span : List Char
  event : Event
  deriving DecidableEq, Repr

/-- start of a region that is copied unchanged -/
def verbatimStart : List Char := "\x7b% verbatim %\x7d".toList

/-- end of a region that is copied unchanged -/
def verbatimEnd : List Char := "\x7b% endverbatim %\x7d".toList

/-- the tag name of named slots -/
def slotName : List Char := "slot".toList

/-- characters of a component name -/
def isNameChar (c : Char) : Bool :=
  c.isAlphanum || c == '_' || c == '.' || c == '-'

/-- the rest of a tag up to its end, which may not stand inside double quotes; another tag may not start before it -/
def tagBody? (quoted : Bool) : List Char → Option (List Char)
  | [] => none
  | c :: rest =>
    if c = '>' ∧ !quoted then some []
    else if c = '<' then none
    else (tagBody? (if c = '"' then !quoted else quoted) rest).map (c :: ·)

/-- the attribute text of a tag body, and whether the body closes the tag itself -/
def bodyAttributes (body : List Char) : List Char × Bool :=
  match (Text.trimEnd body).reverse with
  | '/' :: before => (Text.trim before.reverse, true)
  | _ => (Text.trim body, false)

/-- a closing tag at the start of a text whose marks are already behind -/
def closingTag? (marks after : List Char) : Option Piece :=
  let name := after.takeWhile isNameChar
  if name.isEmpty then none
  else
    match after.dropWhile isNameChar with
    | '>' :: _ => some ⟨marks ++ name ++ ['>'], if name = slotName then .slotClosing else .closing name⟩
    | _ => none

/-- an opening tag at the start of a text whose marks are already behind -/
def openingTag? (marks after : List Char) : Option Piece :=
  let name := after.takeWhile isNameChar
  if name.isEmpty then none
  else
    (tagBody? false (after.dropWhile isNameChar)).map fun body =>
      let (attributes, selfClosing) := bodyAttributes body
      ⟨marks ++ name ++ body ++ ['>'],
        if name = slotName then .slotOpening attributes selfClosing
        else if selfClosing then .selfClosing name attributes
        else .opening name attributes⟩

/-- a verbatim region or a tag at the start of a text -/
def pieceAt? (tagPrefix text : List Char) : Option Piece :=
  match Text.afterMark? verbatimStart text with
  | some after =>
    (Text.cutAt? verbatimEnd after).map fun (body, _) => ⟨verbatimStart ++ body ++ verbatimEnd, .verbatim⟩
  | none =>
    match Text.afterMark? ('<' :: '/' :: tagPrefix) text with
    | some after => closingTag? ('<' :: '/' :: tagPrefix) after
    | none =>
      match Text.afterMark? ('<' :: tagPrefix) text with
      | some after => openingTag? ('<' :: tagPrefix) after
      | none => none

/-- pieces with one more character of plain text in front -/
def consText (c : Char) : List Piece → List Piece
  | ⟨span, .text⟩ :: rest => ⟨c :: span, .text⟩ :: rest
  | pieces => ⟨[c], .text⟩ :: pieces

/-- the pieces of a source, not counting the next `skip` characters -/
def piecesAfter (tagPrefix : List Char) : (skip : Nat) → List Char → List Piece
  | _, [] => []
  | skip + 1, _ :: rest => piecesAfter tagPrefix skip rest
  | 0, c :: rest =>
    match pieceAt? tagPrefix (c :: rest) with
    | some piece => piece :: piecesAfter tagPrefix (piece.span.length - 1) rest
    | none => consText c (piecesAfter tagPrefix 0 rest)

/-- the pieces of a source in order -/
def pieces (tagPrefix source : List Char) : List Piece :=
  piecesAfter tagPrefix 0 source

/-! ## what the pieces span -/

theorem tagBody?_eq_some {quoted : Bool} {text body : List Char} (h : tagBody? quoted text = some body) :
    ∃ rest, text = body ++ '>' :: rest := by
  induction text generalizing quoted body with
  | nil => simp [tagBody?] at h
  | cons c text ih =>
    simp only [tagBody?] at h
    split at h
    · rename_i hc
      obtain ⟨rfl, _⟩ := hc
      simp only [Option.some.injEq] at h
      exact ⟨text, by simp [← h]⟩
    · split at h
      · simp at h
      · obtain ⟨tail, htail, rfl⟩ := Option.map_eq_some_iff.1 h
        obtain ⟨rest, rfl⟩ := ih htail
        exact ⟨rest, rfl⟩

theorem closingTag?_span {marks after : List Char} {piece : Piece} (h : closingTag? marks after = some piece) :
    ∃ rest, marks ++ after = piece.span ++ rest := by
  simp only [closingTag?] at h
  split at h
  · simp at h
  · split at h
    · rename_i rest hrest
      simp only [Option.some.injEq] at h
      refine ⟨rest, ?_⟩
      have hsplit : after.takeWhile isNameChar ++ after.dropWhile isNameChar = after :=
        List.takeWhile_append_dropWhile
      rw [hrest] at hsplit
      rw [← h, ← hsplit]
      simp [hsplit]
    · simp at h

theorem openingTag?_span {marks after : List Char} {piece : Piece} (h : openingTag? marks after = some piece) :
    ∃ rest, marks ++ after = piece.span ++ rest := by
  simp only [openingTag?] at h
  split at h
  · simp at h
  · obtain ⟨body, hbody, rfl⟩ := Option.map_eq_some_iff.1 h
    obtain ⟨rest, hrest⟩ := tagBody?_eq_some hbody
    refine ⟨rest, ?_⟩
    have hsplit : after.takeWhile isNameChar ++ after.dropWhile isNameChar = after :=
      List.takeWhile_append_dropWhile
    rw [hrest] at hsplit
    simp [hsplit]

/-- A piece spans the start of the text that it was read from. -/
theorem pieceAt?_span {tagPrefix text : List Char} {piece : Piece} (h : pieceAt? tagPrefix text = some piece) :
    ∃ rest, text = piece.span ++ rest := by
  simp only [pieceAt?] at h
  split at h
  · rename_i after hafter
    obtain ⟨⟨body, rest⟩, hcut, rfl⟩ := Option.map_eq_some_iff.1 h
    refine ⟨rest, ?_⟩
    rw [← Text.afterMark?_eq_some.1 hafter, Text.cutAt?_eq_some hcut]
    simp
  · split at h
    · rename_i after hafter
      rw [← Text.afterMark?_eq_some.1 hafter]
      exact closingTag?_span h
    · split at h
      · rename_i after hafter
        rw [← Text.afterMark?_eq_some.1 hafter]
        exact openingTag?_span h
      · simp at h

theorem verbatimStart_ne_nil : verbatimStart ≠ [] := by
  decide

/-- A piece spans at least one character. -/
theorem pieceAt?_span_ne_nil {tagPrefix text : List Char} {piece : Piece} (h : pieceAt? tagPrefix text = some piece) :
    piece.span ≠ [] := by
  simp only [pieceAt?] at h
  split at h
  · obtain ⟨found, _, rfl⟩ := Option.map_eq_some_iff.1 h
    exact List.append_ne_nil_of_left_ne_nil (List.append_ne_nil_of_left_ne_nil verbatimStart_ne_nil _) _
  · split at h
    · simp only [closingTag?] at h
      split at h
      · simp at h
      · split at h
        · simp only [Option.some.injEq] at h
          simp [← h]
        · simp at h
    · split at h
      · simp only [openingTag?] at h
        split at h
        · simp at h
        · obtain ⟨body, _, rfl⟩ := Option.map_eq_some_iff.1 h
          simp
      · simp at h

theorem flatMap_span_consText (c : Char) (pieces : List Piece) :
    (consText c pieces).flatMap Piece.span = c :: pieces.flatMap Piece.span := by
  cases pieces with
  | nil => rfl
  | cons piece rest =>
    obtain ⟨span, event⟩ := piece
    cases event <;> rfl

theorem span_piecesAfter (tagPrefix : List Char) (skip : Nat) (text : List Char) :
    (piecesAfter tagPrefix skip text).flatMap Piece.span = text.drop skip := by
  induction text generalizing skip with
  | nil => simp [piecesAfter]
  | cons c rest ih =>
    cases skip with
    | succ skip => simp [piecesAfter, ih]
    | zero =>
      rw [piecesAfter]
      split
      · rename_i piece hpiece
        obtain ⟨left, hleft⟩ := pieceAt?_span hpiece
        cases hspan : piece.span with
        | nil => exact absurd hspan (pieceAt?_span_ne_nil hpiece)
        | cons d tail =>
          rw [hspan] at hleft
          obtain ⟨rfl, hrest⟩ := List.cons.inj hleft
          rw [List.flatMap_cons, ih, hspan, hrest]
          simp
      · rw [flatMap_span_consText, ih]
        rfl

/-- The spans of the pieces in order are the source. -/
theorem span_pieces (tagPrefix source : List Char) : (pieces tagPrefix source).flatMap Piece.span = source := by
  simp [pieces, span_piecesAfter]

end Templating.Markup
