/-
Words printed and cut again.

A printed word stands for itself, but a quoted text has a quotation mark of its choice, with a backslash in front of
every backslash and every such mark inside (`Printed.text`). Between two words there is a space; next to a quoted text
it may be left out, since no word goes on with a quotation mark and a quoted text goes on with nothing
(`Printed.parts`).

- `layout_written`: printed words are laid out, whichever of these spaces are there.
- `tokens_written`: so they are cut into the words that they were printed from.
-/
import Templating.Proofs.WordLayout

namespace Templating.Expr

/-- the two quotation marks -/
inductive Mark where
  | double
  | single
  deriving DecidableEq, Repr

/-- the quotation mark itself -/
def Mark.char : Mark → Char
  | double => '"'
  | single => '\''

theorem Mark.char_cases (mark : Mark) : mark.char = '"' ∨ mark.char = '\'' := by
  cases mark with
  | double => exact Or.inl rfl
  | single => exact Or.inr rfl

/-- a word to print: the quotation mark that it gets as a text, and whether a space is wanted behind it anyway -/
structure Printed where
  word : Token
  mark : Mark
  spaced : Bool

namespace Printed

/-- the word is a quoted text -/
def isText (p : Printed) : Bool :=
  match p.word with
  | .str _ => true
  | _ => false

/-- the word as it is printed -/
def text (p : Printed) : List Char :=
  match p.word with
  | .str s => p.mark.char :: (hide p.mark.char s.toList ++ [p.mark.char])
  | word => word.spelling

/-- there is a space between the words: it may be left out next to a quoted text only -/
def parts (p next : Printed) : Bool :=
  p.spaced || !(p.isText || next.isText)

variable {p next : Printed}

theorem spelling_text (h : p.word.isWritable = true) : Spelling p.word p.text := by
  obtain ⟨word, mark, spaced⟩ := p
  cases word with
  | str s =>
    have hspelling := Spelling.str mark.char_cases (says_hide mark.char_cases s.toList)
    rwa [String.ofList_toList] at hspelling
  | _ => exact spelling_of_isWritable h

/-- a quoted text starts with a character that no word goes on with -/
theorem parted_text (h : next.isText = true) (behind : List Char) : Parted (next.text ++ behind) := by
  obtain ⟨word, mark, spaced⟩ := next
  cases word with
  | str s => exact parted_cons (isParting_of_quote mark.char_cases) _
  | _ => cases h

/-- without a space the word ends in front of the next one all the same -/
theorem endsBefore_text (h : p.parts next = false) (behind : List Char) : p.word.EndsBefore (next.text ++ behind) := by
  simp only [parts, Bool.or_eq_false_iff, Bool.not_eq_false', Bool.or_eq_true] at h
  rcases h.2 with hp | hnext
  · obtain ⟨word, mark, spaced⟩ := p
    cases word with
    | str s => trivial
    | _ => cases hp
  · exact (parted_text hnext behind).endsBefore p.word

end Printed

/-- the words as one text -/
def written : List Printed → List Char
  | [] => []
  | [p] => p.text
  | p :: next :: rest => p.text ++ ((if p.parts next then [' '] else []) ++ written (next :: rest))

/-- a written text starts with its first word -/
theorem exists_written (next : Printed) (rest : List Printed) :
    ∃ behind, written (next :: rest) = next.text ++ behind := by
  cases rest with
  | nil => exact ⟨[], (List.append_nil _).symm⟩
  | cons p rest => exact ⟨_, rfl⟩

/-- **Printed words** are laid out, with or without the spaces that may be left out. -/
theorem layout_written {printed : List Printed} (h : Writable (printed.map Printed.word)) :
    Layout (printed.map Printed.word) (written printed) := by
  induction printed with
  | nil => exact .nil
  | cons p rest ih =>
    obtain ⟨hp, hrest⟩ := writable_cons.1 h
    have hspelling := Printed.spelling_text hp
    have hbehind := ih hrest
    cases rest with
    | nil =>
      have hone := Layout.word hspelling (parted_nil.endsBefore p.word) .nil
      rwa [List.append_nil] at hone
    | cons next rest =>
      rw [written]
      cases hparts : p.parts next with
      | true =>
        have hspace : Parted (' ' :: written (next :: rest)) := parted_cons (by decide) _
        exact .word hspelling (hspace.endsBefore p.word) (.blank (by decide) hbehind)
      | false =>
        obtain ⟨behind, hstart⟩ := exists_written next rest
        have hends : p.word.EndsBefore (written (next :: rest)) := by
          rw [hstart]
          exact Printed.endsBefore_text hparts behind
        exact .word hspelling hends hbehind

/-- **Cutting a text into words undoes printing.** Identifiers, integers without a sign, texts in either quotation mark
and symbols are read back from their printed text, each as it was and in order. A space stands between two words; next
to a quoted text it makes no difference whether it is there. -/
theorem tokens_written (printed : List Printed) (h : Writable (printed.map Printed.word)) :
    tokens (written printed) = .ok (printed.map Printed.word) := by
  have hcut := (layout_written h).tokens parted_nil
  rw [List.append_nil] at hcut
  rw [hcut]
  simp [tokens, tokensAfter, Except.map]

/-- two texts around an identifier, the symbols of a comparison and a number, with as few spaces as there may be -/
def crowded : List Printed :=
  [⟨.str "a\"\\b", .double, false⟩, ⟨.ident "in", .double, false⟩, ⟨.str "é'\n", .single, false⟩,
    ⟨.symbol .less, .double, false⟩, ⟨.symbol .assign, .double, false⟩, ⟨.int 9223372036854775807, .double, false⟩]

theorem tokens_written_crowded :
    Writable (crowded.map Printed.word) ∧
      written crowded = "\"a\\\"\\\\b\"in'é\\'\n'< = 9223372036854775807".toList ∧
      tokens (written crowded) = .ok (crowded.map Printed.word) := by
  have hwritable : Writable (crowded.map Printed.word) := by
    simp [crowded, Token.isWritable]
    decide
  exact ⟨hwritable, by decide, tokens_written crowded hwritable⟩

end Templating.Expr
