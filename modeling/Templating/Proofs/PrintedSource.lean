/-
A source that is printed is read back.

Texts and code in turn (`Alternation`) are printed into a source: code between its delimiters, one space inside each
of them, a dash where there is a trim mark. The tokens of the source are the code in order, each piece at the place
where it was printed, and between them the texts, trimmed by the marks next to them. It holds of any texts in which no
delimiter opens, and of any code whose quotes are balanced and which the delimiter behind it does not close early.

- `Legible.isRegion`: printed code is one region, whatever stands around it.
- `regions_printed`: the regions of a printed source.
- `tokens_printed`: the tokens of a printed source.
-/
import Templating.Proofs.TrimMarks

namespace Templating.Template

/-! ## code and how it is printed -/

/-- two characters in a text stand at an index -/
theorem exists_index {text front back : List Char} {c d : Char} (h : text = front ++ c :: d :: back) :
    ∃ n < text.length, text.take n = front ∧ (text.drop n).take 2 = [c, d] := by
  refine ⟨front.length, by simp [h], by rw [h, List.take_left], ?_⟩
  rw [h, List.drop_left]
  rfl

/-- what stands between delimiters: an expression, or the name of a tag and its arguments -/
inductive Code where
  | output (expr : List Char)
  | tag (name args : List Char)
  deriving DecidableEq, Repr

namespace Code

/-- the character of the opening delimiter behind the brace -/
def opening : Code → Char
  | output _ => '\x7b'
  | tag _ _ => '%'

/-- the character of the closing delimiter in front of the brace -/
def close : Code → Char
  | output _ => '\x7d'
  | tag _ _ => '%'

/-- the name in front of the expression or the arguments -/
def named : Code → List Char
  | output _ => []
  | tag name args => if args = [] then name else name ++ [' ']

/-- the expression or the arguments -/
def argument : Code → List Char
  | output expr => expr
  | tag _ args => args

/-- code that can be printed and read back -/
structure Legible (code : Code) : Prop where
  trimmed : Text.trim code.argument = code.argument
  balanced : Quotes.outside.run code.argument = .outside
  /-- a closing delimiter in the code stands in quotes -/
  unclosed : ∀ front back, code.argument = front ++ code.close :: '\x7d' :: back → Quotes.outside.run front ≠ .outside
  identifier : ∀ name args, code = .tag name args →
    name ≠ [] ∧ (∀ c ∈ name, isTagNameChar c = true) ∧ name ≠ verbatimName

/-- the region that is the code -/
def region (position : Position) (marks : Marks) : Code → Region
  | output expr => .output position expr marks
  | tag name args => .tag position name args marks

/-- the token that is the code -/
def token (position : Position) : Code → Token
  | output expr => .output (String.ofList expr) position
  | tag name args => .tag (String.ofList name) (String.ofList args) position

/-- a trim mark -/
def dash (mark : Bool) : List Char :=
  if mark then ['-'] else []

/-- the code between the delimiters, with a space and a mark at either end -/
def inner (code : Code) (marks : Marks) : List Char :=
  dash marks.before ++ ' ' :: (code.named ++ code.argument ++ ' ' :: dash marks.behind)

/-- the code with its delimiters -/
def written (code : Code) (marks : Marks) : List Char :=
  '\x7b' :: code.opening :: (code.inner marks ++ [code.close, '\x7d'])

variable {code : Code} {marks : Marks} {name args : List Char}

theorem splitMarks_inner (code : Code) (marks : Marks) :
    splitMarks (code.inner marks) = (' ' :: (code.named ++ code.argument ++ [' ']), marks) := by
  obtain ⟨before, behind⟩ := marks
  cases before <;> cases behind <;> simp [inner, dash, splitMarks]

/-! ## printed code is one region -/

theorem mem_dash {c : Char} {mark : Bool} (h : c ∈ dash mark) : c = '-' := by
  unfold dash at h
  split_ifs at h
  · exact List.mem_singleton.1 h
  · cases h

theorem unquoted_mark {c : Char} (h : c = '-' ∨ c = ' ') : Quotes.Unquoted c ∧ c ≠ code.close := by
  rcases h with rfl | rfl <;> cases code <;> simp [Quotes.Unquoted, close]

/-- what is in front of the argument neither opens quotes nor closes the code -/
theorem Legible.front (h : code.Legible) {c : Char} (hc : c ∈ dash marks.before ++ ' ' :: code.named) :
    Quotes.Unquoted c ∧ c ≠ code.close := by
  rcases List.mem_append.1 hc with hc | hc
  · exact unquoted_mark (Or.inl (mem_dash hc))
  · rcases List.mem_cons.1 hc with rfl | hc
    · exact unquoted_mark (Or.inr rfl)
    · cases code with
      | output expr => cases hc
      | tag name args =>
        have hname : c ∈ name ∨ c = ' ' := by
          rw [named] at hc
          split_ifs at hc
          · exact Or.inl hc
          · simpa using hc
        rcases hname with hname | rfl
        · exact unquoted_of_isTagNameChar ((h.identifier name args rfl).2.1 c hname)
        · exact unquoted_mark (Or.inr rfl)

/-- **The closing delimiter of printed code** is the first one outside of quotes. -/
theorem Legible.closes (h : code.Legible) (marks : Marks) : Quotes.outside.Closes code.close (code.inner marks) := by
  have hend : Quotes.outside.Closes code.close (' ' :: dash marks.behind ++ []) := by
    refine (Quotes.closes_append_unquoted fun c hc => ?_).2 (Quotes.closes_nil.2 rfl)
    rcases List.mem_cons.1 hc with hc | hc
    · exact unquoted_mark (Or.inr hc)
    · exact unquoted_mark (Or.inl (mem_dash hc))
  rw [List.append_nil] at hend
  have hargument := hend.append_front (by simp) h.balanced h.unclosed
  have hinner : code.inner marks =
      (dash marks.before ++ ' ' :: code.named) ++ (code.argument ++ ' ' :: dash marks.behind) := by
    simp [inner]
  rw [hinner]
  exact (Quotes.closes_append_unquoted fun c hc => h.front hc).2 hargument

theorem trim_spaced (text : List Char) : Text.trim (' ' :: (text ++ [' '])) = Text.trim text := by
  rw [Text.trim_cons_blank (by decide), Text.trim_concat_blank (by decide)]

theorem isBlank_of_isTagNameChar {c : Char} (h : isTagNameChar c = true) : Text.isBlank c = false := by
  simp only [isTagNameChar, Bool.or_eq_true, beq_iff_eq] at h
  rcases h with h | rfl
  · exact Text.isBlank_of_isAlphanum h
  · decide

/-- the name and the arguments of a printed tag -/
theorem splitTag_spaced (h : (tag name args).Legible) :
    splitTag (' ' :: ((tag name args).named ++ args ++ [' '])) = (name, args) := by
  obtain ⟨hname, hchars, -⟩ := h.identifier name args rfl
  have hargs : Text.trim args = args := h.trimmed
  have hstart : Text.trimStart ((tag name args).named ++ args) = (tag name args).named ++ args := by
    obtain ⟨c, tail, rfl⟩ := List.exists_cons_of_ne_nil hname
    have hc := isBlank_of_isTagNameChar (hchars c (by simp))
    by_cases hnone : args = [] <;> simp [named, hnone, Text.trimStart_cons hc]
  have hend : Text.trimEnd ((tag name args).named ++ args) = (tag name args).named ++ args := by
    by_cases hnone : args = []
    · obtain ⟨front, c, rfl⟩ := (List.eq_nil_or_concat' name).resolve_left hname
      have hc := isBlank_of_isTagNameChar (hchars c (by simp))
      simp [named, hnone, Text.trimEnd_concat hc]
    · obtain ⟨-, hkept⟩ := Text.trim_ends hargs
      rw [Text.trimEnd_append (by rwa [hkept]), hkept]
  have htrim : Text.trim (' ' :: ((tag name args).named ++ args ++ [' '])) = (tag name args).named ++ args := by
    rw [trim_spaced, Text.trim, hstart, hend]
  obtain ⟨rest, hrest, hstop, hbehind⟩ : ∃ rest, (tag name args).named ++ args = name ++ rest ∧
      (∀ c ∈ rest.head?, isTagNameChar c = false) ∧ Text.trim rest = args := by
    by_cases hnone : args = []
    · exact ⟨[], by simp [named, hnone], by simp, hnone.symm⟩
    · refine ⟨' ' :: args, by simp [named, hnone], Text.stops_cons (by decide) args, ?_⟩
      rw [Text.trim_cons_blank (by decide), hargs]
  obtain ⟨htake, hdrop⟩ := Text.takeWhile_front hchars hstop
  rw [hrest] at htrim ⊢
  simp only [splitTag, htrim, htake, hdrop, hbehind]

/-- **Printed code is one region**, whatever stands around it. -/
theorem Legible.isRegion (h : code.Legible) (marks : Marks) (position : Position) :
    IsRegion (code.written marks) (code.region position marks) := by
  cases code with
  | output expr =>
    have htrim : Text.trim (' ' :: (expr ++ [' '])) = expr := (trim_spaced expr).trans h.trimmed
    have hregion := isRegion_output (h.closes marks) position
    rw [splitMarks_inner] at hregion
    simp only [named, argument, List.nil_append, htrim] at hregion
    exact hregion
  | tag name args =>
    obtain ⟨hname, -, hverbatim⟩ := h.identifier name args rfl
    have hread : ∀ place left, readTag place ((tag name args).inner marks) ([] ++ left) =
        .ok ((region position marks (tag name args)).placed place, left) := fun place left =>
      readTag_named (splitMarks_inner _ marks) (splitTag_spaced h) ⟨by simpa using hname, hverbatim⟩ place left
    have hregion := isRegion_tag (h.closes marks) hread
    rwa [List.append_nil] at hregion

theorem placed_region (code : Code) (marks : Marks) (position : Position) :
    (code.region position marks).placed position = code.region position marks := by
  cases code <;> rfl

end Code

/-! ## texts and code in turn -/

/-- texts and code in turn, each piece of code with its trim marks -/
inductive Alternation where
  | last (text : List Char)
  | next (text : List Char) (code : Code) (marks : Marks) (rest : Alternation)
  deriving DecidableEq, Repr

/-- what is kept of a text between a mark in front of it and one behind -/
def keptText (before behind : Bool) (text : List Char) : List Char :=
  if behind then Text.trimEnd (Assembly.trimFirst before text) else Assembly.trimFirst before text

/-- a text as a token, unless it is empty -/
def textTokens (text : List Char) : List Token :=
  if text = [] then [] else [.text (String.ofList text)]

namespace Alternation

/-- the source that is printed -/
def printed : Alternation → List Char
  | last text => text
  | next text code marks rest => text ++ (code.written marks ++ rest.printed)

/-- the texts open no delimiter, not even with what is behind them, and the code can be read back -/
def Legible : Alternation → Prop
  | last text => NoOpening text
  | next text code _ rest => NoOpening text ∧ text.getLast? ≠ some '\x7b' ∧ code.Legible ∧ rest.Legible

/-- the regions of the source -/
def regions (position : Position) : Alternation → List Region
  | last text => plainRegions text
  | next text code marks rest =>
    plainRegions text ++ code.region (position.after text) marks ::
      rest.regions ((position.after text).after (code.written marks))

/-- the tokens of the source: the code where it is printed, and between its pieces what the marks leave of the texts -/
def tokens (position : Position) (mark : Bool) : Alternation → List Token
  | last text => textTokens (keptText mark false text)
  | next text code marks rest =>
    textTokens (keptText mark marks.before text) ++ code.token (position.after text) ::
      rest.tokens ((position.after text).after (code.written marks)) marks.behind

/-- **The regions of a printed source** are the texts and the code. -/
theorem regions_printed {a : Alternation} (h : a.Legible) (position : Position) :
    regionsAfter 0 position a.printed = .ok (a.regions position) := by
  induction a generalizing position with
  | last text =>
    have htext := regionsAfter_text h (Or.inr rfl) position
    rwa [List.append_nil, regionsAfter, Except.map, foldr_consText text (by simp), List.append_nil] at htext
  | next text code marks rest ih =>
    obtain ⟨htext, hlast, hcode, hrest⟩ := h
    have hnot : ∀ region ∈ (code.region (position.after text) marks ::
        rest.regions ((position.after text).after (code.written marks))).head?, region.isText = false := by
      cases code <;> simp [Code.region, Region.isText]
    rw [printed, regionsAfter_text htext (Or.inl hlast),
      regionsAfter_piece (hcode.isRegion marks (position.after text)), ih hrest, Code.placed_region]
    exact congrArg Except.ok (foldr_consText text hnot)

theorem pushText_textTokens (stack : List Token) (text : List Char) :
    Assembly.pushText stack text = (textTokens text).reverse ++ stack := by
  by_cases hnone : text = [] <;> simp [Assembly.pushText, textTokens, hnone]

open Assembly in
/-- a text on top of what is no text, with a mark in front of it and one behind -/
theorem trimLast_pushText {stack : List Token} (h : ∀ s, stack.head? ≠ some (.text s)) (before behind : Bool)
    (text : List Char) : trimLast behind (pushText stack (trimFirst before text)) =
      (textTokens (keptText before behind text)).reverse ++ stack := by
  rw [← pushText_textTokens]
  cases behind with
  | false => rfl
  | true =>
    rw [keptText, if_pos rfl]
    by_cases hnone : trimFirst before text = []
    · -- nothing is left of the text, and the mark comes to what is no text
      have hstack : trimLast true stack = stack := by
        cases stack with
        | nil => rfl
        | cons token stack =>
          cases token with
          | text s => exact absurd rfl (h s)
          | _ => rfl
      simpa [hnone, pushText] using hstack
    · simp [pushText, hnone, trimLast]

theorem step_region (a : Assembly) (code : Code) (marks : Marks) (position : Position) :
    a.step (code.region position marks) =
      ⟨code.token position :: Assembly.trimLast marks.before a.tokens, marks.behind⟩ := by
  cases code <;> rfl

/-- what the regions leave on the stack -/
theorem run_regions (a : Alternation) (position : Position) {stack : List Token}
    (h : ∀ s, stack.head? ≠ some (.text s)) (mark : Bool) :
    ((a.regions position).foldl Assembly.step ⟨stack, mark⟩).tokens = (a.tokens position mark).reverse ++ stack := by
  induction a generalizing position stack mark with
  | last text =>
    rw [regions, Assembly.foldl_plainRegions]
    exact trimLast_pushText h mark false text
  | next text code marks rest ih =>
    have htop : ∀ s, (code.token (position.after text) ::
        ((textTokens (keptText mark marks.before text)).reverse ++ stack)).head? ≠ some (.text s) := by
      cases code <;> simp [Code.token]
    rw [regions, List.foldl_append, Assembly.foldl_plainRegions, List.foldl_cons, step_region]
    dsimp only
    rw [trimLast_pushText h, ih _ htop, tokens]
    simp

/-- **A printed source is read back**: the tokens are the code in order, each piece where it was printed, and between
them the texts without the white space that the marks take, when anything is left of them. -/
theorem tokens_printed (a : Alternation) (h : a.Legible) :
    Template.tokens (String.ofList a.printed) = .ok (a.tokens .start false) := by
  have hempty : ∀ s, ([] : List Token).head? ≠ some (.text s) := by simp
  have hrun := run_regions a .start hempty false
  rw [Template.tokens, String.toList_ofList, Template.regions, regions_printed h]
  exact congrArg Except.ok (by rw [tokensOf, Assembly.start, hrun]; simp)

/-- a text, an output with a quoted closing delimiter, a text, a tag, and a text that ends in a brace -/
def braces : Alternation :=
  .next "a ".toList (.output "'\x7d\x7d'".toList) ⟨true, true⟩
    (.next " b ".toList (.tag "if".toList "x".toList) ⟨false, true⟩ (.last " c \x7b".toList))

theorem tokens_printed_braces :
    Template.tokens "a \x7b\x7b- '\x7d\x7d' -\x7d\x7d b \x7b% if x -%\x7d c \x7b" =
      .ok [.text "a", .output "'\x7d\x7d'" ⟨2, 0, 2⟩, .text "b ", .tag "if" "x" ⟨17, 0, 17⟩, .text "c \x7b"] := by
  have hplain : ∀ text : List Char,
      (∀ n < text.length, (text.drop n).take 2 ∉ [['\x7b', '\x7b'], ['\x7b', '%'], ['\x7b', '#']]) →
      NoOpening text := by
    intro text hnone front d back hsplit hd
    obtain ⟨n, hn, -, hopening⟩ := exists_index hsplit
    refine hnone n hn ?_
    rw [hopening]
    simpa using hd
  have houtput : (Code.output "'\x7d\x7d'".toList).Legible := by
    have hquoted : ∀ n < "'\x7d\x7d'".toList.length, ("'\x7d\x7d'".toList.drop n).take 2 = ['\x7d', '\x7d'] →
        Quotes.outside.run ("'\x7d\x7d'".toList.take n) ≠ .outside := by decide
    refine ⟨by decide, by decide, fun front back hsplit => ?_, by simp⟩
    obtain ⟨n, hn, hfront, hclose⟩ := exists_index hsplit
    rw [← hfront]
    exact hquoted n hn hclose
  have htag : (Code.tag "if".toList "x".toList).Legible := by
    refine ⟨by decide, by decide, fun front back hsplit => ?_, ?_⟩
    · have hmem : '%' ∈ "x".toList := by
        rw [show "x".toList = front ++ '%' :: '\x7d' :: back from hsplit]
        simp
      exact absurd hmem (by decide)
    · rintro name args hcode
      cases hcode
      exact ⟨by decide, List.all_eq_true.1 (by decide), by decide⟩
  have hlegible : braces.Legible :=
    ⟨hplain _ (by decide), by decide, houtput, hplain _ (by decide), by decide, htag, hplain _ (by decide)⟩
  have htokens := tokens_printed braces hlegible
  rwa [show String.ofList braces.printed =
    "a \x7b\x7b- '\x7d\x7d' -\x7d\x7d b \x7b% if x -%\x7d c \x7b" from rfl,
    show braces.tokens .start false = [.text "a", .output "'\x7d\x7d'" ⟨2, 0, 2⟩, .text "b ",
      .tag "if" "x" ⟨17, 0, 17⟩, .text "c \x7b"] from rfl] at htokens

end Alternation

end Templating.Template
