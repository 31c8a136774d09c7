/-
The text of an expression inside a longer text.

A word ends at white space, so the words of a text are the same in front of a text that starts with white space
(`tokens_append`), and without the white space at its end (`tokens_trimEnd`). The search for the end of a tag has the
same rule for quoted texts as the reading of words, and outside of them no word has a percent sign, so it passes over
every text that can be cut into words (`passes_tokens`).
-/
import Templating.Proofs.MoreWords
import Templating.Proofs.TagText

namespace Templating

namespace Expr

variable {c quote : Char} {text rest left : List Char} {word : Token} {words : List Token}

/-- the text is empty or starts with white space -/
def StartsBlank (text : List Char) : Prop :=
  ∀ c ∈ text.head?, Text.isBlank c = true

theorem startsBlank_nil : StartsBlank [] := by
  intro c hc
  cases hc

theorem startsBlank_cons (h : Text.isBlank c = true) (rest : List Char) : StartsBlank (c :: rest) := by
  intro d hd
  cases hd
  exact h

/-! ## quoted texts -/

/-- a quoted text ends where it ends, whatever follows -/
theorem readQuoted_append (hquote : quote ≠ '\\') {s : List Char} (h : readQuoted quote text = .ok (s, left))
    (rest : List Char) : readQuoted quote (text ++ rest) = .ok (s, left ++ rest) := by
  fun_induction readQuoted quote text generalizing s left with
  | case1 => cases h
  | case2 =>
    cases h
    cases rest with
    | nil => simp [readQuoted]
    | cons d rest => simp [readQuoted, hquote]
  | case3 => cases h
  | case4 d tail ih =>
    obtain ⟨⟨s', left'⟩, hread, h⟩ := map_eq_ok.1 h
    cases h
    simp [readQuoted, ih hread, Except.map]
  | case5 d tail =>
    cases h
    simp [readQuoted, hquote]
  | case6 c d tail hhide hend ih =>
    obtain ⟨⟨s', left'⟩, hread, h⟩ := map_eq_ok.1 h
    cases h
    have hbehind := ih hread
    rw [List.cons_append] at hbehind
    simp [readQuoted, hhide, hend, hbehind, Except.map]

/-- a quoted text that does not end is not closed by one more character that is no quote -/
theorem readQuoted_append_error {b : Char} (hb : b ≠ quote) {fault : SyntaxFault}
    (h : readQuoted quote text = .error fault) : ∃ fault', readQuoted quote (text ++ [b]) = .error fault' := by
  fun_induction readQuoted quote text generalizing fault with
  | case1 => exact ⟨.stringNotClosed, by simp [readQuoted, hb]⟩
  | case2 => cases h
  | case3 c hend =>
    by_cases hhide : c = '\\'
    · exact ⟨.stringNotClosed, by simp [readQuoted, hhide, Except.map]⟩
    · exact ⟨.stringNotClosed, by simp [readQuoted, hhide, hend, hb, Except.map]⟩
  | case4 d tail ih =>
    cases hread : readQuoted quote tail with
    | ok read =>
      rw [hread] at h
      cases h
    | error fault =>
      obtain ⟨fault', hbehind⟩ := ih hread
      exact ⟨fault', by simp [readQuoted, hbehind, Except.map]⟩
  | case5 d tail => cases h
  | case6 c d tail hhide hend ih =>
    cases hread : readQuoted quote (d :: tail) with
    | ok read =>
      rw [hread] at h
      cases h
    | error fault =>
      obtain ⟨fault', hbehind⟩ := ih hread
      rw [List.cons_append] at hbehind
      exact ⟨fault', by simp [readQuoted, hhide, hend, hbehind, Except.map]⟩

/-- the search for the end of a tag passes over a quoted text, by the rule by which it is read -/
theorem cutClose?_readQuoted (hquote : quote ≠ '\\') {s : List Char} (h : readQuoted quote text = .ok (s, left)) :
    ∃ inside, text = inside ++ quote :: left ∧ ∀ rest, rest ≠ [] →
      Template.cutClose? '%' (some quote) (inside ++ quote :: rest) =
        (Template.cutClose? '%' none rest).map fun (inner, left) => (inside ++ quote :: inner, left) := by
  have hclose : ∀ rest, rest ≠ [] → Template.cutClose? '%' (some quote) (quote :: rest) =
      (Template.cutClose? '%' none rest).map fun (inner, left) => (quote :: inner, left) := by
    intro rest hrest
    obtain ⟨d, rest, rfl⟩ := List.exists_cons_of_ne_nil hrest
    simp [Template.cutClose?, hquote]
  fun_induction readQuoted quote text generalizing s left with
  | case1 => cases h
  | case2 =>
    cases h
    exact ⟨[], rfl, hclose⟩
  | case3 => cases h
  | case4 d tail ih =>
    obtain ⟨⟨s', left'⟩, hread, h⟩ := map_eq_ok.1 h
    cases h
    obtain ⟨inside, rfl, hpasses⟩ := ih hread
    refine ⟨'\\' :: d :: inside, rfl, fun rest hrest => ?_⟩
    simp [Template.cutClose?, hpasses rest hrest, Function.comp_def]
  | case5 d tail =>
    cases h
    exact ⟨[], rfl, hclose⟩
  | case6 c d tail hhide hend ih =>
    obtain ⟨⟨s', left'⟩, hread, h⟩ := map_eq_ok.1 h
    cases h
    obtain ⟨inside, hinside, hpasses⟩ := ih hread
    refine ⟨c :: inside, by rw [hinside]; rfl, fun rest hrest => ?_⟩
    obtain ⟨e, behind, hbehind⟩ := List.exists_cons_of_ne_nil (show inside ++ quote :: rest ≠ [] by simp)
    have hpasses := hpasses rest hrest
    rw [List.cons_append, hbehind]
    rw [hbehind] at hpasses
    simp [Template.cutClose?, hhide, hend, hpasses, Function.comp_def]

/-! ## words -/

theorem afterMark?_append {mark : List Char} (hmark : ∀ c ∈ mark, Text.isBlank c = false) (hrest : StartsBlank rest)
    (text : List Char) : Text.afterMark? mark (text ++ rest) = (Text.afterMark? mark text).map (· ++ rest) := by
  induction mark generalizing text with
  | nil => rfl
  | cons m mark ih =>
    obtain ⟨hm, hmark⟩ := List.forall_mem_cons.1 hmark
    cases text with
    | nil =>
      cases rest with
      | nil => rfl
      | cons c rest =>
        have hne : m ≠ c := by
          rintro rfl
          rw [hrest m rfl] at hm
          cases hm
        simp [Text.afterMark?, hne]
    | cons c text =>
      by_cases hc : m = c
      · simp [Text.afterMark?, hc, ih hmark]
      · simp [Text.afterMark?, hc]

theorem readSymbol_append (hrest : StartsBlank rest) (text : List Char) :
    readSymbol (text ++ rest) = (readSymbol text).map fun (symbol, left) => (symbol, left ++ rest) := by
  have hchars : ∀ symbol : Symbol, ∀ c ∈ symbol.chars, Text.isBlank c = false := by
    intro symbol c hc
    have hall : symbol.chars.all (fun c => !Text.isBlank c) = true := by
      cases symbol <;> decide
    simpa using List.all_eq_true.1 hall c hc
  have hsymbol : ∀ symbol : Symbol,
      (Text.afterMark? symbol.chars (text ++ rest)).map (fun left => (symbol, left)) =
        ((Text.afterMark? symbol.chars text).map fun left => (symbol, left)).map fun (symbol, left) =>
          (symbol, left ++ rest) := by
    intro symbol
    rw [afterMark?_append (hchars symbol) hrest, Option.map_map, Option.map_map]
    rfl
  rw [readSymbol, readSymbol, List.map_findSome?]
  exact congrArg (fun f => Symbol.all.findSome? f) (funext hsymbol)

/-- no character of a word but in quotes is white space -/
theorem isIdentChar_of_isBlank (h : Text.isBlank c = true) : isIdentChar c = false := by
  by_contra hword
  have hname : Markup.isAttributeNameChar c = true := by
    simp only [isIdentChar, Bool.not_eq_false, Bool.or_eq_true, beq_iff_eq] at hword
    rcases hword with hword | rfl
    · simp [Markup.isAttributeNameChar, hword]
    · decide
  rw [Markup.isBlank_of_isAttributeNameChar hname] at h
  cases h

theorem isIdentChar_of_isIdentStart (h : isIdentStart c = true) : isIdentChar c = true := by
  simp only [isIdentStart, Bool.or_eq_true] at h
  simp only [isIdentChar, Char.isAlphanum, Bool.or_eq_true]
  rcases h with h | h
  · exact Or.inl (Or.inl h)
  · exact Or.inr h

theorem isIdentChar_of_isDigit (h : c.isDigit = true) : isIdentChar c = true := by
  simp [isIdentChar, Char.isAlphanum, h]

theorem isDigit_of_isBlank (h : Text.isBlank c = true) : c.isDigit = false := by
  by_contra hdigit
  have hword := isIdentChar_of_isDigit (Bool.of_not_eq_false hdigit)
  rw [isIdentChar_of_isBlank h] at hword
  cases hword

/-- the digits behind the point of a number -/
def fractionOf (left : List Char) : List Char :=
  match left with
  | '.' :: after => after.takeWhile Char.isDigit
  | _ => []

theorem readNumber_eq (text : List Char) : readNumber text =
    if (fractionOf (text.dropWhile Char.isDigit)).isEmpty then
      if Decimal.natOfDigits (text.takeWhile Char.isDigit) ≤ maxLiteral then
        .ok (.int (Int64.ofNat (Decimal.natOfDigits (text.takeWhile Char.isDigit))), text.dropWhile Char.isDigit)
      else .error (.invalidNumber (String.ofList (text.takeWhile Char.isDigit)))
    else
      .ok (.float (Decimal.floatOfDigits (text.takeWhile Char.isDigit) (fractionOf (text.dropWhile Char.isDigit))),
        (text.dropWhile Char.isDigit).drop (1 + (fractionOf (text.dropWhile Char.isDigit)).length)) := rfl

/-- a fraction is a point and digits at the start of what is left -/
theorem fractionOf_append (hdigit : ∀ c ∈ rest.head?, c.isDigit = false) (hpoint : rest.head? ≠ some '.')
    (left : List Char) : fractionOf (left ++ rest) = fractionOf left := by
  cases left with
  | nil =>
    cases rest with
    | nil => rfl
    | cons c rest =>
      have hc : c ≠ '.' := fun hc => hpoint (congrArg some hc)
      unfold fractionOf
      simp [hc]
  | cons d after =>
    by_cases hd : d = '.'
    · subst hd
      exact (Text.takeWhile_append_stop hdigit after).1
    · simp [fractionOf, hd]

/-- a fraction stands behind a point -/
theorem exists_point {left : List Char} (h : (fractionOf left).isEmpty = false) : ∃ after, left = '.' :: after := by
  unfold fractionOf at h
  split at h
  · next after => exact ⟨after, rfl⟩
  · cases h

theorem length_fractionOf {left : List Char} (h : (fractionOf left).isEmpty = false) :
    1 + (fractionOf left).length ≤ left.length := by
  obtain ⟨after, rfl⟩ := exists_point h
  have hlength : (fractionOf ('.' :: after)).length ≤ after.length :=
    (List.takeWhile_sublist Char.isDigit (l := after)).length_le
  rw [List.length_cons]
  omega

theorem readNumber_append (hrest : StartsBlank rest) (text : List Char) :
    readNumber (text ++ rest) = (readNumber text).map fun (word, left) => (word, left ++ rest) := by
  have hdigit : ∀ c ∈ rest.head?, c.isDigit = false := fun c hc => isDigit_of_isBlank (hrest c hc)
  have hpoint : rest.head? ≠ some '.' := fun hc => absurd (hrest '.' hc) (by decide)
  obtain ⟨htake, hdrop⟩ := Text.takeWhile_append_stop hdigit text
  rw [readNumber_eq, readNumber_eq, htake, hdrop, fractionOf_append hdigit hpoint]
  split_ifs with hnone hfits
  · rfl
  · rfl
  · rw [Bool.not_eq_true] at hnone
    rw [List.drop_append_of_le_length (length_fractionOf hnone)]
    rfl

/-! ## one word -/

/-- a word is the same in front of white space -/
theorem readToken_append (hrest : StartsBlank rest) (h : readToken c text = .ok (word, left)) :
    readToken c (text ++ rest) = .ok (word, left ++ rest) := by
  unfold readToken at h ⊢
  split_ifs at h ⊢ with hquote hdigit hident
  · obtain ⟨⟨s, left'⟩, hread, h⟩ := map_eq_ok.1 h
    cases h
    rw [readQuoted_append (ne_backslash hquote) hread]
    rfl
  · rw [← List.cons_append, readNumber_append hrest, h]
    rfl
  · cases h
    have hword : ∀ c ∈ rest.head?, isIdentChar c = false := fun c hc => isIdentChar_of_isBlank (hrest c hc)
    obtain ⟨htake, hdrop⟩ := Text.takeWhile_append_stop hword (c :: text)
    rw [← List.cons_append, htake, hdrop]
  · rw [← List.cons_append, readSymbol_append hrest]
    cases hread : readSymbol (c :: text) with
    | none =>
      rw [hread] at h
      cases h
    | some read =>
      rw [hread] at h
      cases h
      rfl

/-- what is no word does not become one by white space behind it -/
theorem readToken_append_error {b : Char} (hb : Text.isBlank b = true) {fault : SyntaxFault}
    (h : readToken c text = .error fault) : ∃ fault', readToken c (text ++ [b]) = .error fault' := by
  have hrest := startsBlank_cons hb []
  unfold readToken at h ⊢
  split_ifs at h ⊢ with hquote hdigit hident
  · have hne : b ≠ c := by
      rintro rfl
      rcases hquote with rfl | rfl <;> exact absurd hb (by decide)
    cases hread : readQuoted c text with
    | ok read =>
      rw [hread] at h
      cases h
    | error fault =>
      obtain ⟨fault', hbehind⟩ := readQuoted_append_error hne hread
      exact ⟨fault', by rw [hbehind]; rfl⟩
  · rw [← List.cons_append, readNumber_append hrest, h]
    exact ⟨fault, rfl⟩
  · rw [← List.cons_append, readSymbol_append hrest]
    cases hread : readSymbol (c :: text) with
    | none => exact ⟨_, rfl⟩
    | some read =>
      rw [hread] at h
      cases h

/-! ## all words -/

theorem tokensAfter_append (hrest : StartsBlank rest) {skip : Nat} (hskip : skip ≤ text.length)
    (h : tokensAfter skip text = .ok words) :
    tokensAfter skip (text ++ rest) = (tokens rest).map (words ++ ·) := by
  induction text generalizing skip words with
  | nil =>
    obtain rfl : skip = 0 := Nat.le_zero.1 hskip
    cases h
    rw [List.nil_append, ← tokens]
    cases tokens rest <;> rfl
  | cons c text ih =>
    cases skip with
    | succ skip => exact ih (Nat.le_of_succ_le_succ hskip) h
    | zero =>
      rw [tokensAfter] at h
      rw [List.cons_append, tokensAfter]
      split_ifs at h ⊢ with hblank
      · exact ih (Nat.zero_le _) h
      · cases hread : readToken c text with
        | error fault =>
          rw [hread] at h
          cases h
        | ok read =>
          obtain ⟨word, left⟩ := read
          rw [hread] at h
          obtain ⟨words, hwords, rfl⟩ := map_eq_ok.1 h
          have hlength : (text ++ rest).length - (left ++ rest).length = text.length - left.length := by
            simp only [List.length_append]
            omega
          rw [readToken_append hrest hread]
          dsimp only
          rw [hlength, ih (Nat.sub_le _ _) hwords]
          cases tokens rest <;> rfl

/-- **The words of a text** are the same in front of white space. -/
theorem tokens_append (hrest : StartsBlank rest) (h : tokens text = .ok words) :
    tokens (text ++ rest) = (tokens rest).map (words ++ ·) :=
  tokensAfter_append hrest (Nat.zero_le _) h

/-- a text that is not cut into words is not with white space behind it either -/
theorem tokensAfter_append_error {b : Char} (hb : Text.isBlank b = true) {skip : Nat} (hskip : skip ≤ text.length)
    {fault : SyntaxFault} (h : tokensAfter skip text = .error fault) :
    ∃ fault', tokensAfter skip (text ++ [b]) = .error fault' := by
  induction text generalizing skip fault with
  | nil =>
    obtain rfl : skip = 0 := Nat.le_zero.1 hskip
    cases h
  | cons c text ih =>
    cases skip with
    | succ skip => exact ih (Nat.le_of_succ_le_succ hskip) h
    | zero =>
      rw [tokensAfter] at h
      rw [List.cons_append, tokensAfter]
      split_ifs at h ⊢ with hblank
      · exact ih (Nat.zero_le _) h
      · cases hread : readToken c text with
        | error fault =>
          obtain ⟨fault', hbehind⟩ := readToken_append_error hb hread
          exact ⟨fault', by rw [hbehind]⟩
        | ok read =>
          obtain ⟨word, left⟩ := read
          rw [hread] at h
          dsimp only at h
          have hlength : (text ++ [b]).length - (left ++ [b]).length = text.length - left.length := by
            simp only [List.length_append]
            omega
          rw [readToken_append (startsBlank_cons hb []) hread]
          dsimp only
          rw [hlength]
          cases hrest : tokensAfter (text.length - left.length) text with
          | ok words =>
            rw [hrest] at h
            cases h
          | error fault =>
            obtain ⟨fault', hbehind⟩ := ih (Nat.sub_le _ _) hrest
            exact ⟨fault', by rw [hbehind]; rfl⟩

/-- one white space character is no word -/
theorem tokens_blank {b : Char} (hb : Text.isBlank b = true) (h : tokens [b] = .ok words) : words = [] := by
  rw [tokens, tokensAfter] at h
  split_ifs at h with hascii
  · cases h
    rfl
  · -- white space that does not separate words starts none
    have hquote : ¬ (b = '"' ∨ b = '\'') := by
      rintro (rfl | rfl) <;> exact absurd hb (by decide)
    have hident : ¬ isIdentStart b = true := by
      intro hstart
      have hword := isIdentChar_of_isIdentStart hstart
      rw [isIdentChar_of_isBlank hb] at hword
      cases hword
    have hsymbol : readSymbol [b] = none := by
      have hnone := readSymbol_append (startsBlank_cons hb []) []
      exact hnone
    have hread : readToken b [] = .error (.unexpectedCharacter b) := by
      simp [readToken, hquote, isDigit_of_isBlank hb, hident, hsymbol]
    rw [hread] at h
    cases h

theorem tokens_of_append_blanks {blanks : List Char} (hblanks : ∀ c ∈ blanks, Text.isBlank c = true)
    (h : tokens (text ++ blanks) = .ok words) : tokens text = .ok words := by
  induction blanks generalizing text with
  | nil => rwa [List.append_nil] at h
  | cons b blanks ih =>
    obtain ⟨hb, hblanks⟩ := List.forall_mem_cons.1 hblanks
    rw [List.append_cons] at h
    have hone := ih hblanks h
    cases hwords : tokens text with
    | error fault =>
      obtain ⟨fault', hbehind⟩ := tokensAfter_append_error hb (Nat.zero_le _) hwords
      rw [tokens, hbehind] at hone
      cases hone
    | ok words' =>
      rw [tokens_append (startsBlank_cons hb []) hwords] at hone
      obtain ⟨last, hlast, rfl⟩ := map_eq_ok.1 hone
      rw [tokens_blank hb hlast, List.append_nil]

/-- **White space at the end of a text** is no word. -/
theorem tokens_trimEnd (h : tokens text = .ok words) : tokens (Text.trimEnd text) = .ok words := by
  obtain ⟨blanks, hsplit, hblanks⟩ := Text.exists_blanks text
  rw [hsplit] at h
  exact tokens_of_append_blanks hblanks h

/-! ## the characters of a word -/

/-- characters of the words that are no quoted texts -/
def isWordChar (c : Char) : Bool :=
  isIdentChar c || Symbol.all.any fun symbol => symbol.chars.contains c

theorem isWordChar_of_isIdentChar (h : isIdentChar c = true) : isWordChar c = true := by
  simp [isWordChar, h]

theorem isWordChar_of_mem_chars {symbol : Symbol} (h : c ∈ symbol.chars) : isWordChar c = true := by
  have hany : Symbol.all.any (fun symbol => symbol.chars.contains c) = true :=
    List.any_eq_true.2 ⟨symbol, Symbol.mem_all symbol, List.contains_iff_mem.2 h⟩
  rw [isWordChar, hany, Bool.or_true]

theorem isWordChar_of_isDigit (h : c.isDigit = true) : isWordChar c = true :=
  isWordChar_of_isIdentChar (isIdentChar_of_isDigit h)

theorem chars_readNumber (hdigit : c.isDigit = true) (h : readNumber (c :: text) = .ok (word, left)) :
    ∃ read, text = read ++ left ∧ ∀ d ∈ c :: read, isWordChar d = true := by
  have hwhole : ∀ d ∈ c :: text.takeWhile Char.isDigit, isWordChar d = true :=
    List.forall_mem_cons.2 ⟨isWordChar_of_isDigit hdigit, fun d hd => isWordChar_of_isDigit (List.mem_takeWhile_imp hd)⟩
  have hdrop : (c :: text).dropWhile Char.isDigit = text.dropWhile Char.isDigit := List.dropWhile_cons_of_pos hdigit
  rw [readNumber_eq, hdrop] at h
  split_ifs at h with hnone hfits
  · cases h
    exact ⟨text.takeWhile Char.isDigit, List.takeWhile_append_dropWhile.symm, hwhole⟩
  · -- the point and the digits behind it belong to the number
    rw [Bool.not_eq_true] at hnone
    obtain ⟨after, hafter⟩ := exists_point hnone
    have hfraction : ∀ d ∈ '.' :: after.takeWhile Char.isDigit, isWordChar d = true :=
      List.forall_mem_cons.2 ⟨by decide, fun d hd => isWordChar_of_isDigit (List.mem_takeWhile_imp hd)⟩
    have hbehind : ('.' :: after).drop (1 + (after.takeWhile Char.isDigit).length) = after.dropWhile Char.isDigit := by
      have hleft : (after.takeWhile Char.isDigit ++ after.dropWhile Char.isDigit).drop
          (after.takeWhile Char.isDigit).length = after.dropWhile Char.isDigit := List.drop_left' rfl
      rw [List.takeWhile_append_dropWhile] at hleft
      rw [Nat.add_comm, List.drop_succ_cons, hleft]
    rw [hafter, show fractionOf ('.' :: after) = after.takeWhile Char.isDigit from rfl, hbehind] at h
    cases h
    refine ⟨text.takeWhile Char.isDigit ++ '.' :: after.takeWhile Char.isDigit, ?_, fun d hd => ?_⟩
    · calc text = text.takeWhile Char.isDigit ++ text.dropWhile Char.isDigit := List.takeWhile_append_dropWhile.symm
        _ = text.takeWhile Char.isDigit ++ '.' :: (after.takeWhile Char.isDigit ++ after.dropWhile Char.isDigit) := by
          rw [hafter, List.takeWhile_append_dropWhile]
        _ = text.takeWhile Char.isDigit ++ '.' :: after.takeWhile Char.isDigit ++ after.dropWhile Char.isDigit := by
          simp only [List.append_assoc, List.cons_append]
    · rw [← List.cons_append] at hd
      rcases List.mem_append.1 hd with hd | hd
      · exact hwhole d hd
      · exact hfraction d hd

/-- a symbol is read by its characters -/
theorem append_of_readSymbol {symbol : Symbol} (h : readSymbol text = some (symbol, left)) :
    symbol.chars ++ left = text := by
  obtain ⟨symbol, -, hsymbol⟩ := List.exists_of_findSome?_eq_some h
  obtain ⟨left', hmark, heq⟩ := Option.map_eq_some_iff.1 hsymbol
  cases heq
  exact Text.afterMark?_eq_some.1 hmark

theorem chars_readSymbol {symbol : Symbol} (h : readSymbol (c :: text) = some (symbol, left)) :
    ∃ read, text = read ++ left ∧ ∀ d ∈ c :: read, isWordChar d = true := by
  have htext := append_of_readSymbol h
  have hword : ∀ d ∈ symbol.chars, isWordChar d = true := fun d hd => isWordChar_of_mem_chars hd
  cases hchars : symbol.chars with
  | nil => cases symbol <;> cases hchars
  | cons d tail =>
    rw [hchars] at htext hword
    obtain ⟨rfl, rfl⟩ := List.cons.inj htext
    exact ⟨tail, rfl, hword⟩

/-- **A word that is no quoted text** has no other characters than these. -/
theorem readToken_chars (hquote : ¬ (c = '"' ∨ c = '\'')) (h : readToken c text = .ok (word, left)) :
    ∃ read, text = read ++ left ∧ ∀ d ∈ c :: read, isWordChar d = true := by
  rw [readToken, if_neg hquote] at h
  split_ifs at h with hdigit hident
  · exact chars_readNumber hdigit h
  · cases h
    have hc := isIdentChar_of_isIdentStart hident
    refine ⟨text.takeWhile isIdentChar, ?_, List.forall_mem_cons.2 ⟨isWordChar_of_isIdentChar hc, fun d hd => ?_⟩⟩
    · rw [List.dropWhile_cons_of_pos hc, List.takeWhile_append_dropWhile]
    · exact isWordChar_of_isIdentChar (List.mem_takeWhile_imp hd)
  · cases hread : readSymbol (c :: text) with
    | none =>
      rw [hread] at h
      cases h
    | some read =>
      rw [hread] at h
      cases h
      exact chars_readSymbol hread

/-- what starts with no quotation mark is no string, and does not fail as one -/
theorem readToken_no_quote (hquote : ¬ (c = '"' ∨ c = '\'')) (text : List Char) :
    readToken c text ≠ .error .stringNotClosed ∧ ∀ s left, readToken c text ≠ .ok (.str s, left) := by
  rw [readToken, if_neg hquote]
  split_ifs
  · rw [readNumber_eq]
    split_ifs <;> simp
  · simp
  · cases readSymbol (c :: text) <;> simp

/-! ## the end of a tag -/

open Template (Passes)

/-- no character of a word but in quotes ends a tag or opens a quoted text -/
theorem isPassed_of_isWordChar (h : isWordChar c = true) : Template.isPassed c = true := by
  have hend : c ≠ '%' := by
    rintro rfl
    exact absurd h (by decide)
  have hdouble : c ≠ '"' := by
    rintro rfl
    exact absurd h (by decide)
  have hsingle : c ≠ '\'' := by
    rintro rfl
    exact absurd h (by decide)
  simp [Template.isPassed, hend, hdouble, hsingle]

theorem passes_all (h : ∀ d ∈ text, Template.isPassed d = true) : Passes text :=
  Template.passes_plain (List.all_eq_true.2 h)

/-- a quoted text with its quotes -/
theorem passes_readQuoted (hquote : c = '"' ∨ c = '\'') {s : List Char} (h : readQuoted c text = .ok (s, left)) :
    ∃ read, text = read ++ left ∧ Passes (c :: read) := by
  have hend : c ≠ '%' := by
    rintro rfl
    rcases hquote with hquote | hquote <;> exact absurd hquote (by decide)
  obtain ⟨inside, rfl, hpasses⟩ := cutClose?_readQuoted (ne_backslash hquote) h
  refine ⟨inside ++ [c], by simp, fun rest hrest => ?_⟩
  have hbehind := hpasses rest hrest
  obtain ⟨d, tail, htail⟩ := List.exists_cons_of_ne_nil (show inside ++ c :: rest ≠ [] by simp)
  have htext : c :: (inside ++ [c]) ++ rest = c :: d :: tail := by
    rw [← htail]
    simp
  rw [htail] at hbehind
  rw [htext]
  simp [Template.cutClose?, hend, hquote, hbehind, Function.comp_def]

/-- the text of a word is passed over -/
theorem readToken_passes (h : readToken c text = .ok (word, left)) :
    ∃ read, text = read ++ left ∧ Passes (c :: read) := by
  by_cases hquote : c = '"' ∨ c = '\''
  · rw [readToken, if_pos hquote] at h
    obtain ⟨⟨s, left'⟩, hread, h⟩ := map_eq_ok.1 h
    cases h
    exact passes_readQuoted hquote hread
  · obtain ⟨read, hsplit, hchars⟩ := readToken_chars hquote h
    exact ⟨read, hsplit, passes_all fun d hd => isPassed_of_isWordChar (hchars d hd)⟩

theorem passes_tokensAfter {skip : Nat} (h : tokensAfter skip text = .ok words) : Passes (text.drop skip) := by
  induction text generalizing skip words with
  | nil =>
    rw [List.drop_nil]
    exact Template.passes_nil
  | cons c text ih =>
    cases skip with
    | succ skip => exact ih h
    | zero =>
      rw [tokensAfter] at h
      split_ifs at h with hblank
      · have hc : ∀ d ∈ [c], Template.isPassed d = true := by
          intro d hd
          obtain rfl := List.mem_singleton.1 hd
          simp only [Text.isAsciiBlank, Bool.or_eq_true, beq_iff_eq] at hblank
          rcases hblank with (((rfl | rfl) | rfl) | rfl) | rfl <;> decide
        exact (passes_all hc).append (ih h)
      · cases hread : readToken c text with
        | error fault =>
          rw [hread] at h
          cases h
        | ok found =>
          obtain ⟨word, left⟩ := found
          rw [hread] at h
          obtain ⟨words, hwords, rfl⟩ := map_eq_ok.1 h
          obtain ⟨read, rfl, hpasses⟩ := readToken_passes hread
          have hbehind := ih hwords
          rw [List.length_append, Nat.add_sub_cancel, List.drop_left] at hbehind
          exact hpasses.append hbehind

/-- **The end of a tag** is not found in a text that can be cut into words. -/
theorem passes_tokens (h : tokens text = .ok words) : Passes text :=
  passes_tokensAfter h

end Expr

end Templating
