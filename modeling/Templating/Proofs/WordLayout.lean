/-
Words as a text, with or without white space between them.

A word has more than one spelling (`Spelling`): a quoted text has a quotation mark of its choice and may hide any
character behind a backslash, a number may start with zeros. Words stand next to each other as long as none of them
goes on with the text behind it (`EndsBefore`); white space is always free, and needed only in front of a character
that the word would take (`Layout`). A text that starts with white space, a quotation mark, a bracket or a comma goes on
with no word (`Parted`), so the words of a laid out text are the same in front of it.

- `readToken_spelling`: a spelling is read as its word.
- `Layout.tokens`: a laid out text is cut into its words, in front of any text that goes on with none of them.
- `layout_spaced`: words in their shortest spelling, with a space between them, are laid out.
-/
import Templating.Proofs.ExpressionText

namespace Templating

namespace Expr

variable {c d quote : Char} {s inside text behind left : List Char} {name : String} {word : Token}
  {words rest : List Token}

/-! ## spellings -/

/-- the name is an identifier -/
def isIdentifier (name : String) : Bool :=
  match name.toList with
  | [] => false
  | c :: rest => isIdentStart c && rest.all isIdentChar

/-- what stands between two of these quotation marks says the text -/
inductive Says (quote : Char) : (inside s : List Char) → Prop where
  | nil : Says quote [] []
  | plain {c : Char} {inside s : List Char} (hc : c ≠ '\\') (hquote : c ≠ quote) (h : Says quote inside s) :
      Says quote (c :: inside) (c :: s)
  | hidden {inside s : List Char} (c : Char) (h : Says quote inside s) :
      Says quote ('\\' :: c :: inside) (unescape c :: s)

/-- the text spells the word -/
inductive Spelling : Token → List Char → Prop where
  | ident {name : String} (h : isIdentifier name = true) : Spelling (.ident name) name.toList
  | str {quote : Char} {inside s : List Char} (hquote : quote = '"' ∨ quote = '\'') (h : Says quote inside s) :
      Spelling (.str (String.ofList s)) (quote :: (inside ++ [quote]))
  | int {digits : List Char} (hne : digits ≠ []) (hdigits : ∀ c ∈ digits, c.isDigit = true)
      (hmax : Decimal.natOfDigits digits ≤ maxLiteral) :
      Spelling (.int (Int64.ofNat (Decimal.natOfDigits digits))) digits
  | symbol (symbol : Symbol) : Spelling (.symbol symbol) symbol.chars

/-- the word does not go on with the text -/
def Token.EndsBefore : Token → List Char → Prop
  | .ident _, text => ∀ c ∈ text.head?, isIdentChar c = false
  | .int _, text => (∀ c ∈ text.head?, c.isDigit = false) ∧ fractionOf text = []
  | .symbol .assign, text | .symbol .less, text | .symbol .greater, text => text.head? ≠ some '='
  | _, _ => True

/-- no word goes on with the character -/
def isParting (c : Char) : Bool :=
  !isIdentChar c && c != '=' && c != '.'

/-- no word goes on with the text -/
def Parted (text : List Char) : Prop :=
  ∀ c ∈ text.head?, isParting c = true

theorem parted_nil : Parted [] := by
  intro c hc
  cases hc

theorem parted_cons (h : isParting c = true) (text : List Char) : Parted (c :: text) := by
  intro d hd
  cases hd
  exact h

theorem isParting_of_isAsciiBlank (h : Text.isAsciiBlank c = true) : isParting c = true := by
  simp only [Text.isAsciiBlank, Bool.or_eq_true, beq_iff_eq] at h
  rcases h with (((rfl | rfl) | rfl) | rfl) | rfl <;> decide

theorem isParting_of_quote (h : c = '"' ∨ c = '\'') : isParting c = true := by
  rcases h with rfl | rfl <;> decide

theorem Parted.not_identChar (h : Parted text) : ∀ c ∈ text.head?, isIdentChar c = false := by
  intro c hc
  have hparting := h c hc
  simp only [isParting, Bool.and_eq_true, Bool.not_eq_true'] at hparting
  exact hparting.1.1

theorem Parted.not_digit (h : Parted text) : ∀ c ∈ text.head?, c.isDigit = false := by
  intro c hc
  by_contra hdigit
  have hword := isIdentChar_of_isDigit (Bool.of_not_eq_false hdigit)
  rw [h.not_identChar c hc] at hword
  cases hword

theorem Parted.ne (h : Parted text) (hc : isParting c = false) : text.head? ≠ some c := by
  intro hhead
  rw [h c hhead] at hc
  cases hc

/-- a word that ends in front of a text still does when a text that parts words comes behind -/
theorem Token.EndsBefore.append (h : word.EndsBefore text) (hbehind : Parted behind) :
    word.EndsBefore (text ++ behind) := by
  have hhead : ∀ p : Char → Prop, (∀ c ∈ text.head?, p c) → (∀ c ∈ behind.head?, p c) →
      ∀ c ∈ (text ++ behind).head?, p c := by
    intro p htext hbehind
    cases text with
    | nil => exact hbehind
    | cons c text => exact htext
  have hassign : text.head? ≠ some '=' → (text ++ behind).head? ≠ some '=' := by
    intro htext heq
    refine hhead (· ≠ '=') ?_ ?_ '=' heq rfl
    · rintro c hc rfl
      exact htext hc
    · rintro c hc rfl
      exact hbehind.ne (by decide) hc
  cases word with
  | ident name => exact hhead (isIdentChar · = false) h hbehind.not_identChar
  | int i =>
    refine ⟨hhead (Char.isDigit · = false) h.1 hbehind.not_digit, ?_⟩
    rw [fractionOf_append hbehind.not_digit (hbehind.ne (by decide))]
    exact h.2
  | symbol symbol =>
    cases symbol with
    | assign | less | greater => exact hassign h
    | _ => trivial
  | _ => trivial

/-- every word ends in front of a text that parts words -/
theorem Parted.endsBefore (h : Parted text) (word : Token) : word.EndsBefore text := by
  have hnil : word.EndsBefore [] := by
    cases word with
    | symbol symbol => cases symbol <;> simp [Token.EndsBefore]
    | _ => simp [Token.EndsBefore, fractionOf]
  exact hnil.append h

/-! ## what a spelling is read as -/

theorem readQuoted_says (hquote : quote ≠ '\\') (h : Says quote inside s) (left : List Char) :
    readQuoted quote (inside ++ quote :: left) = .ok (s, left) := by
  induction h with
  | nil => exact readQuoted_close hquote left
  | plain hc hne _ ih =>
    rw [List.cons_append, readQuoted_plain hc hne.symm (by simp), ih]
    rfl
  | hidden c _ ih =>
    rw [List.cons_append, List.cons_append, readQuoted_hidden, ih]
    rfl

theorem readSymbol_chars {symbol : Symbol} (h : (Token.symbol symbol).EndsBefore left) :
    readSymbol (symbol.chars ++ left) = some (symbol, left) := by
  cases symbol with
  | assign | less | greater =>
    -- these are the start of a longer symbol
    cases left with
    | nil => rfl
    | cons c left =>
      have hc : '=' ≠ c := fun hc => h (congrArg some hc.symm)
      simp [readSymbol, Symbol.all, Symbol.chars, Text.afterMark?, hc]
  | _ => rfl

theorem not_quote_of_isIdentChar (h : isIdentChar c = true) : ¬ (c = '"' ∨ c = '\'') := by
  rintro (rfl | rfl) <;> exact absurd h (by decide)

theorem isAsciiBlank_of_isIdentChar (h : isIdentChar c = true) : Text.isAsciiBlank c = false := by
  by_contra hblank
  have hword := isIdentChar_of_isBlank (Text.isBlank_of_isAsciiBlank (Bool.of_not_eq_false hblank))
  rw [h] at hword
  cases hword

theorem isDigit_of_isIdentStart (h : isIdentStart c = true) : c.isDigit = false := by
  have hletter : c.isAlpha = (decide ('A'.val ≤ c.val ∧ c.val ≤ 'Z'.val) ||
      (decide ('a'.val ≤ c.val) && decide (c.val ≤ 'z'.val))) := rfl
  simp only [isIdentStart, hletter, Bool.or_eq_true, Bool.and_eq_true, decide_eq_true_eq, beq_iff_eq,
    UInt32.le_iff_toNat_le, Char.toNat_val, Char.reduceToNat] at h
  rcases h with h | rfl
  · simp only [Char.isDigit, ge_iff_le, Bool.and_eq_false_iff, decide_eq_false_iff_not, UInt32.le_iff_toNat_le,
      Char.toNat_val, Char.reduceToNat]
    omega
  · decide

/-- a symbol starts with a character that no other word starts with -/
theorem exists_symbol_start (symbol : Symbol) : ∃ c tail, symbol.chars = c :: tail ∧ Text.isAsciiBlank c = false ∧
    ¬ (c = '"' ∨ c = '\'') ∧ c.isDigit = false ∧ isIdentStart c = false := by
  cases symbol <;> exact ⟨_, _, rfl, by decide⟩

/-- **A spelling is read as its word**, in front of a text that the word does not go on with. -/
theorem readToken_spelling (h : Spelling word text) (hleft : word.EndsBefore left) :
    ∃ c tail, text = c :: tail ∧ Text.isAsciiBlank c = false ∧ readToken c (tail ++ left) = .ok (word, left) := by
  cases h with
  | @ident name hname =>
    unfold isIdentifier at hname
    split at hname
    · cases hname
    · next c tail htext =>
      rw [Bool.and_eq_true] at hname
      obtain ⟨hstart, htail⟩ := hname
      have hc := isIdentChar_of_isIdentStart hstart
      have hall : ∀ d ∈ c :: tail, isIdentChar d = true := List.forall_mem_cons.2 ⟨hc, List.all_eq_true.1 htail⟩
      obtain ⟨htake, hdrop⟩ := Text.takeWhile_front hall hleft
      refine ⟨c, tail, htext, isAsciiBlank_of_isIdentChar hc, ?_⟩
      rw [readToken, if_neg (not_quote_of_isIdentChar hc), if_neg (by simp [isDigit_of_isIdentStart hstart]),
        if_pos hstart, ← List.cons_append, htake, hdrop, ← htext, String.ofList_toList]
  | @str quote inside s hquote hsays =>
    refine ⟨quote, inside ++ [quote], rfl, ?_, ?_⟩
    · rcases hquote with rfl | rfl <;> decide
    · rw [readToken, if_pos hquote, List.append_assoc, List.singleton_append,
        readQuoted_says (ne_backslash hquote) hsays]
      rfl
  | int hne hdigits hmax =>
    obtain ⟨c, tail, rfl⟩ := List.exists_cons_of_ne_nil hne
    obtain ⟨htake, hdrop⟩ := Text.takeWhile_front hdigits hleft.1
    have hdigit := hdigits c List.mem_cons_self
    have hc := isIdentChar_of_isDigit hdigit
    refine ⟨c, tail, rfl, isAsciiBlank_of_isIdentChar hc, ?_⟩
    rw [readToken, if_neg (not_quote_of_isIdentChar hc), if_pos hdigit, ← List.cons_append, readNumber_eq, htake, hdrop,
      hleft.2, List.isEmpty_nil, if_pos rfl, if_pos hmax]
  | symbol symbol =>
    obtain ⟨c, tail, hchars, hblank, hquote, hdigit, hident⟩ := exists_symbol_start symbol
    refine ⟨c, tail, hchars, hblank, ?_⟩
    have hread := readSymbol_chars hleft
    rw [hchars, List.cons_append] at hread
    simp [readToken, hquote, hdigit, hident, hread]

/-! ## words next to each other -/

/-- the text has these words, with white space between them at least where a word would go on with the next one -/
inductive Layout : List Token → List Char → Prop where
  | nil : Layout [] []
  | blank {words : List Token} {text : List Char} {c : Char} (hc : Text.isAsciiBlank c = true)
      (h : Layout words text) : Layout words (c :: text)
  | word {word : Token} {words : List Token} {spelling text : List Char} (hspelling : Spelling word spelling)
      (hends : word.EndsBefore text) (h : Layout words text) : Layout (word :: words) (spelling ++ text)

/-- **A laid out text is cut into its words**, in front of any text that goes on with none of them. -/
theorem Layout.tokens (h : Layout words text) (hbehind : Parted behind) :
    Expr.tokens (text ++ behind) = (Expr.tokens behind).map (words ++ ·) := by
  induction h with
  | nil => exact spells_nil behind
  | blank hc _ ih => rw [List.cons_append, tokens_skip hc, ih]
  | @word word words spelling text hspelling hends _ ih =>
    obtain ⟨c, tail, rfl, hblank, hread⟩ := readToken_spelling hspelling (hends.append hbehind)
    rw [List.append_assoc, List.cons_append, tokens_word hblank hread, ih]
    cases Expr.tokens behind <;> rfl

/-- the word starts with a character that no word goes on with -/
def Token.isParting : Token → Bool
  | .str _ => true
  | .symbol sign => sign.chars.head?.all Expr.isParting
  | _ => false

theorem isParting_of_readToken (hword : word.isParting = true) (h : readToken c text = .ok (word, left)) :
    isParting c = true := by
  unfold readToken at h
  split_ifs at h with hquote hdigit hident
  · exact isParting_of_quote hquote
  · rw [readNumber_eq] at h
    split_ifs at h <;>
    · cases h
      cases hword
  · cases h
    cases hword
  · cases hread : readSymbol (c :: text) with
    | none =>
      rw [hread] at h
      cases h
    | some read =>
      obtain ⟨symbol, left'⟩ := read
      rw [hread] at h
      cases h
      have htext := append_of_readSymbol hread
      obtain ⟨d, tail, hchars, -⟩ := exists_symbol_start symbol
      rw [hchars, List.cons_append] at htext
      obtain ⟨rfl, -⟩ := List.cons.inj htext
      rwa [Token.isParting, hchars] at hword

/-- a text parts words when its first word starts with a character that no word goes on with -/
theorem parted_of_tokens (h : tokens text = .ok rest) (hrest : ∀ word ∈ rest.head?, word.isParting = true) :
    Parted text := by
  cases text with
  | nil => exact parted_nil
  | cons c text =>
    refine parted_cons ?_ text
    by_cases hblank : Text.isAsciiBlank c = true
    · exact isParting_of_isAsciiBlank hblank
    · rw [tokens, tokensAfter, if_neg hblank] at h
      cases hread : readToken c text with
      | error fault =>
        rw [hread] at h
        cases h
      | ok read =>
        obtain ⟨word, left⟩ := read
        rw [hread] at h
        obtain ⟨words, -, rfl⟩ := map_eq_ok.1 h
        exact isParting_of_readToken (hrest word rfl) hread

/-! ## the shortest spelling -/

/-- a text with a backslash in front of every such quotation mark and every backslash -/
def hide (quote : Char) (s : List Char) : List Char :=
  s.flatMap fun c => if c = quote ∨ c = '\\' then ['\\', c] else [c]

/-- the shortest spelling of a word; a number with a fraction has none here -/
def Token.spelling : Token → List Char
  | .ident name => name.toList
  | .str s => Markup.quoted (hide '"' s.toList)
  | .int i => Nat.toDigits 10 i.toInt.toNat
  | .float _ => []
  | .symbol sign => sign.chars

/-- the word has a spelling -/
def Token.isWritable : Token → Bool
  | .ident name => isIdentifier name
  | .int i => 0 ≤ i
  | .float _ => false
  | .str _ | .symbol _ => true

/-- the words have spellings -/
def Writable (words : List Token) : Prop :=
  ∀ word ∈ words, word.isWritable = true

@[simp] theorem Token.isWritable_ident : (Token.ident name).isWritable = isIdentifier name := rfl

@[simp] theorem Token.isWritable_str (s : String) : (Token.str s).isWritable = true := rfl

@[simp] theorem Token.isWritable_symbol (symbol : Symbol) : (Token.symbol symbol).isWritable = true := rfl

@[simp] theorem writable_nil : Writable [] := by
  simp [Writable]

@[simp] theorem writable_cons : Writable (word :: words) ↔ word.isWritable = true ∧ Writable words :=
  List.forall_mem_cons

@[simp] theorem writable_append : Writable (words ++ rest) ↔ Writable words ∧ Writable rest :=
  List.forall_mem_append

theorem says_hide (hquote : quote = '"' ∨ quote = '\'') (s : List Char) : Says quote (hide quote s) s := by
  induction s with
  | nil => exact .nil
  | cons c s ih =>
    rw [hide, List.flatMap_cons]
    split_ifs with hc
    · have hself : unescape c = c := by
        rcases hquote with rfl | rfl <;> rcases hc with rfl | rfl <;> rfl
      have hsays := Says.hidden c ih
      rwa [hself] at hsays
    · rw [not_or] at hc
      exact .plain hc.2 hc.1 ih

theorem natOfDigits_toDigits (n : Nat) : Decimal.natOfDigits (Nat.toDigits 10 n) = n :=
  Nat.ofDigitChars_toDigits (by decide) (by decide)

theorem spelling_int {i : Int64} (h : 0 ≤ i) : Spelling (.int i) (Nat.toDigits 10 i.toInt.toNat) := by
  have hsign : 0 ≤ i.toInt := Int64.le_iff_toInt_le.1 h
  have hmax : i.toInt.toNat ≤ maxLiteral := by
    have hlt := i.toInt_lt
    unfold maxLiteral
    omega
  have hdigits : ∀ c ∈ Nat.toDigits 10 i.toInt.toNat, c.isDigit = true :=
    fun c hc => Nat.isDigit_of_mem_toDigits (by decide) (by decide) hc
  have hspelling := Spelling.int Nat.toDigits_ne_nil hdigits (by rwa [natOfDigits_toDigits])
  rwa [natOfDigits_toDigits, ← Int64.ofInt_eq_ofNat, Int.toNat_of_nonneg hsign, Int64.ofInt_toInt] at hspelling

theorem spelling_of_isWritable (h : word.isWritable = true) : Spelling word word.spelling := by
  cases word with
  | ident name => exact .ident h
  | str s =>
    have hspelling := Spelling.str (Or.inl rfl) (says_hide (Or.inl rfl) s.toList)
    rwa [String.ofList_toList] at hspelling
  | int i => exact spelling_int (of_decide_eq_true h)
  | float f => cases h
  | symbol symbol => exact .symbol symbol

/-- words with a space between them -/
def spaced (words : List Token) : List Char :=
  [' '].intercalate (words.map Token.spelling)

/-- **Words with a space between them** are laid out. -/
theorem layout_spaced (h : Writable words) : Layout words (spaced words) := by
  induction words with
  | nil => exact .nil
  | cons word words ih =>
    obtain ⟨hword, hwords⟩ := writable_cons.1 h
    have hspelling := spelling_of_isWritable hword
    cases words with
    | nil =>
      have hone := Layout.word hspelling (parted_nil.endsBefore word) .nil
      simpa [spaced] using hone
    | cons next words =>
      have hspace : Parted (' ' :: spaced (next :: words)) := parted_cons (by decide) _
      have hmore := Layout.word hspelling (hspace.endsBefore word) (.blank (by decide) (ih hwords))
      simpa [spaced] using hmore

end Expr

end Templating
