/-
Quoted texts, as the words of a tag and as its arguments spell them.

A backslash in quotes hides the character behind it. So a quoted text ends where it was meant to when every backslash
has a character to hide (`paired`), it is read without these backslashes (`unescaped`), and it stands for itself when
there is none. `Spells text words` says that the text is cut into these words wherever it stands, so that the words of
a long text are put together from those of its parts.

- `unescaped_eq_self`, `not_mem_of_readQuoted`: what stands for itself between quotes.
- `spells_quoted`: a quoted text is one word, without its backslashes.
- `Quotable.spells_pair`: a key and a quoted text are three.
-/
import Mathlib.Tactic.Common
import Templating.Expr.Token
import Templating.Markup.Expansion
import Templating.Proofs.Outcome

namespace Templating

open Markup (quoted)

namespace Expr

/-! ## quoted texts -/

/-- what stands between quotes, as it is read -/
def unescaped : List Char → List Char
  | [] => []
  | [c] => [c]
  | c :: d :: rest => if c = '\\' then unescape d :: unescaped rest else c :: unescaped (d :: rest)

/-- every backslash has a character to hide -/
def paired : List Char → Bool
  | [] => true
  | [c] => c != '\\'
  | c :: d :: rest => if c = '\\' then paired rest else paired (d :: rest)

theorem length_unescaped_le (text : List Char) : (unescaped text).length ≤ text.length := by
  induction text using unescaped.induct with
  | case1 => simp [unescaped]
  | case2 c => simp [unescaped]
  | case3 d rest ih =>
    simp only [unescaped, if_true, List.length_cons]
    omega
  | case4 c d rest hc ih =>
    simp only [unescaped, if_neg hc, List.length_cons] at ih ⊢
    omega

/-- **A quoted text stands for itself** exactly when it has no backslash to hide a character. -/
theorem unescaped_eq_self {text : List Char} (h : paired text = true) : unescaped text = text ↔ '\\' ∉ text := by
  induction text using unescaped.induct with
  | case1 => simp [unescaped]
  | case2 c =>
    have hc : c ≠ '\\' := by simpa [paired] using h
    simp [unescaped, Ne.symm hc]
  | case3 d rest ih =>
    have hlength := length_unescaped_le rest
    constructor
    · intro heq
      have := congrArg List.length heq
      simp only [unescaped, if_true, List.length_cons] at this
      omega
    · simp
  | case4 c d rest hc ih =>
    rw [paired, if_neg hc] at h
    simp [unescaped, hc, ih h, Ne.symm hc]

theorem paired_of_not_mem {text : List Char} (h : '\\' ∉ text) : paired text = true := by
  induction text using paired.induct with
  | case1 => rfl
  | case2 c =>
    have hc : c ≠ '\\' := fun hc => h (by simp [hc])
    simp [paired, hc]
  | case3 d rest ih => exact absurd List.mem_cons_self h
  | case4 c d rest hc ih =>
    rw [paired, if_neg hc]
    exact ih fun hmem => h (List.mem_cons_of_mem _ hmem)

/-- the quotation marks of expressions hide nothing -/
theorem ne_backslash {c : Char} (h : c = '"' ∨ c = '\'') : c ≠ '\\' := by
  rintro rfl
  exact absurd h (by decide)

theorem readQuoted_close {quote : Char} (h : quote ≠ '\\') (rest : List Char) :
    readQuoted quote (quote :: rest) = .ok ([], rest) := by
  cases rest <;> simp [readQuoted, h]

theorem readQuoted_hidden {quote : Char} (d : Char) (text : List Char) : readQuoted quote ('\\' :: d :: text) =
    (readQuoted quote text).map fun (read, left) => (unescape d :: read, left) := by
  rw [readQuoted, if_pos rfl]

theorem readQuoted_plain {quote c : Char} (hc : c ≠ '\\') (hne : quote ≠ c) {text : List Char} (h : text ≠ []) :
    readQuoted quote (c :: text) = (readQuoted quote text).map fun (read, left) => (c :: read, left) := by
  obtain ⟨d, text, rfl⟩ := List.exists_cons_of_ne_nil h
  rw [readQuoted, if_neg hc, if_neg hne.symm]

theorem readQuoted_quoted {text : List Char} (hquote : '"' ∉ text) (hpaired : paired text = true) (rest : List Char) :
    readQuoted '"' (text ++ '"' :: rest) = .ok (unescaped text, rest) := by
  induction text using unescaped.induct with
  | case1 => exact readQuoted_close (by decide) rest
  | case2 c =>
    have hc : c ≠ '\\' := by simpa [paired] using hpaired
    rw [List.singleton_append, readQuoted_plain hc (List.ne_of_not_mem_cons hquote) (by simp),
      readQuoted_close (by decide)]
    rfl
  | case3 d rest' ih =>
    rw [paired, if_pos rfl] at hpaired
    have hrest := List.not_mem_of_not_mem_cons (List.not_mem_of_not_mem_cons hquote)
    rw [List.cons_append, List.cons_append, readQuoted_hidden, ih hrest hpaired, unescaped, if_pos rfl]
    rfl
  | case4 c d rest' hc ih =>
    rw [paired, if_neg hc] at hpaired
    rw [List.cons_append, readQuoted_plain hc (List.ne_of_not_mem_cons hquote) (by simp),
      ih (List.not_mem_of_not_mem_cons hquote) hpaired, unescaped, if_neg hc]
    rfl

/-- what is read behind a quote ends at the quote that was meant, or has that quote in it -/
theorem readQuoted_bound {text : List Char} (hquote : '"' ∉ text) {rest read left : List Char}
    (h : readQuoted '"' (text ++ '"' :: rest) = .ok (read, left)) : '"' ∈ read ∨ read.length ≤ text.length := by
  induction text using unescaped.induct generalizing read with
  | case1 =>
    rw [List.nil_append, readQuoted_close (by decide)] at h
    cases h
    exact Or.inr (Nat.le_refl _)
  | case2 c =>
    by_cases hc : c = '\\'
    · rw [hc, List.singleton_append, readQuoted_hidden] at h
      obtain ⟨_, -, h⟩ := map_eq_ok.1 h
      cases h
      exact Or.inl List.mem_cons_self
    · rw [List.singleton_append, readQuoted_plain hc (List.ne_of_not_mem_cons hquote) (by simp),
        readQuoted_close (by decide)] at h
      cases h
      exact Or.inr (Nat.le_refl _)
  | case3 d rest' ih =>
    have hrest := List.not_mem_of_not_mem_cons (List.not_mem_of_not_mem_cons hquote)
    rw [List.cons_append, List.cons_append, readQuoted_hidden] at h
    obtain ⟨⟨behind, left'⟩, hbehind, h⟩ := map_eq_ok.1 h
    cases h
    exact (ih hrest hbehind).imp (List.mem_cons_of_mem _) fun hle => by simp only [List.length_cons]; omega
  | case4 c d rest' hc ih =>
    rw [List.cons_append, readQuoted_plain hc (List.ne_of_not_mem_cons hquote) (by simp)] at h
    obtain ⟨⟨behind, left'⟩, hbehind, h⟩ := map_eq_ok.1 h
    cases h
    exact (ih (List.not_mem_of_not_mem_cons hquote) hbehind).imp (List.mem_cons_of_mem _) Nat.succ_le_succ

/-- **A text with a backslash is not read as itself**, wherever its quote is found. -/
theorem not_mem_of_readQuoted {text : List Char} (hquote : '"' ∉ text) {rest left : List Char}
    (h : readQuoted '"' (text ++ '"' :: rest) = .ok (text, left)) : '\\' ∉ text := by
  induction text using unescaped.induct with
  | case1 => exact List.not_mem_nil
  | case2 c =>
    intro hmem
    obtain rfl := List.mem_singleton.1 hmem
    rw [List.singleton_append, readQuoted_hidden] at h
    obtain ⟨_, -, h⟩ := map_eq_ok.1 h
    cases h
  | case3 d rest' ih =>
    have hd := List.not_mem_of_not_mem_cons hquote
    rw [List.cons_append, List.cons_append, readQuoted_hidden] at h
    obtain ⟨⟨behind, left'⟩, hbehind, h⟩ := map_eq_ok.1 h
    obtain rfl : behind = d :: rest' := (List.cons.inj (Prod.mk.inj h).1).2
    -- behind the hidden character everything up to `d` would have to be read once more
    rcases readQuoted_bound (List.not_mem_of_not_mem_cons hd) hbehind with hmem | hle
    · exact absurd hmem hd
    · simp only [List.length_cons] at hle
      omega
  | case4 c d rest' hc ih =>
    rw [List.cons_append, readQuoted_plain hc (List.ne_of_not_mem_cons hquote) (by simp)] at h
    obtain ⟨⟨behind, left'⟩, hbehind, h⟩ := map_eq_ok.1 h
    obtain ⟨rfl, rfl⟩ : behind = d :: rest' ∧ left' = left := by simpa using h
    exact List.not_mem_cons_of_ne_of_not_mem (Ne.symm hc) (ih (List.not_mem_of_not_mem_cons hquote) hbehind)

/-! ## words -/

/-- at the start of any text, this text is cut into these words -/
def Spells (text : List Char) (words : List Token) : Prop :=
  ∀ rest, tokens (text ++ rest) = (tokens rest).map (words ++ ·)

theorem Spells.append {text text' : List Char} {words words' : List Token} (h : Spells text words)
    (h' : Spells text' words') : Spells (text ++ text') (words ++ words') := by
  intro rest
  rw [List.append_assoc, h, h']
  cases tokens rest <;> simp [Except.map]

theorem spells_nil : Spells [] [] := by
  intro rest
  cases htokens : tokens rest <;> simp [htokens, Except.map]

theorem Spells.flatMap {α : Type} {text : α → List Char} {words : α → List Token} {list : List α}
    (h : ∀ a ∈ list, Spells (text a) (words a)) : Spells (list.flatMap text) (list.flatMap words) := by
  induction list with
  | nil => exact spells_nil
  | cons a list ih =>
    obtain ⟨ha, hlist⟩ := List.forall_mem_cons.1 h
    exact ha.append (ih hlist)

theorem Spells.tokens {text : List Char} {words : List Token} (h : Spells text words) :
    Expr.tokens text = .ok words := by
  have hall := h []
  rw [List.append_nil] at hall
  rw [hall]
  simp [Expr.tokens, tokensAfter, Except.map]

theorem tokensAfter_drop (skip : Nat) (text : List Char) : tokensAfter skip text = tokensAfter 0 (text.drop skip) := by
  induction text generalizing skip with
  | nil => cases skip <;> rfl
  | cons c text ih =>
    cases skip with
    | zero => rfl
    | succ skip => exact ih skip

/-- white space is no word -/
theorem tokens_skip {c : Char} (hc : Text.isAsciiBlank c = true) (text : List Char) :
    tokens (c :: text) = tokens text := by
  rw [tokens, tokensAfter, if_pos hc, tokens]

theorem spells_space : Spells [' '] [] := by
  intro rest
  rw [List.singleton_append, tokens_skip (by decide)]
  exact spells_nil rest

/-- a word is read, and the reading goes on behind it -/
theorem tokens_word {c : Char} {text rest : List Char} {word : Token} (hblank : Text.isAsciiBlank c = false)
    (h : readToken c (text ++ rest) = .ok (word, rest)) :
    tokens (c :: (text ++ rest)) = (tokens rest).map ([word] ++ ·) := by
  rw [tokens, tokensAfter, hblank, h]
  simp only [Bool.false_eq_true, if_false]
  rw [tokensAfter_drop, List.length_append, Nat.add_sub_cancel, List.drop_left]
  rfl

/-- **A quoted text is one word**, without the backslashes. -/
theorem spells_quoted {text : List Char} (hquote : '"' ∉ text) (hpaired : paired text = true) :
    Spells (quoted text) [.str (String.ofList (unescaped text))] := by
  intro rest
  have hread : readToken '"' (text ++ ['"'] ++ rest) = .ok (.str (String.ofList (unescaped text)), rest) := by
    rw [readToken, if_pos (Or.inl rfl), List.append_assoc, List.singleton_append, readQuoted_quoted hquote hpaired]
    rfl
  exact tokens_word (by decide) hread

/-- a word that starts with a quote is a quoted text -/
theorem tokens_quote {text : List Char} {words : List Token} (h : tokens ('"' :: text) = .ok words) :
    ∃ read left rest, readQuoted '"' text = .ok (read, left) ∧ words = .str (String.ofList read) :: rest := by
  have hblank : Text.isAsciiBlank '"' = false := by decide
  rw [tokens, tokensAfter, hblank, readToken, if_pos (Or.inl rfl)] at h
  simp only [Bool.false_eq_true, if_false] at h
  cases hread : readQuoted '"' text with
  | error fault =>
    rw [hread] at h
    cases h
  | ok read =>
    obtain ⟨read, left⟩ := read
    rw [hread] at h
    obtain ⟨rest, -, hwords⟩ := map_eq_ok.1 h
    exact ⟨read, left, rest, rfl, hwords.symm⟩

theorem tokens_assign (text : List Char) :
    tokens ('=' :: '"' :: text) = (tokens ('"' :: text)).map ([.symbol .assign] ++ ·) := by
  have hread : readToken '=' ([] ++ '"' :: text) = .ok (.symbol .assign, '"' :: text) := rfl
  exact tokens_word (by decide) hread

/-- the keyword in front of attributes is one word -/
theorem Spells.withAttrs {text : List Char} {words : List Token} (hspace : ∃ tail, text = ' ' :: tail)
    (h : Spells text words) : Spells (" withAttrs".toList ++ text) (.ident "withAttrs" :: words) := by
  obtain ⟨tail, rfl⟩ := hspace
  have hkeyword : Spells ("withAttrs".toList ++ ' ' :: tail) (.ident "withAttrs" :: words) := by
    intro rest
    have hread : readToken 'w' ("ithAttrs".toList ++ (' ' :: tail ++ rest)) =
        .ok (.ident "withAttrs", ' ' :: tail ++ rest) := rfl
    calc Expr.tokens ("withAttrs".toList ++ ' ' :: tail ++ rest)
      _ = Expr.tokens ('w' :: ("ithAttrs".toList ++ (' ' :: tail ++ rest))) := rfl
      _ = (Expr.tokens (' ' :: tail ++ rest)).map ([.ident "withAttrs"] ++ ·) := tokens_word (by decide) hread
      _ = (Expr.tokens rest).map (.ident "withAttrs" :: words ++ ·) := by
        rw [h]
        cases Expr.tokens rest <;> rfl
  exact spells_space.append hkeyword

/-- a text that stands for itself between quotes -/
structure Quotable (text : List Char) : Prop where
  quote : '"' ∉ text
  backslash : '\\' ∉ text

theorem Quotable.unescaped {text : List Char} (h : Quotable text) : unescaped text = text :=
  (unescaped_eq_self (paired_of_not_mem h.backslash)).2 h.backslash

theorem Quotable.spells {text : List Char} (h : Quotable text) : Spells (quoted text) [.str (String.ofList text)] := by
  have hspells := spells_quoted h.quote (paired_of_not_mem h.backslash)
  rwa [h.unescaped] at hspells

/-- a pair of a key and a value -/
theorem Quotable.spells_pair {key value : List Char} (h : Quotable key) (hquote : '"' ∉ value)
    (hpaired : paired value = true) : Spells (' ' :: quoted key ++ '=' :: quoted value)
      [.str (String.ofList key), .symbol .assign, .str (String.ofList (Expr.unescaped value))] := by
  have hvalue : Spells ('=' :: quoted value) [.symbol .assign, .str (String.ofList (Expr.unescaped value))] := by
    intro rest
    calc tokens ('=' :: quoted value ++ rest)
      _ = (tokens (quoted value ++ rest)).map ([.symbol .assign] ++ ·) := tokens_assign _
      _ = (tokens rest).map ([.symbol .assign, .str (String.ofList (Expr.unescaped value))] ++ ·) := by
        rw [spells_quoted hquote hpaired]
        cases tokens rest <;> rfl
  exact (spells_space.append h.spells).append hvalue

end Expr

end Templating
