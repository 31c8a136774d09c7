/-
Quotes inside a region, as the reading of its words sees them.

A region is scanned twice: the search for its end passes over quoted texts, and behind it the words of the expression
or the arguments are read, quoted texts among them. Both have the same rule for quotes, and what stands between the
delimiter and the expression has none. So wherever the reading of words starts a word, the search was outside of
quotes, and a string literal lies where the search was inside of them. The search goes from character to character here;
from byte to byte it is the same (`findClose_bytesOf`).

- `tokens_eq_error_iff`: a text without words has a place where none can be read.
- `ReadsLiteral.quoted`: the search is inside of quotes over the whole text of a literal.
- `literals_quoted`: no token of a source has a string that does not end, and all its literals lie in what the search
  passed over as quoted.
-/
import Templating.Proofs.ExpressionText

namespace Templating

open Template (Quotes)

namespace Expr

variable {c quote : Char} {text front left s : List Char} {word : Token} {words : List Token} {fault : SyntaxFault}

/-! ## a quoted text -/

/-- a quoted text is read up to the quotation mark that ends it -/
theorem readQuoted_inside (hquote : quote ≠ '\\') (h : readQuoted quote text = .ok (s, left)) :
    ∃ inside, text = inside ++ quote :: left ∧ (Quotes.inside quote).Stays inside ∧
      (Quotes.inside quote).run (inside ++ [quote]) = .outside := by
  have hin : Quotes.inside quote ≠ .outside := by simp
  have hclose : (Quotes.inside quote).step quote = .outside := by
    rw [Quotes.step_inside hquote, if_pos rfl, Quotes.ofOpen]
  fun_induction readQuoted quote text generalizing s left with
  | case1 => cases h
  | case2 =>
    cases h
    exact ⟨[], rfl, Quotes.stays_nil.2 hin, hclose⟩
  | case3 => cases h
  | case4 d rest ih =>
    obtain ⟨⟨s', left'⟩, hread, h⟩ := map_eq_ok.1 h
    cases h
    obtain ⟨inside, rfl, hinside, hends⟩ := ih hread
    refine ⟨'\\' :: d :: inside, rfl, ?_, by simpa using hends⟩
    rwa [Quotes.stays_cons hin, Quotes.step_backslash, Quotes.stays_cons (by simp), Quotes.step_hidden]
  | case5 d rest hc =>
    cases h
    exact ⟨[], rfl, Quotes.stays_nil.2 hin, hclose⟩
  | case6 c d rest hc hne ih =>
    obtain ⟨⟨s', left'⟩, hread, h⟩ := map_eq_ok.1 h
    cases h
    have hstep : (Quotes.inside quote).step c = .inside quote := by
      rw [Quotes.step_inside hc, if_neg hne, Quotes.ofOpen]
    obtain ⟨inside, hrest, hinside, hends⟩ := ih hread
    refine ⟨c :: inside, by rw [hrest, List.cons_append], ?_, ?_⟩
    · rwa [Quotes.stays_cons hin, hstep]
    · rwa [List.cons_append, Quotes.run_cons, hstep]

/-- a quoted text that does not end -/
theorem readQuoted_error (h : readQuoted quote text = .error fault) :
    fault = .stringNotClosed ∧ (Quotes.inside quote).run text ≠ .outside := by
  fun_induction readQuoted quote text generalizing fault with
  | case1 =>
    cases h
    exact ⟨rfl, by simp⟩
  | case2 => cases h
  | case3 c hne =>
    cases h
    refine ⟨rfl, ?_⟩
    by_cases hc : c = '\\'
    · simp [hc]
    · simp [Quotes.step_inside hc, hne, Quotes.ofOpen]
  | case4 d rest ih =>
    cases hread : readQuoted quote rest with
    | ok found =>
      rw [hread] at h
      cases h
    | error fault' =>
      rw [hread] at h
      cases h
      simpa using ih hread
  | case5 => cases h
  | case6 c d rest hc hne ih =>
    cases hread : readQuoted quote (d :: rest) with
    | ok found =>
      rw [hread] at h
      cases h
    | error fault' =>
      rw [hread] at h
      cases h
      rw [Quotes.run_cons, Quotes.step_inside hc, if_neg hne, Quotes.ofOpen]
      exact ih hread

/-! ## the reading of words -/

/-- the words of a text are read up to the place between `front` and `left` -/
inductive Reading (text : List Char) : (front : List Char) → (words : List Token) → (left : List Char) → Prop where
  | start : Reading text [] [] text
  | blank {front left : List Char} {words : List Token} {c : Char} : Reading text front words (c :: left) →
      Text.isAsciiBlank c = true → Reading text (front ++ [c]) words left
  | word {front read left : List Char} {words : List Token} {c : Char} {word : Token} :
      Reading text front words (c :: (read ++ left)) → Text.isAsciiBlank c = false →
      readToken c (read ++ left) = .ok (word, left) → Reading text (front ++ c :: read) (words ++ [word]) left

/-- the words behind a place are read on -/
theorem Reading.tokens (h : Reading text front words left) :
    Expr.tokens text = (Expr.tokens left).map (words ++ ·) := by
  induction h with
  | start => cases Expr.tokens text <;> rfl
  | @blank front left words c _ hblank ih =>
    rw [ih, tokens_skip hblank]
  | @word front read left words c word _ hblank hread ih =>
    rw [ih, tokens_word hblank hread]
    cases Expr.tokens left <;> simp [Except.map]

/-- a reading goes on until all is read, or to a word that cannot be read -/
theorem Reading.go_on (h : Reading text front words left) :
    (∀ rest, Expr.tokens left = .ok rest → Reading text (front ++ left) (words ++ rest) []) ∧
    (∀ fault, Expr.tokens left = .error fault → ∃ front' words' c left', Reading text front' words' (c :: left') ∧
      Text.isAsciiBlank c = false ∧ readToken c left' = .error fault) := by
  induction hlength : left.length using Nat.strongRecOn generalizing front words left with
  | ind n ih =>
    subst hlength
    cases left with
    | nil =>
      refine ⟨fun rest hrest => ?_, fun fault hfault => by cases hfault⟩
      cases hrest
      rwa [List.append_nil, List.append_nil]
    | cons c left =>
      by_cases hblank : Text.isAsciiBlank c = true
      · have hbehind := ih _ (Nat.lt_succ_self _) (h.blank hblank) rfl
        rw [tokens_skip hblank]
        simpa using hbehind
      · rw [Bool.not_eq_true] at hblank
        cases hread : readToken c left with
        | error fault =>
          have hfault : Expr.tokens (c :: left) = .error fault := by
            rw [Expr.tokens, tokensAfter, hblank, if_neg Bool.false_ne_true, hread]
          rw [hfault]
          refine ⟨fun rest hrest => (by cases hrest), fun fault' hfault' => ?_⟩
          cases hfault'
          exact ⟨front, words, c, left, h, hblank, hread⟩
        | ok found =>
          obtain ⟨word, left'⟩ := found
          obtain ⟨read, rfl, -⟩ := readToken_passes hread
          have hshort : left'.length < (c :: (read ++ left')).length := by
            simp only [List.length_cons, List.length_append]
            omega
          obtain ⟨hok, herror⟩ := ih _ hshort (h.word hblank hread) rfl
          rw [tokens_word hblank hread]
          refine ⟨fun rest hrest => ?_, fun fault hfault => ?_⟩
          · obtain ⟨behind, hbehind, rfl⟩ := map_eq_ok.1 hrest
            simpa using hok behind hbehind
          · cases hbehind : Expr.tokens left' with
            | ok behind =>
              rw [hbehind] at hfault
              cases hfault
            | error fault' =>
              rw [hbehind] at hfault
              cases hfault
              exact herror fault hbehind

/-- **A text without words** has a word, or a character, that cannot be read. -/
theorem tokens_eq_error_iff : tokens text = .error fault ↔ ∃ front words c left, Reading text front words (c :: left) ∧
    Text.isAsciiBlank c = false ∧ readToken c left = .error fault := by
  constructor
  · exact Reading.start.go_on.2 fault
  · rintro ⟨front, words, c, left, hreading, hblank, hread⟩
    rw [hreading.tokens, tokens, tokensAfter, hblank, if_neg Bool.false_ne_true, hread]
    rfl

/-! ## the search outside and inside of quotes -/

theorem unquoted_of_isWordChar (h : isWordChar c = true) : Quotes.Unquoted c := by
  refine ⟨?_, ?_, ?_⟩ <;>
  · rintro rfl
    exact absurd h (by decide)

theorem unquoted_of_isBlank (h : Text.isBlank c = true) : Quotes.Unquoted c := by
  refine ⟨?_, ?_, ?_⟩ <;>
  · rintro rfl
    exact absurd h (by decide)

theorem step_quote (h : c = '"' ∨ c = '\'') : Quotes.outside.step c = .inside c := by
  rw [Quotes.step, if_pos h]

/-- the search is outside of quotes again behind every word -/
theorem run_word {read : List Char} (h : readToken c (read ++ left) = .ok (word, left)) :
    Quotes.outside.run (c :: read) = .outside := by
  by_cases hquote : c = '"' ∨ c = '\''
  · rw [readToken, if_pos hquote] at h
    obtain ⟨⟨s, left'⟩, hread, h⟩ := map_eq_ok.1 h
    cases h
    obtain ⟨inside, hsplit, -, hends⟩ := readQuoted_inside (ne_backslash hquote) hread
    have hsame : read ++ left = (inside ++ [c]) ++ left := by simpa using hsplit
    rw [List.append_cancel_right hsame, Quotes.run_cons, step_quote hquote, hends]
  · obtain ⟨read', hsplit, hchars⟩ := readToken_chars hquote h
    rw [List.append_cancel_right hsplit]
    exact Quotes.run_unquoted fun d hd => unquoted_of_isWordChar (hchars d hd)

/-- **Between two words** the search is outside of quotes. -/
theorem Reading.outside (h : Reading text front words left) : Quotes.outside.run front = .outside := by
  induction h with
  | start => rfl
  | blank _ hblank ih =>
    rw [Quotes.run_append, ih]
    exact Quotes.step_unquoted (unquoted_of_isBlank (Text.isBlank_of_isAsciiBlank hblank))
  | word _ _ hread ih => rw [Quotes.run_append, ih, run_word hread]

theorem Reading.split (h : Reading text front words left) : text = front ++ left := by
  induction h with
  | start => rfl
  | blank _ _ ih => rw [ih, List.append_assoc, List.singleton_append]
  | word _ _ _ ih => rw [ih, List.append_assoc, List.cons_append]

/-- **A text that leaves the search outside of quotes** has no string that does not end. -/
theorem tokens_ne_stringNotClosed (h : Quotes.outside.run text = .outside) :
    tokens text ≠ .error .stringNotClosed := by
  intro hfault
  obtain ⟨front, words, c, left, hreading, -, hread⟩ := tokens_eq_error_iff.1 hfault
  have hquote : c = '"' ∨ c = '\'' := by
    by_contra hquote
    exact (readToken_no_quote hquote left).1 hread
  rw [readToken, if_pos hquote] at hread
  rw [hreading.split, Quotes.run_append, hreading.outside, Quotes.run_cons, step_quote hquote] at h
  cases hquoted : readQuoted c left with
  | ok found =>
    rw [hquoted] at hread
    cases hread
  | error fault => exact (readQuoted_error hquoted).2 h

/-- the reading of the text takes `literal`, which stands behind `front`, for a string -/
def ReadsLiteral (text front literal : List Char) : Prop :=
  ∃ words c read s left, literal = c :: read ∧ Reading text front words (c :: (read ++ left)) ∧
    Text.isAsciiBlank c = false ∧ readToken c (read ++ left) = .ok (.str s, left)

end Expr

namespace Template

/-- the search is inside of quotes over a text behind another one: each of its characters is in quotes, or is the mark
that opens them or ends them -/
def Quoted (front text : List Char) : Prop :=
  ∀ before c behind, text = before ++ c :: behind →
    Quotes.outside.run (front ++ before) ≠ .outside ∨ Quotes.outside.run (front ++ before ++ [c]) ≠ .outside

end Template

namespace Expr

/-- **A string literal** lies where the search is inside of quotes. -/
theorem ReadsLiteral.quoted {literal : List Char} (h : ReadsLiteral text front literal) :
    Template.Quoted front literal := by
  obtain ⟨words, c, read, s, left, rfl, hreading, -, hread⟩ := h
  have hquote : c = '"' ∨ c = '\'' := by
    by_contra hquote
    exact (readToken_no_quote hquote _).2 s left hread
  rw [readToken, if_pos hquote] at hread
  obtain ⟨⟨s', left'⟩, hquoted, hword⟩ := map_eq_ok.1 hread
  cases hword
  obtain ⟨inside, hsplit, hstays, -⟩ := readQuoted_inside (ne_backslash hquote) hquoted
  have hsame : read ++ left = (inside ++ [c]) ++ left := by simpa using hsplit
  obtain rfl := List.append_cancel_right hsame
  intro before d behind hliteral
  simp only [Quotes.run_append, hreading.outside]
  cases before with
  | nil =>
    obtain ⟨rfl, -⟩ := List.cons.inj hliteral
    right
    simp [step_quote hquote]
  | cons e before =>
    rw [List.cons_append] at hliteral
    obtain ⟨rfl, hbehind⟩ := List.cons.inj hliteral
    left
    rw [Quotes.run_cons, step_quote hquote]
    -- in front of the last mark, or in front of a character inside
    rcases List.eq_nil_or_concat' behind with rfl | ⟨behind, e, rfl⟩
    · obtain ⟨rfl, -⟩ := List.append_inj' hbehind rfl
      exact hstays inside [] (by simp)
    · have hsame : inside ++ [c] = (before ++ d :: behind) ++ [e] := by simpa using hbehind
      obtain ⟨rfl, -⟩ := List.append_inj' hsame rfl
      exact hstays before (d :: behind) rfl

end Expr

namespace Template

/-! ## code inside its region -/

variable {text left : List Char} {position : Position} {region : Region} {code : Position × List Char}

/-- the expression or the arguments of a token, and the place of its region -/
def Token.code? : Token → Option (Position × List Char)
  | .text _ => none
  | .output expr position => some (position, expr.toList)
  | .tag _ args position => some (position, args.toList)

/-- the expression or the arguments of a region, and its place -/
def Region.code? : Region → Option (Position × List Char)
  | .output position expr _ => some (position, expr)
  | .tag position _ args _ => some (position, args)
  | _ => none

theorem mem_pushText {stack : List Token} {token : Token} (h : token.code? = some code)
    (hmem : token ∈ Assembly.pushText stack text) : token ∈ stack := by
  unfold Assembly.pushText at hmem
  split_ifs at hmem
  · exact hmem
  · rcases List.mem_cons.1 hmem with rfl | hmem
    · cases h
    · exact hmem

theorem mem_trimLast {stack : List Token} {token : Token} {mark : Bool} (h : token.code? = some code)
    (hmem : token ∈ Assembly.trimLast mark stack) : token ∈ stack := by
  unfold Assembly.trimLast at hmem
  split at hmem
  · exact List.mem_cons_of_mem _ (mem_pushText h hmem)
  · exact hmem

/-- the output or the tag that a region is -/
def Region.token? : Region → Option Token
  | .output position inner _ => some (.output (String.ofList inner) position)
  | .tag position name args _ => some (.tag (String.ofList name) (String.ofList args) position)
  | _ => none

theorem code?_of_token? {token : Token} (h : region.token? = some token) : region.code? = token.code? := by
  cases region <;> cases h <;> simp [Region.code?, Token.code?]

/-- a token with code is there already, or it is the region -/
theorem mem_step {a : Assembly} {token : Token} (h : token.code? = some code) (hmem : token ∈ (a.step region).tokens) :
    token ∈ a.tokens ∨ region.token? = some token := by
  cases region with
  | text s => exact Or.inl (mem_pushText h hmem)
  | comment => exact Or.inl hmem
  | output position expr marks | tag position name args marks =>
    rcases List.mem_cons.1 hmem with rfl | hmem
    · exact Or.inr rfl
    · exact Or.inl (mem_trimLast h hmem)
  | verbatim body opening closing => exact Or.inl (mem_trimLast h (mem_pushText h hmem))

theorem mem_run_token {all : List Region} {a : Assembly} {token : Token} (h : token.code? = some code)
    (hmem : token ∈ (all.foldl Assembly.step a).tokens) :
    token ∈ a.tokens ∨ ∃ region ∈ all, region.token? = some token := by
  induction all generalizing a with
  | nil => exact Or.inl hmem
  | cons first all ih =>
    rcases ih hmem with hmem | ⟨region, hregion, htoken⟩
    · exact (mem_step h hmem).imp_right fun htoken => ⟨first, List.mem_cons_self, htoken⟩
    · exact Or.inr ⟨region, List.mem_cons_of_mem _ hregion, htoken⟩

theorem mem_run {all : List Region} {a : Assembly} {token : Token} (h : token.code? = some code)
    (hmem : token ∈ (all.foldl Assembly.step a).tokens) :
    token ∈ a.tokens ∨ ∃ region ∈ all, region.code? = some code := by
  refine (mem_run_token h hmem).imp_right fun ⟨region, hregion, htoken⟩ => ⟨region, hregion, ?_⟩
  rw [code?_of_token? htoken, h]

/-- what is cut off at both ends of a text has no quotation marks -/
def Bare (text code : List Char) : Prop :=
  ∃ before after, text = before ++ code ++ after ∧ ∀ c ∈ before ++ after, Quotes.Unquoted c

theorem Bare.trans {inner : List Char} {text code : List Char} (h : Bare inner text) (h' : Bare text code) :
    Bare inner code := by
  obtain ⟨before, after, rfl, hends⟩ := h
  obtain ⟨before', after', rfl, hends'⟩ := h'
  refine ⟨before ++ before', after' ++ after, by simp, fun c hc => ?_⟩
  have hmem : c ∈ before ++ after ∨ c ∈ before' ++ after' := by
    simp only [List.mem_append] at hc ⊢
    tauto
  rcases hmem with hmem | hmem
  · exact hends c hmem
  · exact hends' c hmem

theorem bare_splitMarks (inner : List Char) : Bare inner (splitMarks inner).1 := by
  have hdash : Quotes.Unquoted '-' := by simp [Quotes.Unquoted]
  unfold splitMarks
  split
  next before text hstart =>
    have hfront : Bare inner text := by
      split at hstart
      · cases hstart
        exact ⟨['-'], [], by simp, by simp [hdash]⟩
      · cases hstart
        exact ⟨[], [], by simp, by simp⟩
    split
    · next rest hrest =>
      have hend : Bare text rest.reverse :=
        ⟨[], ['-'], by rw [← List.reverse_reverse text, hrest]; simp, by simp [hdash]⟩
      exact hfront.trans hend
    · exact hfront

theorem bare_trim (text : List Char) : Bare text (Text.trim text) := by
  obtain ⟨blanks, hsplit, hblanks⟩ := Text.exists_blanks (Text.trimStart text)
  refine ⟨text.takeWhile Text.isBlank, blanks, ?_, fun c hc => Expr.unquoted_of_isBlank ?_⟩
  · rw [List.append_assoc, Text.trim, ← hsplit]
    exact List.takeWhile_append_dropWhile.symm
  · rcases List.mem_append.1 hc with hc | hc
    · exact List.mem_takeWhile_imp hc
    · exact hblanks c hc

theorem bare_splitTag (inner : List Char) : Bare inner (splitTag inner).2 := by
  have hname : Bare (Text.trim inner) ((Text.trim inner).dropWhile isTagNameChar) := by
    refine ⟨(Text.trim inner).takeWhile isTagNameChar, [], ?_, fun c hc => ?_⟩
    · rw [List.append_nil, List.takeWhile_append_dropWhile]
    · rw [List.append_nil] at hc
      exact (unquoted_of_isTagNameChar (List.mem_takeWhile_imp hc)).1
  exact ((bare_trim inner).trans hname).trans (bare_trim _)

theorem code_readTag {inner back : List Char} (h : readTag position inner back = .ok (region, left))
    (hcode : region.code? = some code) : code = (position, (splitTag (splitMarks inner).1).2) := by
  unfold readTag at h
  dsimp only at h
  split_ifs at h with hempty hname
  · split at h
    · cases h
      cases hcode
    · cases h
  · cases h
    cases hcode
    rfl

/-- the character behind the first brace of an output or a tag, and the one in front of its last brace -/
def Region.delimiters? : Region → Option (Char × Char)
  | .output .. => some ('\x7b', '\x7d')
  | .tag .. => some ('%', '%')
  | _ => none

theorem Region.delimiters?_mem {delimiters : Char × Char} (h : region.delimiters? = some delimiters) :
    delimiters ∈ [('\x7b', '\x7d'), ('%', '%')] := by
  cases region <;> cases h <;> simp

theorem delimiters_readTag {inner back : List Char} (h : readTag position inner back = .ok (region, left))
    (hcode : region.code? = some code) : region.delimiters? = some ('%', '%') := by
  unfold readTag at h
  dsimp only at h
  split_ifs at h
  · split at h <;> cases h
    cases hcode
  · cases h
    rfl

/-- the search for the end of a region has passed over this text, behind the place -/
def Searched (source : List Char) (position : Position) (inner : List Char) : Prop :=
  ∃ front opening close back, (opening, close) ∈ [('\x7b', '\x7d'), ('%', '%')] ∧
    source = front ++ '\x7b' :: opening :: (inner ++ close :: '\x7d' :: back) ∧
    Outside ('\x7b' :: opening :: (inner ++ close :: '\x7d' :: back)) front ∧ position = Position.start.after front ∧
    cutClose? close none (inner ++ close :: '\x7d' :: back) = some (inner, back)

/-- the code of a region is cut from what the search has passed over -/
theorem exists_inner (h : regionAt? position text = some (.ok (region, left))) (hcode : region.code? = some code) :
    code.1 = position ∧ ∃ opening close inner back, region.delimiters? = some (opening, close) ∧
      text = '\x7b' :: opening :: (inner ++ close :: '\x7d' :: back) ∧
      cutClose? close none (inner ++ close :: '\x7d' :: back) = some (inner, back) ∧ Bare inner code.2 := by
  unfold regionAt? at h
  split at h
  · next d body =>
    obtain ⟨delimiter, hdelimiter, h⟩ := Option.map_eq_some_iff.1 h
    unfold readRegion at h
    rcases ofChar?_cases hdelimiter with ⟨rfl, rfl⟩ | ⟨rfl, rfl⟩ | ⟨rfl, rfl⟩
    · cases hcut : cutClose? '\x7d' none body with
      | none =>
        rw [hcut] at h
        cases h
      | some cut =>
        obtain ⟨inner, back⟩ := cut
        rw [hcut] at h
        cases h
        cases hcode
        obtain ⟨rfl, -⟩ := cutClose?_eq_some_iff.1 hcut
        exact ⟨rfl, '\x7b', '\x7d', inner, left, rfl, rfl, hcut, (bare_splitMarks inner).trans (bare_trim _)⟩
    · cases hcut : cutClose? '%' none body with
      | none =>
        rw [hcut] at h
        cases h
      | some cut =>
        obtain ⟨inner, back⟩ := cut
        rw [hcut] at h
        obtain ⟨rfl, -⟩ := cutClose?_eq_some_iff.1 hcut
        have hdelimiters := delimiters_readTag h hcode
        obtain rfl := code_readTag h hcode
        exact ⟨rfl, '%', '%', inner, back, hdelimiters, rfl, hcut, (bare_splitMarks inner).trans (bare_splitTag _)⟩
    · cases hcut : Text.cutAt? ['#', '\x7d'] body with
      | none =>
        rw [hcut] at h
        cases h
      | some cut =>
        rw [hcut] at h
        cases h
        cases hcode
  · cases h

/-- **The search and the reading of words agree on quotes.** No code of a source has a string that does not end, and
every string literal in it lies where the search for the end of its region was inside of quotes. -/
theorem literals_quoted {source : String} {all : List Token} (h : tokens source = .ok all) {token : Token}
    (hmem : token ∈ all) (hcode : token.code? = some code) :
    Expr.tokens code.2 ≠ .error .stringNotClosed ∧
    ∃ inner before after, Searched source.toList code.1 inner ∧ inner = before ++ code.2 ++ after ∧
      ∀ lead literal, Expr.ReadsLiteral code.2 lead literal → Quoted (before ++ lead) literal := by
  rw [tokens] at h
  obtain ⟨regions, hregions, rfl⟩ := map_eq_ok.1 h
  rcases mem_run hcode (List.mem_reverse.1 hmem) with hnone | ⟨region, hregion, hregionCode⟩
  · cases hnone
  have htext : region.isText = false := by
    cases region with
    | text s => cases hregionCode
    | _ => rfl
  obtain ⟨front, piece, back, hsource, hout, hread⟩ := (regionsAfter_eq_ok_iff.1 hregions).found hregion htext
  obtain ⟨hposition, opening, close, inner, behind, hdelimiters, hpiece, hcut, hbare⟩ := exists_inner hread hregionCode
  rw [hpiece] at hsource hout
  obtain ⟨before, after, hinner, hends⟩ := hbare
  have hbefore : Quotes.outside.run before = .outside :=
    Quotes.run_unquoted fun c hc => hends c (List.mem_append_left _ hc)
  -- the quotes are closed at the end of the region, and what is cut off does not close any
  have hclosed : Quotes.outside.run code.2 = .outside := by
    have hinside := (cutClose?_eq_some_iff.1 hcut).2.ends
    rw [hinner] at hinside
    have hfront := Quotes.outside_of_run_append (fun c hc => hends c (List.mem_append_right _ hc)) hinside
    rwa [Quotes.run_append, hbefore] at hfront
  refine ⟨Expr.tokens_ne_stringNotClosed hclosed, inner, before, after,
    ⟨front, opening, close, behind, Region.delimiters?_mem hdelimiters, hsource, hout, hposition, hcut⟩, hinner, ?_⟩
  intro lead literal hliteral before' c behind' hsplit
  have hquoted := hliteral.quoted before' c behind' hsplit
  simpa only [List.append_assoc, Quotes.run_append, hbefore] using hquoted

/-- an output that is a literal with a closing delimiter in it, between trim marks -/
theorem literals_quoted_braces :
    Expr.tokens "\"\x7d\x7d\"".toList ≠ .error .stringNotClosed ∧
    ∃ inner before after, Searched "\x7b\x7b- \"\x7d\x7d\" -\x7d\x7d".toList .start inner ∧
      inner = before ++ "\"\x7d\x7d\"".toList ++ after ∧ Quoted before "\"\x7d\x7d\"".toList := by
  have htokens : tokens "\x7b\x7b- \"\x7d\x7d\" -\x7d\x7d" = .ok [.output "\"\x7d\x7d\"" .start] := by rfl
  have hcode : (Token.output "\"\x7d\x7d\"" .start).code? = some (.start, "\"\x7d\x7d\"".toList) := rfl
  obtain ⟨hclosed, inner, before, after, hsearched, hinner, hquoted⟩ :=
    literals_quoted htokens List.mem_cons_self hcode
  have hliteral : Expr.ReadsLiteral "\"\x7d\x7d\"".toList [] "\"\x7d\x7d\"".toList :=
    ⟨[], '"', "\x7d\x7d\"".toList, "\x7d\x7d", [], rfl, .start, by decide, rfl⟩
  refine ⟨hclosed, inner, before, after, hsearched, hinner, ?_⟩
  simpa using hquoted [] _ hliteral

end Template

end Templating
