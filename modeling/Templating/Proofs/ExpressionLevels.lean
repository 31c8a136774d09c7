/-
How an expression is read back from its words.

Behind an expression a level stops in front of every word that does not bind as tight as the level (`Stops`), and that
is what makes an operand end where its words end. A level is read as the one above it and a loop, or a prefix: so what
a level reads is read by all looser levels (`ReadAt.lift`), and there is one lemma for each way to build an expression.
Brackets hold whole expressions, which have fewer words.

- `readAt_words`: every part of an expression is read at its level.
- `expression_words`: a printable expression is read from its words in front of any words that do not go on with it.
-/
import Templating.Proofs.ExpressionWords

namespace Templating

namespace Expr

/-! ## the words around an expression -/

/-- how tight the word binds to the expression in front of it -/
def Token.binds : Token → Nat
  | .symbol .openParen | .symbol .colon => 8
  | .symbol .dot | .symbol .openBracket => 7
  | .symbol .bar => 5
  | .symbol .equal | .symbol .notEqual | .symbol .less | .symbol .lessEqual | .symbol .greater
  | .symbol .greaterEqual | .ident "in" => 4
  | .ident "and" => 2
  | .ident "or" => 1
  | _ => 0

/-- the loosest level that the word is the first one of -/
def Token.opens : Token → Nat
  | .symbol .openParen | .symbol .openBracket => 7
  | .symbol .minus => 6
  | .symbol _ => 0
  | .ident "not" => 3
  | _ => 7

/-- no word follows that a level goes on with -/
def Stops (place : Nat) (rest : List Token) : Prop :=
  ∀ word ∈ rest.head?, word.binds < place

variable {place : Nat} {word : Token} {rest : List Token} {symbol : Symbol} {keyword : String}

theorem stops_cons : Stops place (word :: rest) ↔ word.binds < place := by
  simp [Stops]

theorem Stops.mono (h : Stops place rest) {place' : Nat} (hplace : place ≤ place') : Stops place' rest :=
  fun word hword => Nat.lt_of_lt_of_le (h word hword) hplace

theorem acceptSymbol_read (symbol : Symbol) (rest : List Token) :
    (acceptSymbol symbol).read (.symbol symbol :: rest) = (.ok true, rest) := by
  simp [(acceptSymbol_accepts symbol).next, Token.isSymbol]

theorem acceptKeyword_read (keyword : String) (rest : List Token) :
    (acceptKeyword keyword).read (.ident keyword :: rest) = (.ok true, rest) := by
  simp [(acceptKeyword_accepts keyword).next, Token.isKeyword]

theorem acceptSymbol_other (h : word ≠ .symbol symbol) (rest : List Token) :
    (acceptSymbol symbol).read (word :: rest) = (.ok false, word :: rest) := by
  have hfits : Token.isSymbol symbol word = false := by
    cases word with
    | symbol s => simpa [Token.isSymbol] using h
    | _ => rfl
  rw [(acceptSymbol_accepts symbol).next, hfits, if_neg Bool.false_ne_true]

theorem acceptKeyword_other (h : word ≠ .ident keyword) (rest : List Token) :
    (acceptKeyword keyword).read (word :: rest) = (.ok false, word :: rest) := by
  have hfits : Token.isKeyword keyword word = false := by
    cases word with
    | ident s => simpa [Token.isKeyword] using h
    | _ => rfl
  rw [(acceptKeyword_accepts keyword).next, hfits, if_neg Bool.false_ne_true]

/-- a symbol that binds is not there where a level stops -/
theorem Stops.acceptSymbol (h : Stops place rest) (hsymbol : place ≤ (Token.symbol symbol).binds) :
    (acceptSymbol symbol).read rest = (.ok false, rest) := by
  cases rest with
  | nil => rfl
  | cons word rest =>
    refine acceptSymbol_other ?_ rest
    rintro rfl
    exact absurd (stops_cons.1 h) (Nat.not_lt.2 hsymbol)

theorem Stops.acceptKeyword (h : Stops place rest) (hkeyword : place ≤ (Token.ident keyword).binds) :
    (acceptKeyword keyword).read rest = (.ok false, rest) := by
  cases rest with
  | nil => rfl
  | cons word rest =>
    refine acceptKeyword_other ?_ rest
    rintro rfl
    exact absurd (stops_cons.1 h) (Nat.not_lt.2 hkeyword)

theorem Stops.comparison (h : Stops 4 rest) : rest.head?.bind Token.comparison? = none := by
  cases rest with
  | nil => rfl
  | cons word rest =>
    have hword := stops_cons.1 h
    rw [List.head?_cons, Option.bind_some]
    unfold Token.comparison?
    split <;> first | rfl | exact absurd hword (by decide)

/-! ## what a level reads -/

open Reader

/-- the reader takes the words for the expression, in front of words at which the level stops -/
def Reads (r : Reader Expr) (place : Nat) (ws : List Token) (e : Expr) : Prop :=
  ∀ rest, Stops place rest → r.read (ws ++ rest) = (.ok e, rest)

/-- behind the words, the reader goes on with a loop that has the expression so far, and fuel for all words left -/
def ComesTo (r : Reader Expr) (loop : Nat → Expr → Reader Expr) (place : Nat) (ws : List Token) (e : Expr) : Prop :=
  ∀ rest, Stops place rest → ∃ fuel, rest.length ≤ fuel ∧ r.read (ws ++ rest) = (loop fuel e).read rest

/-- a first operand, and the loop behind it -/
theorem Reads.comesTo {first : Reader Expr} {loop : Nat → Expr → Reader Expr} {ws : List Token} {e : Expr}
    (h : Reads first place ws e) :
    ComesTo (first >>= fun e => wordsLeft >>= fun count => loop count e) loop place ws e := by
  intro rest hrest
  refine ⟨rest.length, Nat.le_refl _, ?_⟩
  rw [read_bind_ok (h rest hrest), read_bind_ok (wordsLeft_read rest)]

/-- a loop that stops -/
theorem ComesTo.reads {r : Reader Expr} {loop : Nat → Expr → Reader Expr} {ws : List Token} {e : Expr}
    (h : ComesTo r loop place ws e) {place' : Nat} (hplace : place' ≤ place)
    (hloop : ∀ fuel rest, Stops place' rest → (loop fuel e).read rest = (.ok e, rest)) : Reads r place' ws e := by
  intro rest hrest
  obtain ⟨fuel, -, hread⟩ := h rest (hrest.mono hplace)
  rw [hread, hloop fuel rest hrest]

variable {nested : Reader Expr} {ws : List Token} {e left right : Expr}

theorem partsOf_stops (h : Stops 7 rest) (fuel : Nat) (e : Expr) :
    (partsOf nested fuel e).read rest = (.ok e, rest) := by
  cases fuel with
  | zero => rfl
  | succ fuel =>
    rw [partsOf, read_bind_ok (h.acceptSymbol (by decide)), if_neg Bool.false_ne_true,
      read_bind_ok (h.acceptSymbol (by decide))]
    rfl

theorem filtersOf_stops (h : Stops 5 rest) (fuel : Nat) (e : Expr) :
    (filtersOf nested fuel e).read rest = (.ok e, rest) := by
  cases fuel with
  | zero => rfl
  | succ fuel =>
    rw [filtersOf, read_bind_ok (h.acceptSymbol (by decide))]
    rfl

theorem joined_stops {operand : Reader Expr} {join : Expr → Expr → Expr} (h : Stops place rest)
    (hkeyword : place ≤ (Token.ident keyword).binds) (fuel : Nat) (e : Expr) :
    (joined operand keyword join fuel e).read rest = (.ok e, rest) := by
  cases fuel with
  | zero => rfl
  | succ fuel =>
    rw [joined, read_bind_ok (h.acceptKeyword hkeyword)]
    rfl

/-- the loop of `and` -/
def conjunctionLoop (nested : Reader Expr) : Nat → Expr → Reader Expr :=
  joined (do negation nested (← wordsLeft)) "and" .and

/-- the loop of `or` -/
def disjunctionLoop (nested : Reader Expr) : Nat → Expr → Reader Expr :=
  joined (conjunction nested) "or" .or

/-- the level reads the words for the expression: up to its loop when it has one -/
def LevelReads (nested : Reader Expr) (ws : List Token) (e : Expr) : Nat → Prop
  | 7 => ComesTo (withParts nested) (partsOf nested) 8 ws e
  | 6 => Reads (signed nested) 6 ws e
  | 5 => ComesTo (withFilters nested) (filtersOf nested) 6 ws e
  | 4 => Reads (comparison nested) 4 ws e
  | 3 => ∀ fuel rest, Stops 3 rest → (ws ++ rest).length ≤ fuel →
      (negation nested fuel).read (ws ++ rest) = (.ok e, rest)
  | 2 => ComesTo (conjunction nested) (conjunctionLoop nested) 3 ws e
  | 1 => ComesTo (disjunction nested) (disjunctionLoop nested) 2 ws e
  | _ => False

/-- there are words, and the first one can be the first one of the level -/
def Starts (place : Nat) (ws : List Token) : Prop :=
  ∃ word tail, ws = word :: tail ∧ place ≤ word.opens

theorem starts_cons (h : place ≤ word.opens) (tail : List Token) : Starts place (word :: tail) :=
  ⟨word, tail, rfl, h⟩

theorem Starts.append (h : Starts place ws) (more : List Token) : Starts place (ws ++ more) := by
  obtain ⟨word, tail, rfl, hword⟩ := h
  exact starts_cons hword (tail ++ more)

theorem Starts.mono {place' : Nat} (h : Starts place' ws) (hplace : place ≤ place') : Starts place ws := by
  obtain ⟨word, tail, rfl, hword⟩ := h
  exact starts_cons (Nat.le_trans hplace hword) tail

/-- the words can start the level, and the level reads them -/
structure ReadAt (nested : Reader Expr) (place : Nat) (ws : List Token) (e : Expr) : Prop where
  starts : Starts place ws
  reads : LevelReads nested ws e place

namespace ReadAt

theorem withParts (h : ReadAt nested 7 ws e) : Reads (withParts nested) 7 ws e :=
  ComesTo.reads h.reads (by decide) fun fuel _ hrest => partsOf_stops hrest fuel e

theorem withFilters (h : ReadAt nested 5 ws e) : Reads (withFilters nested) 5 ws e :=
  ComesTo.reads h.reads (by decide) fun fuel _ hrest => filtersOf_stops hrest fuel e

theorem conjunction (h : ReadAt nested 2 ws e) : Reads (conjunction nested) 2 ws e :=
  ComesTo.reads h.reads (by decide) fun fuel _ hrest => joined_stops hrest (by decide) fuel e

theorem disjunction (h : ReadAt nested 1 ws e) : Reads (disjunction nested) 1 ws e :=
  ComesTo.reads h.reads (by decide) fun fuel _ hrest => joined_stops hrest (by decide) fuel e

theorem operand (h : ReadAt nested 3 ws e) : Reads (do negation nested (← wordsLeft)) 3 ws e := by
  intro rest hrest
  rw [read_bind_ok (wordsLeft_read _)]
  exact h.reads _ rest hrest (Nat.le_refl _)

/-- no sign is read where a level of parts starts -/
theorem signed (h : ReadAt nested 7 ws e) : Reads (signed nested) 6 ws e := by
  intro rest hrest
  have hparts := h.withParts rest (hrest.mono (by decide))
  obtain ⟨word, tail, rfl, hopens⟩ := h.starts
  have hword : word ≠ .symbol .minus := by
    rintro rfl
    exact absurd hopens (by decide)
  rw [List.cons_append] at hparts ⊢
  rw [Expr.signed, read_bind_ok (acceptSymbol_other hword _), if_neg Bool.false_ne_true, hparts]

theorem comparison (h : ReadAt nested 5 ws e) : Reads (comparison nested) 4 ws e := by
  intro rest hrest
  rw [Expr.comparison, read_bind_ok (h.withFilters rest (hrest.mono (by decide))), read_bind_ok (peek?_read rest),
    hrest.comparison]
  rfl

/-- no `not` is read where a level of comparisons starts -/
theorem negation (h : ReadAt nested 4 ws e) (fuel : Nat) (hrest : Stops 3 rest) :
    (negation nested fuel).read (ws ++ rest) = (.ok e, rest) := by
  have hcomparison := h.reads rest (hrest.mono (by decide))
  cases fuel with
  | zero => exact hcomparison
  | succ fuel =>
    obtain ⟨word, tail, rfl, hopens⟩ := h.starts
    have hword : word ≠ .ident "not" := by
      rintro rfl
      exact absurd hopens (by decide)
    rw [List.cons_append] at hcomparison ⊢
    rw [Expr.negation, read_bind_ok (acceptKeyword_other hword _), if_neg Bool.false_ne_true, hcomparison]

/-- **A level reads** what the next tighter one reads. -/
theorem lift (h : ReadAt nested (place + 1) ws e) (hplace : 1 ≤ place) : ReadAt nested place ws e := by
  refine ⟨h.starts.mono (Nat.le_succ place), ?_⟩
  match place, h with
  | 6, h => exact h.signed
  | 5, h => exact Reads.comesTo h.reads
  | 4, h => exact h.comparison
  | 3, h => exact fun fuel rest hrest _ => h.negation fuel hrest
  | 2, h =>
    intro rest hrest
    refine ⟨rest.length, Nat.le_refl _, ?_⟩
    rw [Expr.conjunction, read_bind_ok (wordsLeft_read _), read_bind_ok (h.reads _ rest hrest (Nat.le_refl _)),
      read_bind_ok (wordsLeft_read rest)]
    rfl
  | 1, h => exact Reads.comesTo h.conjunction

/-- **What a level reads** is read by all looser levels. -/
theorem descend {level : Nat} (h : ReadAt nested level ws e) (hplace : 1 ≤ place) (hlevel : place ≤ level) :
    ReadAt nested place ws e := by
  obtain ⟨more, rfl⟩ := Nat.exists_eq_add_of_le hlevel
  induction more with
  | zero => exact h
  | succ more ih => exact ih (h.lift (Nat.le_trans hplace (Nat.le_add_right place more))) (Nat.le_add_right place more)

end ReadAt

/-! ## brackets -/

theorem expectSymbol_read (symbol : Symbol) (rest : List Token) :
    (expectSymbol symbol).read (.symbol symbol :: rest) = (.ok (), rest) := by
  rw [expectSymbol, read_bind_ok (acceptSymbol_read symbol rest)]
  rfl

theorem readAt_primary (hstarts : Starts 7 ws) (h : ∀ rest, (primary nested).read (ws ++ rest) = (.ok e, rest)) :
    ReadAt nested 7 ws e :=
  ⟨hstarts, Reads.comesTo fun rest _ => h rest⟩

theorem primary_openParen (rest : List Token) : (primary nested).read (.symbol .openParen :: rest) =
    (nested >>= fun e => expectSymbol .closeParen >>= fun _ => pure e).read rest := by
  unfold primary
  rw [read_bind_ok (peek?_read _)]
  exact read_bind_ok (advance_read _ rest) _

theorem primary_openBracket (rest : List Token) : (primary nested).read (.symbol .openBracket :: rest) =
    (Expr.items nested .closeBracket >>= fun items => pure (list items)).read rest := by
  unfold primary
  rw [read_bind_ok (peek?_read _)]
  exact read_bind_ok (advance_read _ rest) _

/-- an expression in parentheses -/
theorem readAt_parens (h : Reads nested 1 ws e) :
    ReadAt nested 7 (.symbol .openParen :: (ws ++ [.symbol .closeParen])) e := by
  refine readAt_primary (starts_cons (by decide) _) fun rest => ?_
  have hinside := h (.symbol .closeParen :: rest) (stops_cons.2 (by decide))
  rw [List.cons_append, List.append_assoc, List.singleton_append, primary_openParen, read_bind_ok hinside,
    read_bind_ok (expectSymbol_read .closeParen rest)]
  rfl

/-- **An operand at its place**, in parentheses when it has to be. -/
theorem ReadAt.wrapped {level : Nat} (h : ReadAt nested level ws e) (hnested : Reads nested 1 ws e) (hplace : 1 ≤ place)
    (htop : place ≤ 7) : ReadAt nested place (wrapped place level ws) e := by
  unfold Expr.wrapped
  split_ifs with hloose
  · exact (readAt_parens hnested).descend hplace htop
  · exact h.descend hplace (Nat.le_of_not_lt hloose)

/-- the expression can stand between brackets and commas -/
structure Nests (nested : Reader Expr) (e : Expr) : Prop where
  starts : Starts 1 e.words
  reads : Reads nested 1 e.words e

variable {items : List Expr} {close : Symbol}

theorem length_itemTail (items : List Expr) : items.length ≤ (itemTail items).length := by
  induction items with
  | nil => exact Nat.le_refl _
  | cons e items ih =>
    simp only [itemTail, List.length_cons, List.length_append]
    omega

theorem itemsUpTo_read (hclose : close = .closeParen ∨ close = .closeBracket) (rest : List Token)
    (he : Nests nested e) (hitems : ∀ item ∈ items, Nests nested item) {fuel : Nat} (hfuel : items.length < fuel) :
    (itemsUpTo nested close fuel).read (e.words ++ (itemTail items ++ .symbol close :: rest)) =
      (.ok (e :: items), rest) := by
  have hbinds : (Token.symbol close).binds < 1 := by
    rcases hclose with rfl | rfl <;> decide
  have hcomma : Token.symbol .comma ≠ .symbol close := by
    rcases hclose with rfl | rfl <;> simp
  induction items generalizing e fuel with
  | nil =>
    obtain ⟨fuel, rfl⟩ := Nat.exists_eq_succ_of_ne_zero (Nat.ne_zero_of_lt hfuel)
    rw [itemTail, List.nil_append, itemsUpTo, read_bind_ok (he.reads _ (stops_cons.2 hbinds)),
      read_bind_ok (acceptSymbol_read close rest)]
    rfl
  | cons item items ih =>
    obtain ⟨fuel, rfl⟩ := Nat.exists_eq_succ_of_ne_zero (Nat.ne_zero_of_lt hfuel)
    obtain ⟨hitem, hitems⟩ := List.forall_mem_cons.1 hitems
    have hbehind := ih hitem hitems (Nat.lt_of_succ_lt_succ hfuel)
    rw [itemTail, List.cons_append, List.append_assoc, itemsUpTo, read_bind_ok (he.reads _ (stops_cons.2 (by decide))),
      read_bind_ok (acceptSymbol_other hcomma _), if_neg Bool.false_ne_true, read_bind_ok (acceptSymbol_read .comma _),
      if_pos rfl, read_bind_ok hbehind]
    rfl

/-- **Expressions between brackets.** -/
theorem items_read (hclose : close = .closeParen ∨ close = .closeBracket) (rest : List Token)
    (hitems : ∀ item ∈ items, Nests nested item) :
    (Expr.items nested close).read (itemWords items ++ .symbol close :: rest) = (.ok items, rest) := by
  cases items with
  | nil =>
    rw [itemWords, List.nil_append, Expr.items, read_bind_ok (acceptSymbol_read close rest)]
    rfl
  | cons e items =>
    obtain ⟨he, hitems⟩ := List.forall_mem_cons.1 hitems
    have hfuel : items.length < (e.words ++ (itemTail items ++ .symbol close :: rest)).length + 1 := by
      have htail := length_itemTail items
      simp only [List.length_append]
      omega
    have hread := itemsUpTo_read hclose rest he hitems hfuel
    obtain ⟨word, tail, hwords, hopens⟩ := he.starts
    have hword : word ≠ .symbol close := by
      rintro rfl
      rcases hclose with rfl | rfl <;> exact absurd hopens (by decide)
    have hnone : (acceptSymbol close).read (e.words ++ (itemTail items ++ .symbol close :: rest)) =
        (.ok false, e.words ++ (itemTail items ++ .symbol close :: rest)) := by
      rw [hwords]
      exact acceptSymbol_other hword _
    rw [itemWords, List.append_assoc, Expr.items, read_bind_ok hnone, if_neg Bool.false_ne_true,
      read_bind_ok (wordsLeft_read _), hread]

/-! ## one lemma for each way to build an expression -/

theorem memberName_read (name : String) (rest : List Token) :
    memberName.read (.ident name :: rest) = (.ok name, rest) := rfl

theorem readAt_member (h : ReadAt nested 7 ws e) (key : String) :
    ReadAt nested 7 (ws ++ [.symbol .dot, .ident key]) (member e key) := by
  refine ⟨h.starts.append _, fun rest hrest => ?_⟩
  obtain ⟨fuel, hfuel, hread⟩ := h.reads (.symbol .dot :: .ident key :: rest) (stops_cons.2 (by decide))
  obtain ⟨fuel, rfl⟩ := Nat.exists_eq_succ_of_ne_zero (Nat.ne_zero_of_lt hfuel)
  refine ⟨fuel, by simp only [List.length_cons] at hfuel; omega, ?_⟩
  rw [List.append_assoc, List.cons_append, List.singleton_append, hread, partsOf,
    read_bind_ok (acceptSymbol_read .dot _), if_pos rfl, read_bind_ok (memberName_read key rest),
    read_bind_ok (hrest.acceptSymbol (by decide)), if_neg Bool.false_ne_true]

theorem readAt_call (h : ReadAt nested 7 ws e) (method : String) {args : List Expr}
    (hargs : ∀ arg ∈ args, Nests nested arg) :
    ReadAt nested 7 (ws ++ .symbol .dot :: .ident method :: .symbol .openParen ::
      (itemWords args ++ [.symbol .closeParen])) (call e method args) := by
  refine ⟨h.starts.append _, fun rest hrest => ?_⟩
  obtain ⟨fuel, hfuel, hread⟩ := h.reads (.symbol .dot :: .ident method :: .symbol .openParen ::
    (itemWords args ++ .symbol .closeParen :: rest)) (stops_cons.2 (by decide))
  obtain ⟨fuel, rfl⟩ := Nat.exists_eq_succ_of_ne_zero (Nat.ne_zero_of_lt hfuel)
  refine ⟨fuel, by simp only [List.length_cons, List.length_append] at hfuel; omega, ?_⟩
  simp only [List.append_assoc, List.cons_append, List.nil_append]
  rw [hread, partsOf, read_bind_ok (acceptSymbol_read .dot _), if_pos rfl, read_bind_ok (memberName_read method _),
    read_bind_ok (acceptSymbol_read .openParen _), if_pos rfl, read_bind_ok (items_read (Or.inl rfl) rest hargs)]

theorem readAt_index {key : Expr} (h : ReadAt nested 7 ws e) (hkey : Nests nested key) :
    ReadAt nested 7 (ws ++ .symbol .openBracket :: (key.words ++ [.symbol .closeBracket])) (index e key) := by
  refine ⟨h.starts.append _, fun rest hrest => ?_⟩
  obtain ⟨fuel, hfuel, hread⟩ := h.reads (.symbol .openBracket :: (key.words ++ .symbol .closeBracket :: rest))
    (stops_cons.2 (by decide))
  obtain ⟨fuel, rfl⟩ := Nat.exists_eq_succ_of_ne_zero (Nat.ne_zero_of_lt hfuel)
  have hdot : Token.symbol .openBracket ≠ .symbol .dot := by simp
  refine ⟨fuel, by simp only [List.length_cons, List.length_append] at hfuel; omega, ?_⟩
  simp only [List.append_assoc, List.cons_append, List.nil_append]
  rw [hread, partsOf, read_bind_ok (acceptSymbol_other hdot _), if_neg Bool.false_ne_true,
    read_bind_ok (acceptSymbol_read .openBracket _), if_pos rfl, read_bind_ok (hkey.reads _ (stops_cons.2 (by decide))),
    read_bind_ok (expectSymbol_read .closeBracket rest)]

theorem readAt_list (hitems : ∀ item ∈ items, Nests nested item) :
    ReadAt nested 7 (.symbol .openBracket :: (itemWords items ++ [.symbol .closeBracket])) (list items) := by
  refine readAt_primary (starts_cons (by decide) _) fun rest => ?_
  rw [List.cons_append, List.append_assoc, List.singleton_append, primary_openBracket,
    read_bind_ok (items_read (Or.inr rfl) rest hitems)]
  rfl

theorem readAt_neg (h : ReadAt nested 7 ws e) : ReadAt nested 6 (.symbol .minus :: ws) (neg e) := by
  refine ⟨starts_cons (by decide) ws, fun rest hrest => ?_⟩
  rw [List.cons_append, signed, read_bind_ok (acceptSymbol_read .minus _), if_pos rfl,
    read_bind_ok (h.withParts rest (hrest.mono (by decide)))]
  rfl

/-- a filter without an argument -/
theorem readAt_filter (h : ReadAt nested 5 ws e) (f : Filter) :
    ReadAt nested 5 (ws ++ [.symbol .bar, .ident f.name]) (filter f e none) := by
  refine ⟨h.starts.append _, fun rest hrest => ?_⟩
  obtain ⟨fuel, hfuel, hread⟩ := h.reads (.symbol .bar :: .ident f.name :: rest) (stops_cons.2 (by decide))
  obtain ⟨fuel, rfl⟩ := Nat.exists_eq_succ_of_ne_zero (Nat.ne_zero_of_lt hfuel)
  refine ⟨fuel, by simp only [List.length_cons] at hfuel; omega, ?_⟩
  rw [List.append_assoc, List.cons_append, List.singleton_append, hread, filtersOf,
    read_bind_ok (acceptSymbol_read .bar _), if_pos rfl, read_bind_ok (acceptIdent_read _)]
  dsimp only
  rw [Filter.ofName?_name]
  dsimp only
  rw [read_bind_ok (hrest.acceptSymbol (by decide)), if_neg Bool.false_ne_true]

/-- a filter with an argument -/
theorem readAt_filter_arg {ws' : List Token} {arg : Expr} (h : ReadAt nested 5 ws e) (f : Filter)
    (harg : ReadAt nested 7 ws' arg) : ReadAt nested 5
      (ws ++ .symbol .bar :: .ident f.name :: .symbol .colon :: ws') (filter f e (some arg)) := by
  refine ⟨h.starts.append _, fun rest hrest => ?_⟩
  obtain ⟨fuel, hfuel, hread⟩ := h.reads (.symbol .bar :: .ident f.name :: .symbol .colon :: (ws' ++ rest))
    (stops_cons.2 (by decide))
  obtain ⟨fuel, rfl⟩ := Nat.exists_eq_succ_of_ne_zero (Nat.ne_zero_of_lt hfuel)
  refine ⟨fuel, by simp only [List.length_cons, List.length_append] at hfuel; omega, ?_⟩
  rw [List.append_assoc, List.cons_append, List.cons_append, List.cons_append, hread, filtersOf,
    read_bind_ok (acceptSymbol_read .bar _), if_pos rfl, read_bind_ok (acceptIdent_read _)]
  dsimp only
  rw [Filter.ofName?_name]
  dsimp only
  rw [read_bind_ok (acceptSymbol_read .colon _), if_pos rfl,
    read_bind_ok (harg.withParts rest (hrest.mono (by decide)))]

theorem comparison?_word (op : Comparison) : op.word.comparison? = some op := by
  cases op <;> rfl

theorem binds_word (op : Comparison) : op.word.binds = 4 := by
  cases op <;> rfl

theorem readAt_compare {ws' : List Token} (op : Comparison) (hleft : ReadAt nested 5 ws left)
    (hright : ReadAt nested 5 ws' right) : ReadAt nested 4 (ws ++ op.word :: ws') (compare op left right) := by
  refine ⟨(hleft.starts.mono (by decide)).append _, fun rest hrest => ?_⟩
  have hword : Stops 5 (op.word :: (ws' ++ rest)) := by
    rw [stops_cons, binds_word]
    decide
  rw [List.append_assoc, List.cons_append, comparison, read_bind_ok (hleft.withFilters _ hword),
    read_bind_ok (peek?_read _), List.head?_cons, Option.bind_some, comparison?_word]
  dsimp only
  rw [read_bind_ok (advance_read op.word _), read_bind_ok (hright.withFilters rest (hrest.mono (by decide)))]
  rfl

theorem readAt_not (h : ReadAt nested 3 ws e) : ReadAt nested 3 (.ident "not" :: ws) (not e) := by
  refine ⟨starts_cons (by decide) ws, fun fuel rest hrest hfuel => ?_⟩
  rw [List.cons_append, List.length_cons] at hfuel
  obtain ⟨fuel, rfl⟩ := Nat.exists_eq_succ_of_ne_zero (Nat.ne_zero_of_lt hfuel)
  rw [List.cons_append, negation, read_bind_ok (acceptKeyword_read "not" _), if_pos rfl,
    read_bind_ok (h.reads fuel rest hrest (Nat.le_of_succ_le_succ hfuel))]
  rfl

/-- one more operand of a chain -/
theorem ComesTo.join {r operand : Reader Expr} {join : Expr → Expr → Expr} {ws' : List Token}
    (hleft : ComesTo r (joined operand keyword join) place ws left) (hkeyword : (Token.ident keyword).binds < place)
    (hright : Reads operand place ws' right) :
    ComesTo r (joined operand keyword join) place (ws ++ .ident keyword :: ws') (join left right) := by
  intro rest hrest
  obtain ⟨fuel, hfuel, hread⟩ := hleft (.ident keyword :: (ws' ++ rest)) (stops_cons.2 hkeyword)
  obtain ⟨fuel, rfl⟩ := Nat.exists_eq_succ_of_ne_zero (Nat.ne_zero_of_lt hfuel)
  refine ⟨fuel, by simp only [List.length_cons, List.length_append] at hfuel; omega, ?_⟩
  rw [List.append_assoc, List.cons_append, hread, joined, read_bind_ok (acceptKeyword_read keyword _), if_pos rfl,
    read_bind_ok (hright rest hrest)]

theorem readAt_and {ws' : List Token} (hleft : ReadAt nested 2 ws left) (hright : ReadAt nested 3 ws' right) :
    ReadAt nested 2 (ws ++ .ident "and" :: ws') (and left right) :=
  ⟨hleft.starts.append _, ComesTo.join hleft.reads (by decide) hright.operand⟩

theorem readAt_or {ws' : List Token} (hleft : ReadAt nested 1 ws left) (hright : ReadAt nested 2 ws' right) :
    ReadAt nested 1 (ws ++ .ident "or" :: ws') (or left right) :=
  ⟨hleft.starts.append _, ComesTo.join hleft.reads (by decide) hright.conjunction⟩

theorem opens_ident {name : String} (h : name ≠ "not") : (Token.ident name).opens = 7 := by
  unfold Token.opens
  split <;> simp_all

theorem ofIdent_var {name : String} (h : name ∉ keywords) : ofIdent name = var name := by
  unfold ofIdent
  split <;> first | rfl | exact absurd h (by decide)

theorem readAt_var {name : String} (h : name ∉ keywords) : ReadAt nested 7 [.ident name] (var name) := by
  have hnot : name ≠ "not" := by
    rintro rfl
    exact absurd h (by decide)
  refine readAt_primary (starts_cons (Nat.le_of_eq (opens_ident hnot).symm) []) fun rest => ?_
  rw [← ofIdent_var h]
  rfl

theorem readAt_literal {v : Value} (h : isWritable v = true) : ReadAt nested 7 (literalWords v) (literal v) := by
  cases v with
  | null => exact readAt_primary (starts_cons (by decide) []) fun rest => rfl
  | bool b => cases b <;> exact readAt_primary (starts_cons (by decide) []) fun rest => rfl
  | int i => exact readAt_primary (starts_cons (Nat.le_refl 7) []) fun rest => rfl
  | str s => exact readAt_primary (starts_cons (Nat.le_refl 7) []) fun rest => rfl
  | _ => cases h

/-! ## every expression is read back -/

theorem length_wrapped (place level : Nat) (ws : List Token) : ws.length ≤ (wrapped place level ws).length := by
  unfold wrapped
  split_ifs
  · simp only [List.length_cons, List.length_append]
    omega
  · exact Nat.le_refl _

theorem length_itemWords {item : Expr} (h : item ∈ items) : item.words.length ≤ (itemWords items).length := by
  have htail : ∀ items : List Expr, item ∈ items → item.words.length ≤ (itemTail items).length := by
    intro items h
    induction items with
    | nil => cases h
    | cons e items ih =>
      simp only [itemTail, List.length_cons, List.length_append]
      rcases List.mem_cons.1 h with rfl | h
      · omega
      · have hlength := ih h
        omega
  cases items with
  | nil => cases h
  | cons e items =>
    rw [itemWords, List.length_append]
    rcases List.mem_cons.1 h with rfl | h
    · omega
    · have hlength := htail items h
      omega

theorem one_le_level (e : Expr) : 1 ≤ e.level := by
  cases e <;> simp [level]

/-- **An expression is read at its level**, when the reader for brackets reads everything with fewer words. -/
theorem readAt_words {count : Nat}
    (hnested : ∀ e : Expr, e.Printable → e.words.length < count → Reads nested 1 e.words e)
    (he : e.Printable) (hcount : e.words.length ≤ count) : ReadAt nested e.level e.words e := by
  induction hlength : e.words.length using Nat.strongRecOn generalizing e with
  | ind n ih =>
    subst hlength
    -- a part of the expression, at a place of its own or between brackets
    have part : ∀ part : Expr, part.Printable → part.words.length < e.words.length → ∀ place, 1 ≤ place → place ≤ 7 →
        ReadAt nested place (wrapped place part.level part.words) part := by
      intro part hpart hlength place hplace htop
      have hread := ih _ hlength hpart (Nat.le_trans (Nat.le_of_lt hlength) hcount) rfl
      exact hread.wrapped (hnested part hpart (Nat.lt_of_lt_of_le hlength hcount)) hplace htop
    have inside : ∀ part : Expr, part.Printable → part.words.length < e.words.length → Nests nested part := by
      intro part hpart hlength
      have hread := ih _ hlength hpart (Nat.le_trans (Nat.le_of_lt hlength) hcount) rfl
      exact ⟨hread.starts.mono (one_le_level part), hnested part hpart (Nat.lt_of_lt_of_le hlength hcount)⟩
    cases e with
    | literal v => exact readAt_literal (printable_literal.1 he)
    | var name => exact readAt_var (printable_var.1 he).2
    | member target key =>
      have hlength := length_wrapped 7 target.level target.words
      refine readAt_member (part target (printable_member.1 he).2 ?_ 7 (by decide) (by decide)) key
      simp only [words, List.length_append, List.length_cons]
      omega
    | index target key =>
      have hlength := length_wrapped 7 target.level target.words
      obtain ⟨htarget, hkey⟩ := printable_index.1 he
      refine readAt_index (part target htarget ?_ 7 (by decide) (by decide)) (inside key hkey ?_) <;>
      · simp only [words, List.length_append, List.length_cons]
        omega
    | call target method args =>
      have hlength := length_wrapped 7 target.level target.words
      obtain ⟨⟨-, htarget⟩, hargs⟩ := printable_call.1 he
      refine readAt_call (part target htarget ?_ 7 (by decide) (by decide)) method fun arg harg =>
        inside arg (hargs.printable harg) ?_
      · simp only [words, List.length_append, List.length_cons]
        omega
      · have hitems := length_itemWords harg
        simp only [words, List.length_append, List.length_cons]
        omega
    | list items =>
      refine readAt_list fun item hitem => inside item ((printable_list.1 he).printable hitem) ?_
      have hitems := length_itemWords hitem
      simp only [words, List.length_append, List.length_cons]
      omega
    | neg e =>
      have hlength := length_wrapped 7 e.level e.words
      refine readAt_neg (part e (printable_neg.1 he) ?_ 7 (by decide) (by decide))
      simp only [words, List.length_cons]
      omega
    | not e =>
      have hlength := length_wrapped 3 e.level e.words
      refine readAt_not (part e (printable_not.1 he) ?_ 3 (by decide) (by decide))
      simp only [words, List.length_cons]
      omega
    | and left right =>
      have hleft := length_wrapped 2 left.level left.words
      have hright := length_wrapped 3 right.level right.words
      obtain ⟨hleftPrintable, hrightPrintable⟩ := printable_and.1 he
      refine readAt_and (part left hleftPrintable ?_ 2 (by decide) (by decide))
        (part right hrightPrintable ?_ 3 (by decide) (by decide)) <;>
      · simp only [words, List.length_append, List.length_cons]
        omega
    | or left right =>
      have hleft := length_wrapped 1 left.level left.words
      have hright := length_wrapped 2 right.level right.words
      obtain ⟨hleftPrintable, hrightPrintable⟩ := printable_or.1 he
      refine readAt_or (part left hleftPrintable ?_ 1 (by decide) (by decide))
        (part right hrightPrintable ?_ 2 (by decide) (by decide)) <;>
      · simp only [words, List.length_append, List.length_cons]
        omega
    | compare op left right =>
      have hleft := length_wrapped 5 left.level left.words
      have hright := length_wrapped 5 right.level right.words
      obtain ⟨hleftPrintable, hrightPrintable⟩ := printable_compare.1 he
      refine readAt_compare op (part left hleftPrintable ?_ 5 (by decide) (by decide))
        (part right hrightPrintable ?_ 5 (by decide) (by decide)) <;>
      · simp only [words, List.length_append, List.length_cons]
        omega
    | filter f e arg =>
      have hlength := length_wrapped 5 e.level e.words
      cases arg with
      | none =>
        refine readAt_filter (part e (printable_filter_none.1 he) ?_ 5 (by decide) (by decide)) f
        simp only [words, List.length_append, List.length_cons]
        omega
      | some arg =>
        have harg := length_wrapped 7 arg.level arg.words
        obtain ⟨hePrintable, hargPrintable⟩ := printable_filter_some.1 he
        refine readAt_filter_arg (part e hePrintable ?_ 5 (by decide) (by decide)) f
          (part arg hargPrintable ?_ 7 (by decide) (by decide)) <;>
        · simp only [words, List.length_append, List.length_cons]
          omega

theorem expressionWithin_words (depth : Nat) (he : e.Printable) (hdepth : e.words.length ≤ depth) :
    Reads (expressionWithin depth) 1 e.words e := by
  induction depth generalizing e with
  | zero =>
    -- without any words there is no expression
    have hnested : ∀ e : Expr, e.Printable → e.words.length < 0 → Reads (expressionWithin 0) 1 e.words e :=
      fun e _ hlength => absurd hlength (Nat.not_lt_zero _)
    obtain ⟨word, tail, hwords, -⟩ := (readAt_words hnested he hdepth).starts
    rw [hwords] at hdepth
    cases hdepth
  | succ depth ih =>
    have hnested : ∀ e : Expr, e.Printable → e.words.length < depth + 1 →
        Reads (expressionWithin depth) 1 e.words e := fun e he hlength => ih he (Nat.le_of_lt_succ hlength)
    exact ((readAt_words hnested he hdepth).descend (Nat.le_refl 1) (one_le_level e)).disjunction

/-- **A printable expression is read from its words**, in front of any words that do not go on with it. -/
theorem expression_words (he : e.Printable) (hrest : Stops 1 rest) :
    expression.read (e.words ++ rest) = (.ok e, rest) := by
  rw [expression, read_bind_ok (wordsLeft_read _)]
  refine expressionWithin_words _ he ?_ rest hrest
  rw [List.length_append]
  omega

end Expr

end Templating
