/-
How far readers of words get.

Passing over a word moves a cursor also where no word is left, so it is for the readers to look first. They do: none of
them passes over more words than there are (`Reader.Careful`), whether it fails or not. As for `Reader.Yields` the steps
of a reader are looked at one by one, so each reader has one lemma, in the order in which the readers call each other.
Where a reader passes over a word by itself, it has looked at that word right before (`careful_peek`).

- `Accepts`: the readers that take one word when it fits, as symbols and keywords are read.
- `expression_careful`: the cursor behind an expression, or behind the word at which it failed, is among the words.
-/
import Templating.Proofs.Reading

namespace Templating.Expr

namespace Reader

variable {α β : Type}

/-- the reader passes over no more words than there are, whether it fails or not -/
def Careful (r : Reader α) : Prop :=
  ∀ words, r.steps words ≤ words.length

theorem careful_pure (a : α) : Careful (pure a) :=
  fun _ => Nat.zero_le _

theorem careful_fail (fault : SyntaxFault) : Careful (fail fault : Reader α) :=
  fun _ => Nat.zero_le _

/-- steps one after the other -/
theorem Careful.bind {x : Reader α} {f : α → Reader β} (hx : Careful x) (hf : ∀ a, Careful (f a)) :
    Careful (x >>= f) := by
  intro words
  have hfirst := hx words
  rcases hread : x.read words with ⟨fault | a, left⟩
  · rw [steps_bind_error hread]
    exact hfirst
  · have hsecond := hf a left
    have hleft := congrArg List.length (left_of_read hread)
    rw [List.length_drop] at hleft
    rw [steps_bind_ok hread]
    omega

/-- the words that are left tell how far a careful reader got -/
theorem Careful.steps_eq {r : Reader α} (h : Careful r) (words : List Token) :
    r.steps words = words.length - (r.read words).2.length := by
  have hbound := h words
  rw [read_snd, List.length_drop]
  omega

/-- careful readers that answer the same and leave the same words leave the same cursor -/
theorem Careful.run_congr {r r' : Reader α} (hr : Careful r) (hr' : Careful r') {c : Cursor}
    (h : r.read c.words = r'.read c.words) : r.run c = r'.run c := by
  rw [run_eq, run_eq, hr.steps_eq, hr'.steps_eq, h]

end Reader

open Reader

/-! ## words -/

theorem wordsLeft_careful : Careful wordsLeft :=
  fun _ => Nat.zero_le _

section

variable {α : Type}

/-- a word may be passed over where there is one -/
theorem Reader.Careful.advance {f : Unit → Reader α} (h : Careful (f ())) (word : Token) (rest : List Token) :
    (Expr.advance >>= f).steps (word :: rest) ≤ rest.length + 1 := by
  have hone : Expr.advance.steps (word :: rest) = 1 := rfl
  have hbehind := h rest
  rw [steps_bind_ok (advance_read word rest), hone]
  omega

/-- where there is none, the cursor leaves the words -/
example : advance.steps [] = 1 := rfl

/-- what follows a look at the next word may rely on that word -/
theorem careful_peek {f : Option Token → Reader α} (hnone : Careful (f none))
    (hsome : ∀ word rest, (f (some word)).steps (word :: rest) ≤ rest.length + 1) : Careful (peek? >>= f) := by
  intro words
  have hzero : peek?.steps words = 0 := rfl
  rw [steps_bind_ok (peek?_read words), hzero, Nat.zero_add]
  cases words with
  | nil => exact hnone []
  | cons word rest => exact hsome word rest

end

/-- the reader takes the next word when it fits, and answers whether it did -/
structure Accepts (fits : Token → Bool) (r : Reader Bool) : Prop where
  run_nil : r.run (.start []) = (.ok false, .start [])
  run_cons : ∀ word rest, r.run (.start (word :: rest)) =
    if fits word then (.ok true, (Cursor.start (word :: rest)).move 1) else (.ok false, .start (word :: rest))

namespace Accepts

variable {fits : Token → Bool} {r : Reader Bool}

theorem none_left (h : Accepts fits r) : r.read [] = (.ok false, []) := by
  rw [Reader.read, h.run_nil]
  rfl

theorem next (h : Accepts fits r) (word : Token) (rest : List Token) :
    r.read (word :: rest) = if fits word then (.ok true, rest) else (.ok false, word :: rest) := by
  rw [Reader.read, h.run_cons]
  split_ifs <;> rfl

/-- the next word is there and is taken, or nothing is -/
theorem taken (h : Accepts fits r) (words : List Token) :
    (∃ word rest, words = word :: rest ∧ r.read words = (.ok true, rest) ∧ r.steps words = 1) ∨
      (r.read words = (.ok false, words) ∧ r.steps words = 0) := by
  rcases words with _ | ⟨word, rest⟩
  · exact Or.inr ⟨h.none_left, by rw [steps, h.run_nil, Cursor.start]⟩
  · have hread := h.next word rest
    rw [steps, h.run_cons]
    split_ifs at hread ⊢
    · exact Or.inl ⟨word, rest, rfl, hread, rfl⟩
    · exact Or.inr ⟨hread, rfl⟩

theorem careful (h : Accepts fits r) : Careful r := by
  intro words
  rcases h.taken words with ⟨word, rest, rfl, -, hone⟩ | ⟨-, hzero⟩
  · rw [hone, List.length_cons]
    exact Nat.le_add_left _ _
  · rw [hzero]
    exact Nat.zero_le _

/-- a word that is accepted is a word less -/
theorem lt (h : Accepts fits r) {words left : List Token} (hread : r.read words = (.ok true, left)) :
    left.length < words.length := by
  rcases h.taken words with ⟨word, rest, rfl, htaken, -⟩ | ⟨hnone, -⟩
  · cases hread.symm.trans htaken
    exact Nat.lt_succ_self _
  · cases hread.symm.trans hnone

end Accepts

/-- the word is the symbol -/
def Token.isSymbol (symbol : Symbol) : Token → Bool
  | .symbol s => s = symbol
  | _ => false

theorem acceptSymbol_accepts (symbol : Symbol) : Accepts (Token.isSymbol symbol) (acceptSymbol symbol) where
  run_nil := rfl
  run_cons word rest := by
    cases word with
    | symbol s =>
      rw [acceptSymbol, run_bind_ok (peek?_read _)]
      simp only [List.head?_cons, Token.isSymbol, decide_eq_true_eq]
      split_ifs <;> rfl
    | _ => rfl

/-- the word is the keyword -/
def Token.isKeyword (keyword : String) : Token → Bool
  | .ident name => name = keyword
  | _ => false

theorem acceptKeyword_accepts (keyword : String) : Accepts (Token.isKeyword keyword) (acceptKeyword keyword) where
  run_nil := rfl
  run_cons word rest := by
    cases word with
    | ident name =>
      rw [acceptKeyword, run_bind_ok (peek?_read _)]
      simp only [List.head?_cons, Token.isKeyword, decide_eq_true_eq]
      split_ifs <;> rfl
    | _ => rfl

theorem acceptSymbol_careful (symbol : Symbol) : Careful (acceptSymbol symbol) :=
  (acceptSymbol_accepts symbol).careful

theorem acceptKeyword_careful (keyword : String) : Careful (acceptKeyword keyword) :=
  (acceptKeyword_accepts keyword).careful

theorem acceptIdent_careful : Careful acceptIdent := by
  unfold acceptIdent
  refine careful_peek (careful_pure _) fun word rest => ?_
  cases word with
  | ident name => exact (careful_pure _).advance _ rest
  | _ => exact careful_pure _ _

theorem acceptString_careful : Careful acceptString := by
  unfold acceptString
  refine careful_peek (careful_pure _) fun word rest => ?_
  cases word with
  | str s => exact (careful_pure _).advance _ rest
  | _ => exact careful_pure _ _

theorem expectSymbol_careful (symbol : Symbol) : Careful (expectSymbol symbol) := by
  unfold expectSymbol
  refine (acceptSymbol_careful symbol).bind fun found => ?_
  split_ifs
  · exact careful_pure _
  · exact careful_fail _

/-! ## levels -/

variable {nested : Reader Expr}

theorem itemsUpTo_careful (h : Careful nested) (close : Symbol) (fuel : Nat) :
    Careful (itemsUpTo nested close fuel) := by
  induction fuel with
  | zero => exact careful_fail _
  | succ fuel ih =>
    unfold itemsUpTo
    refine h.bind fun item => (acceptSymbol_careful close).bind fun closed => ?_
    split_ifs
    · exact careful_pure _
    · refine (acceptSymbol_careful .comma).bind fun separated => ?_
      split_ifs
      · exact ih.bind fun items => careful_pure _
      · exact careful_fail _

theorem items_careful (h : Careful nested) (close : Symbol) : Careful (items nested close) := by
  unfold items
  refine (acceptSymbol_careful close).bind fun closed => ?_
  split_ifs
  · exact careful_pure _
  · exact wordsLeft_careful.bind fun left => itemsUpTo_careful h close (left + 1)

theorem primary_careful (h : Careful nested) : Careful (primary nested) := by
  unfold primary
  refine careful_peek (careful_fail _) fun word rest => Careful.advance ?_ word rest
  split
  · exact careful_pure _
  · exact careful_pure _
  · exact careful_pure _
  · exact careful_pure _
  · exact h.bind fun e => (expectSymbol_careful .closeParen).bind fun _ => careful_pure _
  · exact (items_careful h .closeBracket).bind fun list => careful_pure _
  · exact careful_fail _

theorem memberName_careful : Careful memberName := by
  unfold memberName
  refine careful_peek (careful_fail _) fun word rest => ?_
  cases word with
  | ident name => exact (careful_pure _).advance _ rest
  | int i => exact (careful_pure _).advance _ rest
  | _ => exact careful_fail _ _

theorem partsOf_careful (h : Careful nested) (fuel : Nat) (e : Expr) : Careful (partsOf nested fuel e) := by
  induction fuel generalizing e with
  | zero => exact careful_pure _
  | succ fuel ih =>
    unfold partsOf
    refine (acceptSymbol_careful .dot).bind fun dot => ?_
    split_ifs
    · refine memberName_careful.bind fun name => (acceptSymbol_careful .openParen).bind fun called => ?_
      split_ifs
      · exact (items_careful h .closeParen).bind fun args => ih _
      · exact ih _
    · refine (acceptSymbol_careful .openBracket).bind fun bracket => ?_
      split_ifs
      · exact h.bind fun key => (expectSymbol_careful .closeBracket).bind fun _ => ih _
      · exact careful_pure _

theorem withParts_careful (h : Careful nested) : Careful (withParts nested) :=
  (primary_careful h).bind fun e => wordsLeft_careful.bind fun left => partsOf_careful h left e

theorem signed_careful (h : Careful nested) : Careful (signed nested) := by
  unfold signed
  refine (acceptSymbol_careful .minus).bind fun minus => ?_
  split_ifs
  · exact (withParts_careful h).bind fun e => careful_pure _
  · exact withParts_careful h

theorem filtersOf_careful (h : Careful nested) (fuel : Nat) (e : Expr) : Careful (filtersOf nested fuel e) := by
  induction fuel generalizing e with
  | zero => exact careful_pure _
  | succ fuel ih =>
    unfold filtersOf
    refine (acceptSymbol_careful .bar).bind fun bar => ?_
    split_ifs
    · refine acceptIdent_careful.bind fun name? => ?_
      cases name? with
      | none => exact careful_fail _
      | some name =>
        dsimp only
        cases Filter.ofName? name with
        | none => exact careful_fail _
        | some named =>
          refine (acceptSymbol_careful .colon).bind fun colon => ?_
          split_ifs
          · exact (withParts_careful h).bind fun arg => ih _
          · exact ih _
    · exact careful_pure _

theorem withFilters_careful (h : Careful nested) : Careful (withFilters nested) :=
  (signed_careful h).bind fun e => wordsLeft_careful.bind fun left => filtersOf_careful h left e

theorem comparison_careful (h : Careful nested) : Careful (comparison nested) := by
  unfold comparison
  refine (withFilters_careful h).bind fun left => careful_peek (careful_pure _) fun word rest => ?_
  rw [Option.bind_some]
  cases word.comparison? with
  | none => exact careful_pure _ _
  | some op => exact ((withFilters_careful h).bind fun right => careful_pure _).advance word rest

theorem negation_careful (h : Careful nested) (fuel : Nat) : Careful (negation nested fuel) := by
  induction fuel with
  | zero => exact comparison_careful h
  | succ fuel ih =>
    unfold negation
    refine (acceptKeyword_careful "not").bind fun negated => ?_
    split_ifs
    · exact ih.bind fun e => careful_pure _
    · exact comparison_careful h

theorem joined_careful {operand : Reader Expr} (h : Careful operand) (keyword : String) (join : Expr → Expr → Expr)
    (fuel : Nat) (left : Expr) : Careful (joined operand keyword join fuel left) := by
  induction fuel generalizing left with
  | zero => exact careful_pure _
  | succ fuel ih =>
    unfold joined
    refine (acceptKeyword_careful keyword).bind fun more => ?_
    split_ifs
    · exact h.bind fun right => ih _
    · exact careful_pure _

theorem operand_careful (h : Careful nested) : Careful (wordsLeft >>= fun left => negation nested left) :=
  wordsLeft_careful.bind fun left => negation_careful h left

theorem conjunction_careful (h : Careful nested) : Careful (conjunction nested) := by
  unfold conjunction
  refine wordsLeft_careful.bind fun count => (negation_careful h count).bind fun left => ?_
  exact wordsLeft_careful.bind fun fuel => joined_careful (operand_careful h) "and" .and fuel left

theorem disjunction_careful (h : Careful nested) : Careful (disjunction nested) := by
  unfold disjunction
  refine (conjunction_careful h).bind fun left => wordsLeft_careful.bind fun fuel => ?_
  exact joined_careful (conjunction_careful h) "or" .or fuel left

theorem expressionWithin_careful (depth : Nat) : Careful (expressionWithin depth) := by
  induction depth with
  | zero => exact careful_fail _
  | succ depth ih => exact disjunction_careful ih

/-- **The cursor stays among the words** over an expression. -/
theorem expression_careful : Careful expression :=
  wordsLeft_careful.bind fun left => expressionWithin_careful (left + 1)

end Templating.Expr
