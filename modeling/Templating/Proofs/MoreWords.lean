/-
An expression in front of more words.

A reader looks at most one word ahead, and no expression goes on with a quoted text (`Quiet`). So what is an expression
on its own is the same expression in front of quiet words, which are left over. The recursions are bounded by how many
words there are, so more words also mean more fuel: `Carries` compares two readers, the one on the words alone and the
one with the words behind. Fuel that runs out would end an expression early, and it does not, since every round takes a
word.

- `expression_carries`: what is read alone is read in front of more words.
-/
import Templating.Proofs.Cursor
import Templating.Proofs.TagArguments

namespace Templating.Expr

open Reader

variable {α β : Type} {more words left : List Token}

/-- what the one reader answers on the words, the other one answers with more words behind, which stay -/
def Carries (more words : List Token) (r r' : Reader α) : Prop :=
  ∀ a left, r.read words = (.ok a, left) → r'.read (words ++ more) = (.ok a, left ++ more)

theorem carries_pure (a : α) : Carries more words (pure a) (pure a) := by
  intro b left hread
  cases hread
  rfl

theorem carries_fail (fault : SyntaxFault) (r : Reader α) : Carries more words (fail fault) r := by
  intro a left hread
  cases hread

/-- steps one after the other, the second on the words that the first one leaves -/
theorem Carries.bind {x x' : Reader α} {f f' : α → Reader β} (hx : Carries more words x x')
    (hf : ∀ a left, x.read words = (.ok a, left) → Carries more left (f a) (f' a)) :
    Carries more words (x >>= f) (x' >>= f') := by
  intro b left hread
  obtain ⟨a, rest, hfirst, hsecond⟩ := read_bind_eq_ok.1 hread
  rw [read_bind_ok (hx a rest hfirst)]
  exact hf a rest hfirst b left hsecond

/-- how many words are left is another number with more words behind -/
theorem carries_wordsLeft {f f' : Nat → Reader β}
    (hf : Carries more words (f words.length) (f' (words ++ more).length)) :
    Carries more words (wordsLeft >>= f) (wordsLeft >>= f') := by
  intro b left hread
  rw [read_bind_ok (wordsLeft_read words)] at hread
  rw [read_bind_ok (wordsLeft_read (words ++ more))]
  exact hf b left hread

/-! ## words -/

theorem acceptIdent_read (words : List Token) :
    acceptIdent.read words =
      match words with
      | .ident name :: rest => (.ok (some name), rest)
      | _ => (.ok none, words) := by
  rw [acceptIdent, read_bind_ok (peek?_read words)]
  rcases words with _ | ⟨word, rest⟩
  · rfl
  · cases word <;> rfl

/-- whether a word is accepted does not depend on what stands behind it -/
theorem Accepts.carries {fits : Token → Bool} {r : Reader Bool} (h : Accepts fits r)
    (hmore : r.read more = (.ok false, more)) : Carries more words r r := by
  intro found left hread
  cases words with
  | nil =>
    rw [h.none_left] at hread
    cases hread
    exact hmore
  | cons word rest =>
    rw [h.next] at hread
    rw [List.cons_append, h.next]
    split_ifs at hread ⊢ <;> cases hread <;> rfl

theorem acceptSymbol_carries (hmore : Quiet more) (symbol : Symbol) :
    Carries more words (acceptSymbol symbol) (acceptSymbol symbol) :=
  (acceptSymbol_accepts symbol).carries (hmore.acceptSymbol symbol)

theorem acceptKeyword_carries (hmore : Quiet more) (keyword : String) :
    Carries more words (acceptKeyword keyword) (acceptKeyword keyword) :=
  (acceptKeyword_accepts keyword).carries (hmore.acceptKeyword keyword)

theorem acceptIdent_carries (hmore : Quiet more) : Carries more words acceptIdent acceptIdent := by
  intro name? left hread
  rcases words with _ | ⟨word, rest⟩
  · cases hread
    rcases more with _ | ⟨word, more⟩
    · rfl
    · cases word <;> first | rfl | exact hmore.elim
  · rw [acceptIdent_read] at hread
    rw [List.cons_append, acceptIdent_read]
    cases word <;> cases hread <;> rfl

theorem expectSymbol_carries (hmore : Quiet more) (symbol : Symbol) :
    Carries more words (expectSymbol symbol) (expectSymbol symbol) := by
  unfold expectSymbol
  refine (acceptSymbol_carries hmore symbol).bind fun found left hfound => ?_
  split_ifs
  · exact carries_pure _
  · exact carries_fail _ _

theorem memberName_carries : Carries more words memberName memberName := by
  intro name left hread
  rcases words with _ | ⟨word, rest⟩
  · cases hread
  · cases word <;> cases hread <;> rfl

/-- the next word is the same with more words behind -/
theorem carries_peek {word : Token} {f f' : Option Token → Reader β}
    (hf : Carries more (word :: words) (f (some word)) (f' (some word))) :
    Carries more (word :: words) (peek? >>= f) (peek? >>= f') := by
  intro b left hread
  rw [read_bind_ok (peek?_read _)] at hread ⊢
  exact hf b left hread

theorem advance_carries {word : Token} : Carries more (word :: words) advance advance := by
  intro a left hread
  cases hread
  rfl

/-! ## levels -/

/-- behind an expression nothing goes on in front of quiet words -/
theorem carries_end {f : Expr → Reader Expr} (hf : Extends "" f) (hmore : Quiet more) (e : Expr) :
    Carries more [] (pure e) (f e) := by
  intro e' left hread
  cases hread
  exact hf.quiet e more hmore

theorem joined_carries (hmore : Quiet more) {operand operand' : Reader Expr}
    (h : ∀ words, Carries more words operand operand') (keyword : String)
    {join : Expr → Expr → Expr} (hjoin : ∀ left right v, join left right ≠ .literal v)
    {fuel fuel' : Nat} (hfuel : fuel ≤ fuel') (e : Expr) (hwords : words.length ≤ fuel) :
    Carries more words (joined operand keyword join fuel e) (joined operand' keyword join fuel' e) := by
  induction fuel generalizing fuel' e words with
  | zero =>
    obtain rfl := List.eq_nil_of_length_eq_zero (Nat.le_zero.1 hwords)
    exact carries_end (joined_extends hjoin fuel') hmore e
  | succ fuel ih =>
    obtain ⟨fuel', rfl⟩ := Nat.exists_eq_add_one.2 (Nat.zero_lt_of_lt hfuel)
    unfold joined
    refine (acceptKeyword_carries hmore keyword).bind fun found behind hread => ?_
    split_ifs with hfound
    · rw [hfound] at hread
      have hread := (acceptKeyword_accepts keyword).lt hread
      refine (h behind).bind fun right left hright => ?_
      have hright := length_le_of_read hright
      exact ih (Nat.le_of_succ_le_succ hfuel) _ (by omega)
    · exact carries_pure _

section

variable {nested nested' : Reader Expr} (hmore : Quiet more) (h : ∀ words, Carries more words nested nested')
include hmore h

theorem itemsUpTo_carries (close : Symbol) {fuel fuel' : Nat} (hfuel : fuel ≤ fuel') (words : List Token) :
    Carries more words (itemsUpTo nested close fuel) (itemsUpTo nested' close fuel') := by
  induction fuel generalizing fuel' words with
  | zero => exact carries_fail _ _
  | succ fuel ih =>
    obtain ⟨fuel', rfl⟩ := Nat.exists_eq_add_one.2 (Nat.zero_lt_of_lt hfuel)
    unfold itemsUpTo
    refine (h words).bind fun item left hitem => (acceptSymbol_carries hmore close).bind fun closed left' hclosed => ?_
    split_ifs
    · exact carries_pure _
    · refine (acceptSymbol_carries hmore .comma).bind fun separated left'' hseparated => ?_
      split_ifs
      · exact (ih (Nat.le_of_succ_le_succ hfuel) left'').bind fun items _ _ => carries_pure _
      · exact carries_fail _ _

theorem items_carries (close : Symbol) (words : List Token) :
    Carries more words (items nested close) (items nested' close) := by
  unfold items
  refine (acceptSymbol_carries hmore close).bind fun closed left hclosed => ?_
  split_ifs
  · exact carries_pure _
  · refine carries_wordsLeft (itemsUpTo_carries hmore h close ?_ left)
    rw [List.length_append]
    omega

theorem primary_carries (words : List Token) : Carries more words (primary nested) (primary nested') := by
  rcases words with _ | ⟨word, rest⟩
  · intro e left hread
    cases hread
  · refine carries_peek (advance_carries.bind fun _ left _ => ?_)
    split
    · exact carries_pure _
    · exact carries_pure _
    · exact carries_pure _
    · exact carries_pure _
    · exact (h left).bind fun e left' _ => (expectSymbol_carries hmore _).bind fun _ _ _ => carries_pure _
    · exact (items_carries hmore h _ left).bind fun list _ _ => carries_pure _
    · exact carries_fail _ _

theorem partsOf_carries {fuel fuel' : Nat} (hfuel : fuel ≤ fuel') (e : Expr) (hwords : words.length ≤ fuel) :
    Carries more words (partsOf nested fuel e) (partsOf nested' fuel' e) := by
  induction fuel generalizing fuel' e words with
  | zero =>
    obtain rfl := List.eq_nil_of_length_eq_zero (Nat.le_zero.1 hwords)
    exact carries_end (partsOf_extends fuel') hmore e
  | succ fuel ih =>
    obtain ⟨fuel', rfl⟩ := Nat.exists_eq_add_one.2 (Nat.zero_lt_of_lt hfuel)
    have hless : fuel ≤ fuel' := Nat.le_of_succ_le_succ hfuel
    unfold partsOf
    refine (acceptSymbol_carries hmore .dot).bind fun dot behind hdot => ?_
    split_ifs with hfound
    · rw [hfound] at hdot
      have hdot := (acceptSymbol_accepts .dot).lt hdot
      refine memberName_carries.bind fun name behind' hname => ?_
      have hname := length_le_of_read hname
      refine (acceptSymbol_carries hmore .openParen).bind fun called behind'' hcalled => ?_
      have hcalled := length_le_of_read hcalled
      split_ifs
      · refine (items_carries hmore h .closeParen behind'').bind fun args left hargs => ?_
        have hargs := length_le_of_read hargs
        exact ih hless _ (by omega)
      · exact ih hless _ (by omega)
    · have hdot := length_le_of_read hdot
      refine (acceptSymbol_carries hmore .openBracket).bind fun bracket behind' hbracket => ?_
      split_ifs with hfound'
      · rw [hfound'] at hbracket
        have hbracket := (acceptSymbol_accepts .openBracket).lt hbracket
        refine (h behind').bind fun key behind'' hkey => ?_
        have hkey := length_le_of_read hkey
        refine (expectSymbol_carries hmore .closeBracket).bind fun _ left hclose => ?_
        have hclose := length_le_of_read hclose
        exact ih hless _ (by omega)
      · exact carries_pure _

theorem withParts_carries (words : List Token) : Carries more words (withParts nested) (withParts nested') := by
  refine (primary_carries hmore h words).bind fun e left _ => carries_wordsLeft ?_
  exact partsOf_carries hmore h (by simp) e (Nat.le_refl _)

theorem signed_carries (words : List Token) : Carries more words (signed nested) (signed nested') := by
  unfold signed
  refine (acceptSymbol_carries hmore .minus).bind fun minus left _ => ?_
  split_ifs
  · exact (withParts_carries hmore h left).bind fun e _ _ => carries_pure _
  · exact withParts_carries hmore h left

theorem filtersOf_carries {fuel fuel' : Nat} (hfuel : fuel ≤ fuel') (e : Expr) (hwords : words.length ≤ fuel) :
    Carries more words (filtersOf nested fuel e) (filtersOf nested' fuel' e) := by
  induction fuel generalizing fuel' e words with
  | zero =>
    obtain rfl := List.eq_nil_of_length_eq_zero (Nat.le_zero.1 hwords)
    exact carries_end (filtersOf_extends fuel') hmore e
  | succ fuel ih =>
    obtain ⟨fuel', rfl⟩ := Nat.exists_eq_add_one.2 (Nat.zero_lt_of_lt hfuel)
    have hless : fuel ≤ fuel' := Nat.le_of_succ_le_succ hfuel
    unfold filtersOf
    refine (acceptSymbol_carries hmore .bar).bind fun bar behind hbar => ?_
    split_ifs with hfound
    · rw [hfound] at hbar
      have hbar := (acceptSymbol_accepts .bar).lt hbar
      refine (acceptIdent_carries hmore).bind fun name? behind' hname => ?_
      have hname := length_le_of_read hname
      cases name? with
      | none => exact carries_fail _ _
      | some name =>
        dsimp only
        cases Filter.ofName? name with
        | none => exact carries_fail _ _
        | some named =>
          refine (acceptSymbol_carries hmore .colon).bind fun colon behind'' hcolon => ?_
          have hcolon := length_le_of_read hcolon
          split_ifs
          · refine (withParts_carries hmore h behind'').bind fun arg left harg => ?_
            have harg := length_le_of_read harg
            exact ih hless _ (by omega)
          · exact ih hless _ (by omega)
    · exact carries_pure _

theorem withFilters_carries (words : List Token) :
    Carries more words (withFilters nested) (withFilters nested') := by
  refine (signed_carries hmore h words).bind fun e left _ => carries_wordsLeft ?_
  exact filtersOf_carries hmore h (by simp) e (Nat.le_refl _)

theorem comparison_carries (words : List Token) :
    Carries more words (comparison nested) (comparison nested') := by
  refine (withFilters_carries hmore h words).bind fun e left _ => ?_
  rcases left with _ | ⟨word, rest⟩
  · intro e' left hread
    cases hread
    rcases more with _ | ⟨word, more⟩
    · rfl
    · cases word <;> first | rfl | exact hmore.elim
  · refine carries_peek ?_
    dsimp only [Option.bind_some]
    cases word.comparison? with
    | none => exact carries_pure _
    | some op => exact advance_carries.bind fun _ left _ =>
        (withFilters_carries hmore h left).bind fun right _ _ => carries_pure _

theorem negation_carries {fuel fuel' : Nat} (hfuel : fuel ≤ fuel') (hwords : words.length ≤ fuel) :
    Carries more words (negation nested fuel) (negation nested' fuel') := by
  induction fuel generalizing fuel' words with
  | zero =>
    obtain rfl := List.eq_nil_of_length_eq_zero (Nat.le_zero.1 hwords)
    intro e left hread
    cases hread
  | succ fuel ih =>
    obtain ⟨fuel', rfl⟩ := Nat.exists_eq_add_one.2 (Nat.zero_lt_of_lt hfuel)
    unfold negation
    refine (acceptKeyword_carries hmore "not").bind fun negated left hnegated => ?_
    split_ifs with hfound
    · rw [hfound] at hnegated
      have hnegated := (acceptKeyword_accepts "not").lt hnegated
      exact (ih (Nat.le_of_succ_le_succ hfuel) (by omega)).bind fun e _ _ => carries_pure _
    · exact comparison_carries hmore h left

theorem operand_carries (words : List Token) :
    Carries more words (wordsLeft >>= fun left => negation nested left)
      (wordsLeft >>= fun left => negation nested' left) :=
  carries_wordsLeft (negation_carries hmore h (by simp) (Nat.le_refl _))

theorem conjunction_carries (words : List Token) :
    Carries more words (conjunction nested) (conjunction nested') := by
  unfold conjunction
  refine carries_wordsLeft ((negation_carries hmore h (by simp) (Nat.le_refl _)).bind fun e left _ => ?_)
  refine carries_wordsLeft ?_
  exact joined_carries hmore (operand_carries hmore h) "and" (by simp) (by simp) e
    (Nat.le_refl _)

theorem disjunction_carries (words : List Token) :
    Carries more words (disjunction nested) (disjunction nested') := by
  unfold disjunction
  refine (conjunction_carries hmore h words).bind fun e left _ => carries_wordsLeft ?_
  exact joined_carries hmore (conjunction_carries hmore h) "or" (by simp)
    (by simp) e (Nat.le_refl _)

end

theorem expressionWithin_carries (hmore : Quiet more) {depth depth' : Nat} (hdepth : depth ≤ depth')
    (words : List Token) : Carries more words (expressionWithin depth) (expressionWithin depth') := by
  induction depth generalizing depth' words with
  | zero => exact carries_fail _ _
  | succ depth ih =>
    obtain ⟨depth', rfl⟩ := Nat.exists_eq_add_one.2 (Nat.zero_lt_of_lt hdepth)
    exact disjunction_carries hmore (ih (Nat.le_of_succ_le_succ hdepth)) words

/-- **An expression in front of quiet words** is the one that it is on its own. -/
theorem expression_carries (hmore : Quiet more) (words : List Token) :
    Carries more words expression expression :=
  carries_wordsLeft (expressionWithin_carries hmore (by simp) words)

end Templating.Expr
