/-
Readers get on, and so their loops end.

A reader gives no word back, and behind a whole expression there are fewer words than in front of it
(`Reader.Consumes`), since a primary expression takes a word before anything else is read. So a loop that reads an
expression in every round has no more rounds than there are words, and brackets nest no deeper: the numbers that the
readers count down from are never reached.

- `expression_consumes`: an expression that is read has at least one word.
- `Rounds.eq`, `itemsUpTo_rounds`: a loop does not depend on how many rounds it may take.
- `expressionWithin_eq`: nor an expression on how deep its brackets may nest.
- `propList_rounds`, `pairs_rounds`: the loops over props and over the arguments of a component are such loops.
-/
import Templating.Proofs.MoreWords
import Templating.Proofs.TokenReading

namespace Templating

namespace Expr

namespace Reader

variable {α β : Type} {x x' : Reader α} {f f' : α → Reader β}

/-! ## readers that take words -/

/-- behind an answer there are fewer words than in front of it -/
def Consumes (r : Reader α) : Prop :=
  ∀ words a left, r.read words = (.ok a, left) → left.length < words.length

theorem consumes_fail (fault : SyntaxFault) : Consumes (fail fault : Reader α) := by
  intro words a left hread
  cases hread

/-- the first step takes a word, and no word is given back -/
theorem Consumes.bind (hx : Consumes x) (f : α → Reader β) : Consumes (x >>= f) := by
  intro words b left hread
  obtain ⟨a, behind, hfirst, hsecond⟩ := read_bind_eq_ok.1 hread
  have hlt := hx words a behind hfirst
  have hle := length_le_of_read hsecond
  omega

/-- the first step gives no word back, and the others take one -/
theorem consumes_bind (x : Reader α) (hf : ∀ a, Consumes (f a)) : Consumes (x >>= f) := by
  intro words b left hread
  obtain ⟨a, behind, hfirst, hsecond⟩ := read_bind_eq_ok.1 hread
  have hle := length_le_of_read hfirst
  have hlt := hf a behind b left hsecond
  omega

end Reader

open Reader

/-! ## expressions take words -/

theorem acceptIdent_some {words left : List Token} {name : String}
    (h : acceptIdent.read words = (.ok (some name), left)) : words = .ident name :: left := by
  rw [acceptIdent_read] at h
  split at h
  · cases h
    rfl
  · cases h

section

variable {nested : Reader Expr}

/-- a primary expression takes its first word, whatever it is -/
theorem primary_consumes : Consumes (primary nested) := by
  intro words e left hread
  rcases words with _ | ⟨word, rest⟩
  · cases hread
  · unfold primary at hread
    rw [read_bind_ok (peek?_read _), List.head?_cons] at hread
    dsimp only at hread
    rw [read_bind_ok (advance_read word rest)] at hread
    exact Nat.lt_succ_of_le (length_le_of_read hread)

theorem withParts_consumes : Consumes (withParts nested) :=
  primary_consumes.bind _

theorem signed_consumes : Consumes (signed nested) := by
  unfold signed
  refine consumes_bind _ fun minus => ?_
  split_ifs
  · exact withParts_consumes.bind _
  · exact withParts_consumes

theorem withFilters_consumes : Consumes (withFilters nested) :=
  signed_consumes.bind _

theorem comparison_consumes : Consumes (comparison nested) :=
  withFilters_consumes.bind _

theorem negation_consumes (fuel : Nat) : Consumes (negation nested fuel) := by
  induction fuel with
  | zero => exact comparison_consumes
  | succ fuel ih =>
    unfold negation
    refine consumes_bind _ fun negated => ?_
    split_ifs
    · exact ih.bind _
    · exact comparison_consumes

theorem conjunction_consumes : Consumes (conjunction nested) :=
  consumes_bind _ fun fuel => (negation_consumes fuel).bind _

theorem disjunction_consumes : Consumes (disjunction nested) :=
  conjunction_consumes.bind _

end

theorem expressionWithin_consumes (depth : Nat) : Consumes (expressionWithin depth) := by
  cases depth with
  | zero => exact consumes_fail _
  | succ depth => exact disjunction_consumes

/-- **An expression that is read** has at least one word. -/
theorem expression_consumes : Consumes expression :=
  consumes_bind _ fun left => expressionWithin_consumes (left + 1)

/-! ## loops end -/

/-- the loop reads items as long as there are words, in as many rounds as it may take -/
structure Rounds {α : Type} (item : Reader α) (loop : Nat → Reader (List α)) : Prop where
  last : loop 0 = pure []
  next : ∀ fuel, loop (fuel + 1) = do
    if (← wordsLeft) = 0 then return []
    let a ← item
    let rest ← loop fuel
    return a :: rest

/-- **A loop whose items take words** does not depend on how many rounds it may take, once there is one for every
word. -/
theorem Rounds.eq {α : Type} {item : Reader α} {loop : Nat → Reader (List α)} (h : Rounds item loop)
    (hitem : Consumes item) {words : List Token} {fuel fuel' : Nat} (hfuel : words.length ≤ fuel)
    (hfuel' : words.length ≤ fuel') : (loop fuel).read words = (loop fuel').read words := by
  have hnil : ∀ fuel, (loop fuel).read [] = (.ok [], []) := by
    intro fuel
    cases fuel with
    | zero =>
      rw [h.last]
      rfl
    | succ fuel =>
      rw [h.next]
      rfl
  induction fuel generalizing fuel' words with
  | zero =>
    obtain rfl := List.eq_nil_of_length_eq_zero (Nat.le_zero.1 hfuel)
    rw [hnil, hnil]
  | succ fuel ih =>
    cases fuel' with
    | zero =>
      obtain rfl := List.eq_nil_of_length_eq_zero (Nat.le_zero.1 hfuel')
      rw [hnil, hnil]
    | succ fuel' =>
      rw [h.next, h.next]
      rw [read_bind_ok (wordsLeft_read _), read_bind_ok (wordsLeft_read _)]
      split_ifs
      · rfl
      · refine read_bind_congr rfl fun a behind ha => ?_
        have hless := hitem _ a behind ha
        exact read_bind_congr (ih (by omega) (by omega)) fun _ _ _ => rfl

/-- a loop stays among the words when its items do -/
theorem Rounds.careful {α : Type} {item : Reader α} {loop : Nat → Reader (List α)} (h : Rounds item loop)
    (hitem : Careful item) (fuel : Nat) : Careful (loop fuel) := by
  induction fuel with
  | zero =>
    rw [h.last]
    exact careful_pure _
  | succ fuel ih =>
    rw [h.next]
    refine wordsLeft_careful.bind fun count => ?_
    split_ifs
    · exact careful_pure _
    · exact hitem.bind fun a => ih.bind fun rest => careful_pure _

/-- **The items in brackets** do not depend on how many rounds they may take, once there is one for every word. -/
theorem itemsUpTo_rounds {nested : Reader Expr} (h : Consumes nested) (close : Symbol) {words : List Token}
    {fuel fuel' : Nat} (hfuel : words.length < fuel) (hfuel' : words.length < fuel') :
    (itemsUpTo nested close fuel).read words = (itemsUpTo nested close fuel').read words := by
  induction fuel generalizing fuel' words with
  | zero => omega
  | succ fuel ih =>
    obtain ⟨fuel', rfl⟩ := Nat.exists_eq_add_one.2 (Nat.zero_lt_of_lt hfuel')
    unfold itemsUpTo
    refine read_bind_congr rfl fun item left hitem => read_bind_congr rfl fun closed left' hclosed => ?_
    have hitem := h words item left hitem
    have hclosed := length_le_of_read hclosed
    split_ifs
    · rfl
    · refine read_bind_congr rfl fun separated left'' hseparated => ?_
      have hseparated := length_le_of_read hseparated
      split_ifs
      · exact read_bind_congr (ih (by omega) (by omega)) fun _ _ _ => rfl
      · rfl

/-! ## brackets end -/

section

variable {nested nested' : Reader Expr} {bound : Nat} {words : List Token}
  (h : ∀ rest, rest.length < bound → nested.read rest = nested'.read rest)
include h

theorem itemsUpTo_congr (close : Symbol) (fuel : Nat) (hwords : words.length < bound) :
    (itemsUpTo nested close fuel).read words = (itemsUpTo nested' close fuel).read words := by
  induction fuel generalizing words with
  | zero => rfl
  | succ fuel ih =>
    unfold itemsUpTo
    refine read_bind_congr (h words hwords) fun item left hitem => read_bind_congr rfl fun closed left' hclosed => ?_
    have hitem := length_le_of_read hitem
    have hclosed := length_le_of_read hclosed
    split_ifs
    · rfl
    · refine read_bind_congr rfl fun separated left'' hseparated => ?_
      have hseparated := length_le_of_read hseparated
      split_ifs
      · exact read_bind_congr (ih (by omega)) fun _ _ _ => rfl
      · rfl

theorem items_congr (close : Symbol) (hwords : words.length < bound) :
    (items nested close).read words = (items nested' close).read words := by
  unfold items
  refine read_bind_congr rfl fun closed left hclosed => ?_
  have hclosed := length_le_of_read hclosed
  split_ifs
  · rfl
  · rw [read_bind_ok (wordsLeft_read _), read_bind_ok (wordsLeft_read _)]
    exact itemsUpTo_congr h close _ (by omega)

/-- what stands in brackets is read behind the bracket, where there are fewer words -/
theorem primary_congr (hwords : words.length ≤ bound) :
    (primary nested).read words = (primary nested').read words := by
  rcases words with _ | ⟨word, rest⟩
  · rfl
  · unfold primary
    rw [read_bind_ok (peek?_read _), read_bind_ok (peek?_read _)]
    refine read_bind_congr rfl fun _ behind hadvance => ?_
    cases hadvance
    have hrest : rest.length < bound := hwords
    cases word with
    | symbol symbol =>
      cases symbol with
      | openParen => exact read_bind_congr (h rest hrest) fun _ _ _ => rfl
      | openBracket => exact read_bind_congr (items_congr h .closeBracket hrest) fun _ _ _ => rfl
      | _ => rfl
    | _ => rfl

theorem partsOf_congr (fuel : Nat) (e : Expr) (hwords : words.length ≤ bound) :
    (partsOf nested fuel e).read words = (partsOf nested' fuel e).read words := by
  induction fuel generalizing e words with
  | zero => rfl
  | succ fuel ih =>
    unfold partsOf
    refine read_bind_congr rfl fun dot behind hdot => ?_
    split_ifs with hfound
    · rw [hfound] at hdot
      have hdot := (acceptSymbol_accepts .dot).lt hdot
      refine read_bind_congr rfl fun name behind' hname => read_bind_congr rfl fun called behind'' hcalled => ?_
      have hname := length_le_of_read hname
      have hcalled := length_le_of_read hcalled
      split_ifs
      · refine read_bind_congr (items_congr h .closeParen (by omega)) fun args left hargs => ?_
        have hargs := length_le_of_read hargs
        exact ih _ (by omega)
      · exact ih _ (by omega)
    · have hdot := length_le_of_read hdot
      refine read_bind_congr rfl fun bracket behind' hbracket => ?_
      split_ifs with hfound'
      · rw [hfound'] at hbracket
        have hbracket := (acceptSymbol_accepts .openBracket).lt hbracket
        refine read_bind_congr (h behind' (by omega)) fun key behind'' hkey => ?_
        refine read_bind_congr rfl fun _ left hclose => ?_
        have hkey := length_le_of_read hkey
        have hclose := length_le_of_read hclose
        exact ih _ (by omega)
      · rfl

theorem withParts_congr (hwords : words.length ≤ bound) :
    (withParts nested).read words = (withParts nested').read words := by
  refine read_bind_congr (primary_congr h hwords) fun e left he => ?_
  have he := length_le_of_read he
  rw [read_bind_ok (wordsLeft_read _), read_bind_ok (wordsLeft_read _)]
  exact partsOf_congr h _ e (by omega)

theorem signed_congr (hwords : words.length ≤ bound) : (signed nested).read words = (signed nested').read words := by
  unfold signed
  refine read_bind_congr rfl fun minus left hminus => ?_
  have hminus := length_le_of_read hminus
  split_ifs
  · exact read_bind_congr (withParts_congr h (by omega)) fun _ _ _ => rfl
  · exact withParts_congr h (by omega)

theorem filtersOf_congr (fuel : Nat) (e : Expr) (hwords : words.length ≤ bound) :
    (filtersOf nested fuel e).read words = (filtersOf nested' fuel e).read words := by
  induction fuel generalizing e words with
  | zero => rfl
  | succ fuel ih =>
    unfold filtersOf
    refine read_bind_congr rfl fun bar behind hbar => ?_
    have hbar := length_le_of_read hbar
    split_ifs
    · refine read_bind_congr rfl fun name? behind' hname => ?_
      have hname := length_le_of_read hname
      cases name? with
      | none => rfl
      | some name =>
        dsimp only
        cases Filter.ofName? name with
        | none => rfl
        | some named =>
          refine read_bind_congr rfl fun colon behind'' hcolon => ?_
          have hcolon := length_le_of_read hcolon
          split_ifs
          · refine read_bind_congr (withParts_congr h (by omega)) fun arg left harg => ?_
            have harg := length_le_of_read harg
            exact ih _ (by omega)
          · exact ih _ (by omega)
    · rfl

theorem withFilters_congr (hwords : words.length ≤ bound) :
    (withFilters nested).read words = (withFilters nested').read words := by
  refine read_bind_congr (signed_congr h hwords) fun e left he => ?_
  have he := length_le_of_read he
  rw [read_bind_ok (wordsLeft_read _), read_bind_ok (wordsLeft_read _)]
  exact filtersOf_congr h _ e (by omega)

theorem comparison_congr (hwords : words.length ≤ bound) :
    (comparison nested).read words = (comparison nested').read words := by
  unfold comparison
  refine read_bind_congr (withFilters_congr h hwords) fun e left he => ?_
  have he := length_le_of_read he
  rw [read_bind_ok (peek?_read _), read_bind_ok (peek?_read _)]
  cases left.head?.bind Token.comparison? with
  | none => rfl
  | some op =>
    refine read_bind_congr rfl fun _ behind hadvance => ?_
    have hadvance := length_le_of_read hadvance
    exact read_bind_congr (withFilters_congr h (by omega)) fun _ _ _ => rfl

theorem negation_congr (fuel : Nat) (hwords : words.length ≤ bound) :
    (negation nested fuel).read words = (negation nested' fuel).read words := by
  induction fuel generalizing words with
  | zero => exact comparison_congr h hwords
  | succ fuel ih =>
    unfold negation
    refine read_bind_congr rfl fun negated left hnegated => ?_
    have hnegated := length_le_of_read hnegated
    split_ifs
    · exact read_bind_congr (ih (by omega)) fun _ _ _ => rfl
    · exact comparison_congr h (by omega)

theorem operand_congr (hwords : words.length ≤ bound) :
    (wordsLeft >>= fun left => negation nested left).read words =
      (wordsLeft >>= fun left => negation nested' left).read words := by
  rw [read_bind_ok (wordsLeft_read _), read_bind_ok (wordsLeft_read _)]
  exact negation_congr h _ hwords

end

theorem joined_congr {operand operand' : Reader Expr} {bound : Nat}
    (h : ∀ words, words.length ≤ bound → operand.read words = operand'.read words) (keyword : String)
    (join : Expr → Expr → Expr) (fuel : Nat) (left : Expr) {words : List Token} (hwords : words.length ≤ bound) :
    (joined operand keyword join fuel left).read words = (joined operand' keyword join fuel left).read words := by
  induction fuel generalizing left words with
  | zero => rfl
  | succ fuel ih =>
    unfold joined
    refine read_bind_congr rfl fun found behind hfound => ?_
    have hfound := length_le_of_read hfound
    split_ifs
    · refine read_bind_congr (h behind (by omega)) fun right behind' hright => ?_
      have hright := length_le_of_read hright
      exact ih _ (by omega)
    · rfl

section

variable {nested nested' : Reader Expr} {bound : Nat}
  (h : ∀ rest, rest.length < bound → nested.read rest = nested'.read rest)
include h

theorem conjunction_congr {words : List Token} (hwords : words.length ≤ bound) :
    (conjunction nested).read words = (conjunction nested').read words := by
  unfold conjunction
  rw [read_bind_ok (wordsLeft_read _), read_bind_ok (wordsLeft_read _)]
  refine read_bind_congr (negation_congr h _ hwords) fun e left he => ?_
  have he := length_le_of_read he
  rw [read_bind_ok (wordsLeft_read _), read_bind_ok (wordsLeft_read _)]
  exact joined_congr (fun _ => operand_congr h) "and" .and _ e (by omega)

theorem disjunction_congr {words : List Token} (hwords : words.length ≤ bound) :
    (disjunction nested).read words = (disjunction nested').read words := by
  unfold disjunction
  refine read_bind_congr (conjunction_congr h hwords) fun e left he => ?_
  have he := length_le_of_read he
  rw [read_bind_ok (wordsLeft_read _), read_bind_ok (wordsLeft_read _)]
  exact joined_congr (fun _ => conjunction_congr h) "or" .or _ e (by omega)

end

theorem expressionWithin_congr {depth depth' : Nat} {words : List Token} (hdepth : words.length < depth)
    (hdepth' : words.length < depth') :
    (expressionWithin depth).read words = (expressionWithin depth').read words := by
  induction depth generalizing depth' words with
  | zero => omega
  | succ depth ih =>
    obtain ⟨depth', rfl⟩ := Nat.exists_eq_add_one.2 (Nat.zero_lt_of_lt hdepth')
    have hbelow : ∀ rest : List Token, rest.length < words.length →
        (expressionWithin depth).read rest = (expressionWithin depth').read rest :=
      fun rest hrest => ih (by omega) (by omega)
    exact disjunction_congr hbelow (Nat.le_refl _)

/-- **Brackets nest no deeper than there are words**: how deep they may nest beyond that makes no difference. -/
theorem expressionWithin_eq {depth : Nat} {words : List Token} (h : words.length < depth) :
    (expressionWithin depth).read words = expression.read words := by
  unfold expression
  rw [read_bind_ok (wordsLeft_read words)]
  exact expressionWithin_congr h (Nat.lt_succ_self _)

end Expr

/-! ## the loops of tags -/

namespace Template

open Templating.Expr Expr.Reader

/-- one prop of a props tag, with its default and a comma behind it if there are any -/
def propItem : Reader (String × Option Expr) := do
  match ← acceptIdent with
  | none => .fail .propNameMissing
  | some key =>
    let default ← propDefault
    let _ ← acceptSymbol .comma
    return (key, default)

theorem propList_rounds : Rounds propItem propList where
  last := rfl
  next fuel := by
    rw [propList]
    refine congrArg (wordsLeft >>= ·) (funext fun count => ?_)
    split_ifs
    · rfl
    · rw [propItem, bind_assoc]
      refine congrArg (acceptIdent >>= ·) (funext fun key? => ?_)
      cases key? with
      | none => rfl
      | some key => simp only [bind_assoc, pure_bind]

theorem propItem_careful : Careful propItem := by
  unfold propItem propDefault
  refine acceptIdent_careful.bind fun key? => ?_
  cases key? with
  | none => exact careful_fail _
  | some key =>
    refine Careful.bind ?_ fun default => (acceptSymbol_careful .comma).bind fun _ => careful_pure _
    refine (acceptSymbol_careful .assign).bind fun assigned => ?_
    split_ifs
    · exact expression_careful.bind fun e => careful_pure _
    · exact careful_pure _

theorem propItem_consumes : Consumes propItem := by
  intro words prop left hread
  obtain ⟨key?, behind, hkey, hbehind⟩ := read_bind_eq_ok.1 hread
  cases key? with
  | none => cases hbehind
  | some key =>
    obtain rfl := acceptIdent_some hkey
    exact Nat.lt_succ_of_le (length_le_of_read hbehind)

/-- one argument of a component -/
def pairItem : Reader (String × Expr) := do
  match ← acceptString with
  | none => .fail .attributeKeyMissing
  | some key =>
    expectSymbol .assign
    let e ← expression
    return (key, e)

theorem pairs_rounds : Rounds pairItem pairs where
  last := rfl
  next fuel := by
    rw [pairs]
    refine congrArg (wordsLeft >>= ·) (funext fun count => ?_)
    split_ifs
    · rfl
    · rw [pairItem, bind_assoc]
      refine congrArg (acceptString >>= ·) (funext fun key? => ?_)
      cases key? with
      | none => rfl
      | some key => simp only [bind_assoc, pure_bind]

theorem pairItem_careful : Careful pairItem := by
  unfold pairItem
  refine acceptString_careful.bind fun key? => ?_
  cases key? with
  | none => exact careful_fail _
  | some key => exact (expectSymbol_careful .assign).bind fun _ => expression_careful.bind fun e => careful_pure _

theorem pairItem_consumes : Consumes pairItem := by
  intro words pair left hread
  obtain ⟨key?, behind, hkey, hbehind⟩ := read_bind_eq_ok.1 hread
  cases key? with
  | none => cases hbehind
  | some key =>
    obtain rfl := acceptString_some hkey
    exact Nat.lt_succ_of_le (length_le_of_read hbehind)

end Template

end Templating
