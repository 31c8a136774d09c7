/-
What readers of words can answer.

`Reader.Yields Q r`: every result of `r` satisfies `Q`, whatever the words are. It is enough to look at the steps of a
reader one by one (`Yields.bind`), so each reader has one lemma, in the order in which the readers call each other.

- `expression_yields`: an expression that is read holds no literals but numbers, texts, truth values and `none`.
-/
import Templating.Proofs.NodeTree
import Templating.Proofs.WordReaders
import Templating.Template.Block

namespace Templating

/-! ## Plain expressions -/

/-- the value is written as it stands in a source: no list, no map, and nothing that counts as markup -/
def Value.isPlain : Value → Bool
  | .null | .bool _ | .int _ | .float _ | .str _ => true
  | .safe _ | .list _ | .map _ | .attrs _ => false

namespace Expr

/-- the expression is no literal but a plain one -/
@[simp]
def isPlain : Expr → Bool
  | literal v => v.isPlain
  | _ => true

/-- all literals in the expression are plain -/
def Plain (e : Expr) : Prop :=
  e.all isPlain = true

/-- all literals in the expressions are plain -/
def PlainItems (items : List Expr) : Prop :=
  allItems isPlain items = true

section

variable {e left right : Expr} {items : List Expr}

@[simp] theorem plain_member {key : String} : (member e key).Plain ↔ e.Plain := by simp [Plain]

@[simp] theorem plain_index : (index left right).Plain ↔ left.Plain ∧ right.Plain := by simp [Plain]

@[simp] theorem plain_call {method : String} : (call e method items).Plain ↔ e.Plain ∧ PlainItems items := by
  simp [Plain, PlainItems]

@[simp] theorem plain_list : (list items).Plain ↔ PlainItems items := by simp [Plain, PlainItems]

@[simp] theorem plain_neg : (neg e).Plain ↔ e.Plain := by simp [Plain]

@[simp] theorem plain_not : (not e).Plain ↔ e.Plain := by simp [Plain]

@[simp] theorem plain_and : (and left right).Plain ↔ left.Plain ∧ right.Plain := by simp [Plain]

@[simp] theorem plain_or : (or left right).Plain ↔ left.Plain ∧ right.Plain := by simp [Plain]

@[simp] theorem plain_compare {op : Comparison} : (compare op left right).Plain ↔ left.Plain ∧ right.Plain := by
  simp [Plain]

@[simp] theorem plain_filter_none {name : Filter} : (filter name e none).Plain ↔ e.Plain := by
  simp [Plain]

@[simp] theorem plain_filter_some {name : Filter} :
    (filter name left (some right)).Plain ↔ left.Plain ∧ right.Plain := by
  simp [Plain]

@[simp] theorem plainItems_nil : PlainItems [] := rfl

@[simp] theorem plainItems_cons : PlainItems (e :: items) ↔ e.Plain ∧ PlainItems items := by
  simp [Plain, PlainItems]

end

namespace Reader

variable {α β : Type} {P Q : α → Prop} {R : β → Prop}

/-- every result of the reader satisfies `Q` -/
def Yields (Q : α → Prop) (r : Reader α) : Prop :=
  ∀ words a rest, r.read words = (.ok a, rest) → Q a

theorem yields_pure {a : α} (h : Q a) : Yields Q (pure a) := by
  intro words b rest hread
  cases hread
  exact h

theorem yields_fail (fault : SyntaxFault) : Yields Q (fail fault) := by
  intro words b rest hread
  cases hread

theorem yields_any (r : Reader α) : Yields (fun _ => True) r :=
  fun _ _ _ _ => trivial

/-- steps one after the other -/
theorem Yields.bind {x : Reader α} {f : α → Reader β} (hx : Yields P x) (hf : ∀ a, P a → Yields R (f a)) :
    Yields R (x >>= f) := by
  intro words b rest hread
  obtain ⟨a, rest', hout, hread⟩ := read_bind_eq_ok.1 hread
  exact hf a (hx words a rest' hout) rest' b rest hread

/-- a first step whose result does not matter -/
theorem yields_bind (x : Reader α) {f : α → Reader β} (hf : ∀ a, Yields R (f a)) : Yields R (x >>= f) :=
  (yields_any x).bind fun a _ => hf a

end Reader

open Reader

/-! ## Expressions -/

variable {nested : Reader Expr}

theorem ofIdent_plain (name : String) : (ofIdent name).Plain := by
  unfold ofIdent
  split <;> rfl

theorem itemsUpTo_yields (h : Yields Plain nested) (close : Symbol) (fuel : Nat) :
    Yields PlainItems (itemsUpTo nested close fuel) := by
  induction fuel with
  | zero => exact yields_fail _
  | succ fuel ih =>
    unfold itemsUpTo
    refine h.bind fun item hitem => yields_bind _ fun closed => ?_
    split_ifs
    · exact yields_pure (by simpa using hitem)
    · refine yields_bind _ fun separated => ?_
      split_ifs
      · exact ih.bind fun items hitems => yields_pure (by simpa using ⟨hitem, hitems⟩)
      · exact yields_fail _

theorem items_yields (h : Yields Plain nested) (close : Symbol) : Yields PlainItems (items nested close) := by
  unfold items
  refine yields_bind _ fun closed => ?_
  split_ifs
  · exact yields_pure plainItems_nil
  · exact yields_bind _ fun left => itemsUpTo_yields h close (left + 1)

theorem primary_yields (h : Yields Plain nested) : Yields Plain (primary nested) := by
  unfold primary
  refine yields_bind _ fun word? => ?_
  cases word? with
  | none => exact yields_fail _
  | some word =>
    refine yields_bind _ fun _ => ?_
    split
    · exact yields_pure rfl
    · exact yields_pure rfl
    · exact yields_pure rfl
    · exact yields_pure (ofIdent_plain _)
    · exact h.bind fun e he => yields_bind _ fun _ => yields_pure he
    · exact (items_yields h _).bind fun items hitems => yields_pure (plain_list.2 hitems)
    · exact yields_fail _

theorem partsOf_yields (h : Yields Plain nested) (fuel : Nat) {e : Expr} (he : e.Plain) :
    Yields Plain (partsOf nested fuel e) := by
  induction fuel generalizing e with
  | zero => exact yields_pure he
  | succ fuel ih =>
    unfold partsOf
    refine yields_bind _ fun dot => ?_
    split_ifs
    · refine yields_bind _ fun name => yields_bind _ fun called => ?_
      split_ifs
      · exact (items_yields h _).bind fun args hargs => ih (plain_call.2 ⟨he, hargs⟩)
      · exact ih (plain_member.2 he)
    · refine yields_bind _ fun bracket => ?_
      split_ifs
      · exact h.bind fun key hkey => yields_bind _ fun _ => ih (plain_index.2 ⟨he, hkey⟩)
      · exact yields_pure he

theorem withParts_yields (h : Yields Plain nested) : Yields Plain (withParts nested) :=
  (primary_yields h).bind fun _ he => yields_bind _ fun left => partsOf_yields h left he

theorem signed_yields (h : Yields Plain nested) : Yields Plain (signed nested) := by
  unfold signed
  refine yields_bind _ fun minus => ?_
  split_ifs
  · exact (withParts_yields h).bind fun e he => yields_pure (plain_neg.2 he)
  · exact withParts_yields h

theorem filtersOf_yields (h : Yields Plain nested) (fuel : Nat) {e : Expr} (he : e.Plain) :
    Yields Plain (filtersOf nested fuel e) := by
  induction fuel generalizing e with
  | zero => exact yields_pure he
  | succ fuel ih =>
    unfold filtersOf
    refine yields_bind _ fun bar => ?_
    split_ifs
    · refine yields_bind _ fun name? => ?_
      cases name? with
      | none => exact yields_fail _
      | some name =>
        dsimp only
        cases Filter.ofName? name with
        | none => exact yields_fail _
        | some named =>
          refine yields_bind _ fun colon => ?_
          split_ifs
          · exact (withParts_yields h).bind fun arg harg => ih (plain_filter_some.2 ⟨he, harg⟩)
          · exact ih (plain_filter_none.2 he)
    · exact yields_pure he

theorem withFilters_yields (h : Yields Plain nested) : Yields Plain (withFilters nested) :=
  (signed_yields h).bind fun _ he => yields_bind _ fun left => filtersOf_yields h left he

theorem comparison_yields (h : Yields Plain nested) : Yields Plain (comparison nested) := by
  unfold comparison
  refine (withFilters_yields h).bind fun left hleft => yields_bind _ fun word? => ?_
  cases word?.bind Token.comparison? with
  | none => exact yields_pure hleft
  | some op =>
    refine yields_bind _ fun _ => ?_
    exact (withFilters_yields h).bind fun right hright => yields_pure (plain_compare.2 ⟨hleft, hright⟩)

theorem negation_yields (h : Yields Plain nested) (fuel : Nat) : Yields Plain (negation nested fuel) := by
  induction fuel with
  | zero => exact comparison_yields h
  | succ fuel ih =>
    unfold negation
    refine yields_bind _ fun negated => ?_
    split_ifs
    · exact ih.bind fun e he => yields_pure (plain_not.2 he)
    · exact comparison_yields h

theorem joined_yields {operand : Reader Expr} (h : Yields Plain operand) (keyword : String) {join : Expr → Expr → Expr}
    (hjoin : ∀ left right, left.Plain → right.Plain → (join left right).Plain) (fuel : Nat) {left : Expr}
    (hleft : left.Plain) : Yields Plain (joined operand keyword join fuel left) := by
  induction fuel generalizing left with
  | zero => exact yields_pure hleft
  | succ fuel ih =>
    unfold joined
    refine yields_bind _ fun more => ?_
    split_ifs
    · exact h.bind fun right hright => ih (hjoin left right hleft hright)
    · exact yields_pure hleft

theorem conjunction_yields (h : Yields Plain nested) : Yields Plain (conjunction nested) := by
  have hoperand : Yields Plain (wordsLeft >>= fun left => negation nested left) :=
    yields_bind _ fun left => negation_yields h left
  unfold conjunction
  refine yields_bind _ fun _ => (negation_yields h _).bind fun left hleft => yields_bind _ fun fuel => ?_
  exact joined_yields hoperand "and" (fun _ _ hl hr => plain_and.2 ⟨hl, hr⟩) fuel hleft

theorem disjunction_yields (h : Yields Plain nested) : Yields Plain (disjunction nested) := by
  unfold disjunction
  refine (conjunction_yields h).bind fun left hleft => yields_bind _ fun fuel => ?_
  exact joined_yields (conjunction_yields h) "or" (fun _ _ hl hr => plain_or.2 ⟨hl, hr⟩) fuel hleft

theorem expressionWithin_yields (depth : Nat) : Yields Plain (expressionWithin depth) := by
  induction depth with
  | zero => exact yields_fail _
  | succ depth ih => exact disjunction_yields ih

/-- **An expression that is read** holds no literals but plain ones. -/
theorem expression_yields : Yields Plain expression :=
  yields_bind _ fun left => expressionWithin_yields (left + 1)

end Expr

end Templating
