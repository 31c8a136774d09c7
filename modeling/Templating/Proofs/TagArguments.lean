/-
The arguments of a component tag whose values are quoted texts.

A quoted text is a whole expression when no word behind it goes on with the expression, and the next key is such a word
(`Expr.Quiet`). Every level of the expression reader starts with the level below it and then looks at the words behind,
so one lemma a level (`Expr.ReadsText.bind`) is enough for two facts: in front of a quiet word the text is read alone,
and whatever stands behind it, no other literal comes out.

- `Expr.expression_readsText`: a quoted text as an expression.
- `Template.pairs_append`: pairs of a key and a text are read one by one.
- `Template.componentArguments_texts`: the arguments of a component tag without slot data.
-/
import Templating.Proofs.Reading
import Templating.Proofs.TokenReading

namespace Templating

namespace Expr

open Reader

/-! ## quiet words -/

/-- no word follows that goes on with an expression: none at all, or a quoted text -/
def Quiet : List Token → Prop
  | [] => True
  | .str _ :: _ => True
  | _ => False

theorem quiet_nil : Quiet [] :=
  trivial

theorem quiet_str (s : String) (rest : List Token) : Quiet (.str s :: rest) :=
  trivial

theorem Quiet.acceptSymbol {words : List Token} (h : Quiet words) (symbol : Symbol) :
    (acceptSymbol symbol).read words = (.ok false, words) := by
  rcases words with _ | ⟨word, rest⟩
  · rfl
  · cases word <;> first | rfl | exact h.elim

theorem Quiet.acceptKeyword {words : List Token} (h : Quiet words) (keyword : String) :
    (acceptKeyword keyword).read words = (.ok false, words) := by
  rcases words with _ | ⟨word, rest⟩
  · rfl
  · cases word <;> first | rfl | exact h.elim

/-! ## a text as an expression -/

/-- the expression is no literal but the text -/
def OnlyText (s : String) (e : Expr) : Prop :=
  ∀ v, e = .literal v → v = .str s

/-- a quoted text is read: alone in front of quiet words, and never as another literal -/
structure ReadsText (s : String) (r : Reader Expr) : Prop where
  quiet : ∀ rest, Quiet rest → r.read (.str s :: rest) = (.ok (.literal (.str s)), rest)
  only : ∀ rest e left, r.read (.str s :: rest) = (.ok e, left) → OnlyText s e

/-- what goes on behind an expression: nothing in front of quiet words, and it makes no literals -/
structure Extends (s : String) (f : Expr → Reader Expr) : Prop where
  quiet : ∀ e words, Quiet words → (f e).read words = (.ok e, words)
  only : ∀ e, OnlyText s e → Yields (OnlyText s) (f e)

variable {s : String} {nested : Reader Expr}

theorem ReadsText.bind {x : Reader Expr} {f : Expr → Reader Expr} (hx : ReadsText s x) (hf : Extends s f) :
    ReadsText s (x >>= f) where
  quiet rest hrest := by
    rw [read_bind_ok (hx.quiet rest hrest)]
    exact hf.quiet _ rest hrest
  only rest e left hread := by
    obtain ⟨e', rest', hx', hf'⟩ := read_bind_eq_ok.1 hread
    exact hf.only e' (hx.only rest e' rest' hx') rest' e left hf'

/-- a first step that leaves the words alone -/
theorem ReadsText.skip {α : Type} {x : Reader α} {f : α → Reader Expr}
    (h : ∀ rest, ∃ a, x.read (.str s :: rest) = (.ok a, .str s :: rest) ∧ ReadsText s (f a)) :
    ReadsText s (x >>= f) where
  quiet rest hrest := by
    obtain ⟨a, hx, hf⟩ := h rest
    rw [read_bind_ok hx]
    exact hf.quiet rest hrest
  only rest e left hread := by
    obtain ⟨a, hx, hf⟩ := h rest
    rw [read_bind_ok hx] at hread
    exact hf.only rest e left hread

/-- behind an expression as much is looked at as there are words -/
theorem Extends.wordsLeft {f : Nat → Expr → Reader Expr} (hf : ∀ fuel, Extends s (f fuel)) :
    Extends s fun e => wordsLeft >>= fun fuel => f fuel e where
  quiet e words hwords := by
    rw [read_bind_ok (wordsLeft_read words)]
    exact (hf _).quiet e words hwords
  only e he := yields_bind _ fun fuel => (hf fuel).only e he

theorem onlyText_of_ne {e : Expr} (h : ∀ v, e ≠ .literal v) : OnlyText s e :=
  fun v hv => absurd hv (h v)

theorem primary_readsText : ReadsText s (primary nested) where
  quiet _ _ := rfl
  only _ _ _ hread := by
    cases hread
    exact fun v hv => (Expr.literal.inj hv).symm

theorem partsOf_extends (fuel : Nat) : Extends s (partsOf nested fuel) where
  quiet e words hwords := by
    cases fuel with
    | zero => rfl
    | succ fuel =>
      rw [partsOf, read_bind_ok (hwords.acceptSymbol .dot)]
      simp only [Bool.false_eq_true, if_false]
      rw [read_bind_ok (hwords.acceptSymbol .openBracket)]
      rfl
  only e he := by
    induction fuel generalizing e with
    | zero => exact yields_pure he
    | succ fuel ih =>
      unfold partsOf
      refine yields_bind _ fun dot => ?_
      split_ifs
      · refine yields_bind _ fun name => yields_bind _ fun called => ?_
        split_ifs
        · exact yields_bind _ fun args => ih _ (onlyText_of_ne (by simp))
        · exact ih _ (onlyText_of_ne (by simp))
      · refine yields_bind _ fun bracket => ?_
        split_ifs
        · exact yields_bind _ fun key => yields_bind _ fun _ => ih _ (onlyText_of_ne (by simp))
        · exact yields_pure he

theorem withParts_readsText : ReadsText s (withParts nested) :=
  primary_readsText.bind (.wordsLeft partsOf_extends)

theorem signed_readsText : ReadsText s (signed nested) :=
  .skip fun rest => ⟨false, (quiet_str s rest).acceptSymbol .minus, withParts_readsText⟩

theorem filtersOf_extends (fuel : Nat) : Extends s (filtersOf nested fuel) where
  quiet e words hwords := by
    cases fuel with
    | zero => rfl
    | succ fuel =>
      rw [filtersOf, read_bind_ok (hwords.acceptSymbol .bar)]
      rfl
  only e he := by
    induction fuel generalizing e with
    | zero => exact yields_pure he
    | succ fuel ih =>
      unfold filtersOf
      refine yields_bind _ fun bar => ?_
      split_ifs
      · refine yields_bind _ fun name? => ?_
        cases name? with
        | none => exact yields_fail _
        | some name =>
          dsimp only
          cases Filter.ofName? name with
          | none => exact yields_fail _
          | some named =>
            refine yields_bind _ fun colon => ?_
            split_ifs
            · exact yields_bind _ fun arg => ih _ (onlyText_of_ne (by simp))
            · exact ih _ (onlyText_of_ne (by simp))
      · exact yields_pure he

theorem withFilters_readsText : ReadsText s (withFilters nested) :=
  signed_readsText.bind (.wordsLeft filtersOf_extends)

theorem comparison_readsText : ReadsText s (comparison nested) := by
  refine withFilters_readsText.bind ⟨fun e words hwords => ?_, fun e he => ?_⟩
  · rcases words with _ | ⟨word, rest⟩
    · rfl
    · cases word <;> first | rfl | exact hwords.elim
  · refine yields_bind _ fun word? => ?_
    cases word?.bind Token.comparison? with
    | none => exact yields_pure he
    | some op => exact yields_bind _ fun _ => yields_bind _ fun right => yields_pure (onlyText_of_ne (by simp))

theorem negation_readsText (fuel : Nat) : ReadsText s (negation nested fuel) := by
  cases fuel with
  | zero => exact comparison_readsText
  | succ fuel => exact .skip fun rest => ⟨false, (quiet_str s rest).acceptKeyword "not", comparison_readsText⟩

theorem joined_extends {operand : Reader Expr} {keyword : String} {join : Expr → Expr → Expr}
    (hjoin : ∀ left right v, join left right ≠ .literal v) (fuel : Nat) :
    Extends s (joined operand keyword join fuel) where
  quiet e words hwords := by
    cases fuel with
    | zero => rfl
    | succ fuel =>
      rw [joined, read_bind_ok (hwords.acceptKeyword keyword)]
      rfl
  only e he := by
    induction fuel generalizing e with
    | zero => exact yields_pure he
    | succ fuel ih =>
      unfold joined
      refine yields_bind _ fun more => ?_
      split_ifs
      · exact yields_bind _ fun right => ih _ (onlyText_of_ne (hjoin e right))
      · exact yields_pure he

theorem conjunction_readsText : ReadsText s (conjunction nested) := by
  refine .skip fun rest => ⟨_, wordsLeft_read _, ?_⟩
  exact (negation_readsText _).bind (.wordsLeft (joined_extends (by simp)))

theorem disjunction_readsText : ReadsText s (disjunction nested) :=
  conjunction_readsText.bind (.wordsLeft (joined_extends (by simp)))

/-- **A quoted text as an expression.** -/
theorem expression_readsText : ReadsText s expression :=
  .skip fun _ => ⟨_, wordsLeft_read _, disjunction_readsText⟩

end Expr

namespace Template

open Templating.Expr (Quiet OnlyText Reader)
open Expr.Reader (read_bind_ok read_bind_eq_ok)

/-! ## pairs -/

/-- keys and texts as words -/
def textWords (given : List (String × String)) : List Expr.Token :=
  given.flatMap fun (key, value) => [.str key, .symbol .assign, .str value]

/-- keys and texts as what is given to a component -/
def textPairs (given : List (String × String)) : List (String × Expr) :=
  given.map fun (key, value) => (key, .literal (.str value))

/-- one pair and what follows it -/
theorem pairs_cons (fuel : Nat) (key : String) (words : List Expr.Token) :
    (pairs (fuel + 1)).read (.str key :: .symbol .assign :: words) =
      (do let e ← Expr.expression
          let rest ← pairs fuel
          return (key, e) :: rest : Reader (List (String × Expr))).read words := by
  have hkey : Expr.acceptString.read (.str key :: .symbol .assign :: words) =
      (.ok (some key), .symbol .assign :: words) :=
    rfl
  have hassign : (Expr.expectSymbol .assign).read (.symbol .assign :: words) = (.ok (), words) := rfl
  rw [pairs, read_bind_ok (Expr.wordsLeft_read _)]
  exact (read_bind_ok hkey _).trans (read_bind_ok hassign _)

theorem pairs_nil (fuel : Nat) : (pairs fuel).read [] = (.ok [], []) := by
  cases fuel <;> rfl

theorem length_textWords (given : List (String × String)) : (textWords given).length = 3 * given.length := by
  induction given with
  | nil => rfl
  | cons pair given ih =>
    calc (textWords (pair :: given)).length
      _ = (textWords given).length + 3 := rfl
      _ = 3 * (pair :: given).length := by rw [ih, List.length_cons]; omega

theorem quiet_textWords (given : List (String × String)) {rest : List Expr.Token} (h : Quiet rest) :
    Quiet (textWords given ++ rest) := by
  cases given with
  | nil => exact h
  | cons pair given => exact Expr.quiet_str pair.1 _

/-- **Pairs of a key and a text** are read one by one, and the reading goes on behind them. -/
theorem pairs_append (given : List (String × String)) (fuel : Nat) {rest left : List Expr.Token}
    {all : List (String × Expr)} (h : Quiet rest) :
    (pairs (given.length + fuel)).read (textWords given ++ rest) = (.ok all, left) ↔
      ∃ more, (pairs fuel).read rest = (.ok more, left) ∧ all = textPairs given ++ more := by
  induction given generalizing all with
  | nil => simp [textWords, textPairs]
  | cons pair given ih =>
    obtain ⟨key, value⟩ := pair
    have hvalue := Expr.expression_readsText.quiet (s := value) _ (quiet_textWords given h)
    have hcount : (⟨key, value⟩ :: given).length + fuel = given.length + fuel + 1 := by
      rw [List.length_cons]
      omega
    have hcons : (pairs (given.length + fuel + 1)).read (textWords (⟨key, value⟩ :: given) ++ rest) =
        (do let more ← pairs (given.length + fuel)
            return (key, .literal (.str value)) :: more : Reader (List (String × Expr))).read
          (textWords given ++ rest) := (pairs_cons _ key _).trans (read_bind_ok hvalue _)
    rw [hcount, hcons, read_bind_eq_ok]
    constructor
    · rintro ⟨behind, rest', hbehind, hall⟩
      cases hall
      obtain ⟨more, hmore, rfl⟩ := ih.1 hbehind
      exact ⟨more, hmore, rfl⟩
    · rintro ⟨more, hmore, rfl⟩
      exact ⟨_, left, ih.2 ⟨more, hmore, rfl⟩, rfl⟩

/-- what is read of a key and a text with anything behind is the key, and no other literal than the text -/
theorem pairs_head {fuel : Nat} {key value : String} {rest left : List Expr.Token} {all : List (String × Expr)}
    (h : (pairs (fuel + 1)).read (.str key :: .symbol .assign :: .str value :: rest) = (.ok all, left)) :
    ∃ e more, all = (key, e) :: more ∧ OnlyText value e := by
  rw [pairs_cons] at h
  obtain ⟨e, rest', he, h⟩ := read_bind_eq_ok.1 h
  obtain ⟨more, rest'', -, h⟩ := read_bind_eq_ok.1 h
  cases h
  exact ⟨e, more, rfl, Expr.expression_readsText.only _ _ _ he⟩

/-! ## arguments -/

/-- the words of attributes: nothing without attributes -/
def attributeWords (given : List (String × String)) : List Expr.Token :=
  if given.isEmpty then [] else .ident "withAttrs" :: textWords given

theorem slotDataArgument_none {words : List Expr.Token}
    (h : (Expr.acceptKeyword "slotData").read words = (.ok false, words)) :
    slotDataArgument.read words = (.ok .nothing, words) := by
  rw [slotDataArgument, read_bind_ok h]
  rfl

theorem withAttrs_read (words : List Expr.Token) :
    withAttrs.read (.ident "withAttrs" :: words) = (pairs words.length).read words := by
  have hkeyword : (Expr.acceptKeyword "withAttrs").read (.ident "withAttrs" :: words) = (.ok true, words) := rfl
  rw [withAttrs, read_bind_ok hkeyword]
  rfl

/-- without slot data, the arguments behind the name are the pairs behind a keyword, up to the last word -/
theorem componentArguments_withAttrs {words left : List Expr.Token} {slotData : SlotData}
    {given : List (String × Expr)} :
    componentArguments.read (.ident "withAttrs" :: words) = (.ok (slotData, given), left) ↔
      slotData = .nothing ∧ (pairs words.length).read words = (.ok given, []) ∧ left = [] := by
  have hnone : slotDataArgument.read (.ident "withAttrs" :: words) = (.ok .nothing, .ident "withAttrs" :: words) :=
    slotDataArgument_none rfl
  rw [componentArguments, read_bind_ok hnone, read_bind_eq_ok]
  constructor
  · rintro ⟨given', rest, hpairs, hend⟩
    rw [withAttrs_read] at hpairs
    rw [read_bind_ok (Expr.wordsLeft_read rest)] at hend
    cases rest with
    | nil =>
      cases hend
      exact ⟨rfl, hpairs, rfl⟩
    | cons word rest => cases hend
  · rintro ⟨rfl, hpairs, rfl⟩
    exact ⟨given, [], (withAttrs_read words).trans hpairs, rfl⟩

/-- **The arguments of a component tag** that are pairs of a key and a text. -/
theorem componentArguments_texts (given : List (String × String)) :
    componentArguments.read (attributeWords given) = (.ok (.nothing, textPairs given), []) := by
  cases given with
  | nil => rfl
  | cons pair given =>
    have hcount : (textWords (pair :: given)).length = (pair :: given).length + 2 * (pair :: given).length := by
      rw [length_textWords]
      omega
    have hpairs := (pairs_append (pair :: given) (2 * (pair :: given).length) Expr.quiet_nil).2 ⟨[], pairs_nil _, rfl⟩
    rw [List.append_nil, List.append_nil, ← hcount] at hpairs
    exact componentArguments_withAttrs.2 ⟨rfl, hpairs, rfl⟩

/-- whatever stands behind a text, the arguments have no other literal than the text at its place -/
theorem componentArguments_kept {before : List (String × String)} {key value : String} {rest left : List Expr.Token}
    {slotData : SlotData} {all : List (String × Expr)}
    (h : componentArguments.read
      (.ident "withAttrs" :: (textWords before ++ .str key :: .symbol .assign :: .str value :: rest)) =
      (.ok (slotData, all), left)) :
    ∃ e more, all = textPairs before ++ (key, e) :: more ∧ OnlyText value e := by
  obtain ⟨-, hpairs, -⟩ := componentArguments_withAttrs.1 h
  have hcount : (textWords before ++ .str key :: .symbol .assign :: .str value :: rest).length =
      before.length + (2 * before.length + rest.length + 2 + 1) := by
    simp only [List.length_append, List.length_cons, length_textWords]
    omega
  rw [hcount, pairs_append before _ (Expr.quiet_str key _)] at hpairs
  obtain ⟨behind, hbehind, rfl⟩ := hpairs
  obtain ⟨e, more, rfl, he⟩ := pairs_head hbehind
  exact ⟨e, more, rfl, he⟩

end Template

end Templating
