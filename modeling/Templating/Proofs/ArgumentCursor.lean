/-
The cursor of a tag.

The arguments of a tag are read by operations that look for a word, look ahead or read an expression. An operation takes
the index on by as many words as its reader passes over (`step_eq`), and that is never more than are left
(`CursorStep.reader_careful`): one operation keeps the cursor among the words (`step_within`), and so does any number of
them (`after_within`).

- `step_match`: a match takes one word, or changes nothing.
- `cursor_stays_within`: what operations in any order, failing or not, do to the index, and that the loops end.
-/
import Templating.Proofs.CursorProgress

namespace Templating

/-- an operation on the cursor of a tag -/
inductive CursorStep where
  | string
  | keyword (word : String)
  | ident
  | symbol (symbol : Expr.Symbol)
  | peek
  | expression

namespace CursorStep

open Templating.Expr Expr.Reader

/-- the operation, which answers whether it found what it looks for -/
def reader : CursorStep → Reader Bool
  | string => do return (← acceptString).isSome
  | keyword word => acceptKeyword word
  | ident => do return (← acceptIdent).isSome
  | symbol s => acceptSymbol s
  | peek => do return (← peek?).isSome
  | expression => do
    let _ ← Expr.expression
    return true

/-- the operation looks for one word and takes it when it is there -/
def isMatch : CursorStep → Bool
  | string | keyword _ | ident | symbol _ => true
  | peek | expression => false

/-- the word is a quoted text -/
def isString : Expr.Token → Bool
  | .str _ => true
  | _ => false

/-- the word is an identifier -/
def isIdent : Expr.Token → Bool
  | .ident _ => true
  | _ => false

/-- a match takes the next word when it fits, and otherwise none -/
theorem exists_accepts {step : CursorStep} (h : step.isMatch = true) : ∃ fits, Accepts fits step.reader := by
  cases step with
  | string => exact ⟨isString, rfl, fun word rest => by cases word <;> rfl⟩
  | keyword word => exact ⟨_, acceptKeyword_accepts word⟩
  | ident => exact ⟨isIdent, rfl, fun word rest => by cases word <;> rfl⟩
  | symbol s => exact ⟨_, acceptSymbol_accepts s⟩
  | peek => cases h
  | expression => cases h

theorem expression_reader_consumes : Consumes expression.reader :=
  expression_consumes.bind _

/-- no operation passes over more words than are left -/
theorem reader_careful (step : CursorStep) : Careful step.reader := by
  cases hmatch : step.isMatch with
  | true =>
    obtain ⟨fits, haccepts⟩ := exists_accepts hmatch
    exact haccepts.careful
  | false =>
    cases step with
    | peek => exact fun words => Nat.zero_le _
    | expression => exact expression_careful.bind fun _ => careful_pure true
    | _ => cases hmatch

end CursorStep

namespace Arguments

open Expr.Reader

/-- the arguments behind an operation, whether it failed or not -/
def step (a : Arguments) (step : CursorStep) : Arguments :=
  (a.read step.reader).2

/-- the operation succeeds -/
def finds (a : Arguments) (step : CursorStep) : Bool :=
  match (a.read step.reader).1 with
  | .ok found => found
  | .error _ => false

/-- the arguments behind operations -/
def after (a : Arguments) (steps : List CursorStep) : Arguments :=
  steps.foldl Arguments.step a

section

variable {a : Arguments} {s : CursorStep}

theorem step_eq (a : Arguments) (s : CursorStep) : a.step s = a.move (s.reader.steps a.words) := by
  rw [step, read_eq]

theorem finds_iff : a.finds s = true ↔ ∃ left, s.reader.read a.words = (.ok true, left) := by
  rw [finds, read_eq]
  rcases s.reader.read a.words with ⟨fault | found, words⟩ <;> simp [Except.mapError]

/-- an operation keeps the cursor among the words -/
theorem step_within (h : a.pos ≤ a.count) (s : CursorStep) : (a.step s).pos ≤ (a.step s).count := by
  have hsteps : s.reader.steps a.words ≤ a.words.length := s.reader_careful a.words
  rw [← Expr.Cursor.remaining_eq, Expr.Cursor.remaining] at hsteps
  rw [step_eq]
  simp only [move, Expr.Cursor.count] at h ⊢
  omega

/-- no operation changes the words -/
theorem step_tokens (a : Arguments) (s : CursorStep) : (a.step s).tokens = a.tokens := by
  rw [step_eq, move]

theorem after_within (h : a.pos ≤ a.count) (steps : List CursorStep) : (a.after steps).pos ≤ (a.after steps).count := by
  induction steps generalizing a with
  | nil => exact h
  | cons s steps ih => exact ih (step_within h s)

theorem after_tokens (a : Arguments) (steps : List CursorStep) : (a.after steps).tokens = a.tokens := by
  induction steps generalizing a with
  | nil => rfl
  | cons s steps ih => exact (ih (a.step s)).trans (a.step_tokens s)

/-- a match takes one word when it succeeds, and changes nothing when it does not -/
theorem step_match (a : Arguments) (hmatch : s.isMatch = true) :
    (a.finds s = true ∧ a.step s = a.move 1) ∨ (a.finds s = false ∧ a.step s = a) := by
  obtain ⟨fits, haccepts⟩ := CursorStep.exists_accepts hmatch
  rw [step_eq]
  rcases haccepts.taken a.words with ⟨word, rest, -, hread, hone⟩ | ⟨hread, hzero⟩
  · exact Or.inl ⟨finds_iff.2 ⟨rest, hread⟩, by rw [hone]⟩
  · refine Or.inr ⟨Bool.eq_false_iff.2 fun hfound => ?_, by rw [hzero, move, Nat.add_zero]⟩
    obtain ⟨left, hfound⟩ := finds_iff.1 hfound
    cases hread.symm.trans hfound

/-- an expression that is read takes words -/
theorem step_expression (h : a.finds .expression = true) : a.pos < (a.step .expression).pos := by
  obtain ⟨left, hread⟩ := finds_iff.1 h
  have hless := CursorStep.expression_reader_consumes _ _ _ hread
  rw [left_of_read hread, List.length_drop] at hless
  rw [step_eq, move]
  dsimp only
  omega

/-- careful readers that answer the same and leave the same words are read alike -/
theorem read_congr {α : Type} {r r' : Expr.Reader α} (hr : Careful r) (hr' : Careful r')
    (h : r.read a.words = r'.read a.words) : a.read r = a.read r' := by
  rw [read, read, hr.run_congr hr' h]

end

theorem ofText_start {site : Site} {text : String} {a : Arguments} (h : ofText site text = .ok a) :
    Expr.tokens text.toList = .ok a.tokens ∧ a.pos = 0 := by
  unfold ofText at h
  cases htokens : Expr.tokens text.toList with
  | error fault =>
    rw [htokens] at h
    cases h
  | ok words =>
    rw [htokens] at h
    cases h
    exact ⟨rfl, rfl⟩

open Templating.Expr Template in
/-- **The cursor of a tag never runs past its words.** Whatever is done with it, in any order and failing or not, the
words of the tag stay what they are and the index is at most the number of words, so that what is left of them is the
difference. No operation takes the cursor back, a match takes it one word on or leaves everything as it was, a look
ahead changes nothing, and an expression that is read takes it on. So the loops over the props of a tag, the arguments
of a component and the items in brackets end by themselves: they do the same however many rounds they may take, as long
as there is one for every word that is left. For the same reason it makes no difference how deep brackets may nest
beyond the number of words. -/
theorem cursor_stays_within (site : Site) (text : String) (start : Arguments)
    (h : Arguments.ofText site text = .ok start) :
    Expr.tokens text.toList = .ok start.tokens ∧ start.pos = 0 ∧
    (∀ steps : List CursorStep,
      let a := start.after steps
      a.tokens = start.tokens ∧ a.pos ≤ a.count ∧ a.pos + a.remaining = a.count ∧
      ∀ s : CursorStep,
        a.pos ≤ (a.step s).pos ∧ (a.step s).pos ≤ a.count ∧
        (s.isMatch = true → a.finds s = true → (a.step s).pos = a.pos + 1) ∧
        (s.isMatch = true → a.finds s = false → a.step s = a) ∧
        a.step .peek = a ∧
        (a.finds .expression = true → a.pos < (a.step .expression).pos)) ∧
    (∀ (a : Arguments) fuel, a.remaining ≤ fuel → a.read (propList fuel) = a.read (propList a.remaining)) ∧
    (∀ (a : Arguments) fuel, a.remaining ≤ fuel → a.read (pairs fuel) = a.read (pairs a.remaining)) ∧
    (∀ (a : Arguments) depth close fuel, a.remaining < fuel →
      a.read (itemsUpTo (expressionWithin depth) close fuel) =
        a.read (itemsUpTo (expressionWithin depth) close (a.remaining + 1))) ∧
    ∀ (a : Arguments) depth, a.remaining < depth → a.read (expressionWithin depth) = a.read expression := by
  obtain ⟨htokens, hpos⟩ := ofText_start h
  have hstart : start.pos ≤ start.count := hpos ▸ Nat.zero_le _
  refine ⟨htokens, hpos, fun steps => ?_, fun a fuel hfuel => ?_, fun a fuel hfuel => ?_, ?_, ?_⟩
  · have ha := after_within hstart steps
    refine ⟨start.after_tokens steps, ha, Nat.add_sub_of_le ha, fun s => ?_⟩
    refine ⟨?_, ?_, fun hmatch hfinds => ?_, fun hmatch hfinds => ?_, step_eq _ _, step_expression⟩
    · rw [step_eq]
      exact Nat.le_add_right _ _
    · have hs := step_within ha s
      rwa [Expr.Cursor.count, step_tokens] at hs
    · rcases step_match (start.after steps) hmatch with ⟨-, htaken⟩ | ⟨hnot, -⟩
      · rw [htaken, move]
      · rw [hfinds] at hnot
        cases hnot
    · rcases step_match (start.after steps) hmatch with ⟨hfound, -⟩ | ⟨-, hsame⟩
      · rw [hfinds] at hfound
        cases hfound
      · exact hsame
  -- a loop is careful, so it is enough that it does the same in front of the words that are left
  · rw [Expr.Cursor.remaining_eq] at hfuel ⊢
    have hcareful := propList_rounds.careful propItem_careful
    exact read_congr (hcareful _) (hcareful _) (propList_rounds.eq propItem_consumes hfuel (Nat.le_refl _))
  · rw [Expr.Cursor.remaining_eq] at hfuel ⊢
    have hcareful := pairs_rounds.careful pairItem_careful
    exact read_congr (hcareful _) (hcareful _) (pairs_rounds.eq pairItem_consumes hfuel (Nat.le_refl _))
  · intro a depth close fuel hfuel
    rw [Expr.Cursor.remaining_eq] at hfuel ⊢
    have hcareful := itemsUpTo_careful (expressionWithin_careful depth) close
    exact read_congr (hcareful _) (hcareful _)
      (itemsUpTo_rounds (expressionWithin_consumes depth) close hfuel (Nat.lt_succ_self _))
  · intro a depth hdepth
    rw [Expr.Cursor.remaining_eq] at hdepth
    exact read_congr (expressionWithin_careful depth) expression_careful (expressionWithin_eq hdepth)

/-- the arguments of an attribute whose value goes wrong in front of its last word -/
def stopsHalfway (start : Arguments) : Bool :=
  let a := start.after [.string, .symbol .assign]
  let b := start.after [.string, .symbol .assign, .expression]
  !a.finds .expression && b.pos == 7 && b.count == 8 && !b.finds (.symbol .comma)

theorem cursor_stays_within_halfway :
    ∃ start, Arguments.ofText ⟨"page", .start⟩ "\"k\"=a.b(c d" = .ok start ∧
      let a := start.after [.string, .symbol .assign, .expression]
      (start.after [.string, .symbol .assign]).finds .expression = false ∧ a.pos = 7 ∧ a.pos ≤ a.count ∧
        a.remaining = 1 ∧ a.step (.symbol .comma) = a := by
  have hrun : (Arguments.ofText ⟨"page", .start⟩ "\"k\"=a.b(c d").toOption.any stopsHalfway = true := by
    decide +kernel
  obtain ⟨start, hstart, hstops⟩ := (Option.any_eq_true _ _).1 hrun
  have hstart := eq_ok_of_toOption hstart
  simp only [stopsHalfway, Bool.and_eq_true, Bool.not_eq_true', beq_iff_eq] at hstops
  obtain ⟨⟨⟨hfails, hseven⟩, height⟩, hcomma⟩ := hstops
  obtain ⟨-, -, hcursor, -⟩ := cursor_stays_within _ _ _ hstart
  obtain ⟨-, hwithin, hleft, hsteps⟩ := hcursor [.string, .symbol .assign, .expression]
  rw [hseven, height] at hleft
  exact ⟨start, hstart, hfails, hseven, hwithin, by omega, (hsteps (.symbol .comma)).2.2.2.1 rfl hcomma⟩

end Arguments

end Templating
