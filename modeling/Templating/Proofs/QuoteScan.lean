/-
Quotes inside a region, as the search for its end sees them.

The search passes over quoted texts, and in these a backslash hides the character behind it. So between any two
characters the search is outside of quotes, inside of them, or behind a backslash that hides (`Quotes`), and it stops
at the first closing delimiter that it meets outside. Said this way, what the search finds depends on the inside of
the region alone (`Closes`), whatever stands behind it.

- `cutClose?_eq_some_iff`: the search finds the end of a region exactly where the first closing delimiter outside of
  quotes stands.
- `outside_of_run_append`: a text without quotation marks does not end quotes.
-/
import Mathlib.Tactic.Common
import Templating.Proofs.Outcome

namespace Templating.Template

/-- where the search for the end of a region is -/
inductive Quotes where
  | outside
  | inside (quote : Char)
  /-- behind a backslash that hides the next character -/
  | hidden (quote : Char)
  deriving DecidableEq, Repr

namespace Quotes

/-- behind one more character -/
def step : Quotes → Char → Quotes
  | outside, c => if c = '"' ∨ c = '\'' then inside c else outside
  | inside quote, c => if c = '\\' then hidden quote else if c = quote then outside else inside quote
  | hidden quote, _ => inside quote

/-- behind a text -/
def run (quotes : Quotes) (text : List Char) : Quotes :=
  text.foldl step quotes

/-- with this quotation mark open -/
def ofOpen : Option Char → Quotes
  | none => outside
  | some quote => inside quote

@[simp] theorem run_nil (quotes : Quotes) : quotes.run [] = quotes := rfl

@[simp] theorem run_cons (quotes : Quotes) (c : Char) (text : List Char) :
    quotes.run (c :: text) = (quotes.step c).run text := rfl

@[simp] theorem run_append (quotes : Quotes) (s t : List Char) : quotes.run (s ++ t) = (quotes.run s).run t := by
  simp [run, List.foldl_append]

@[simp] theorem step_hidden (quote c : Char) : (hidden quote).step c = inside quote := rfl

@[simp] theorem step_backslash (quote : Char) : (inside quote).step '\\' = hidden quote := by
  simp [step]

/-- inside of quotes only the same quotation mark ends them -/
theorem step_inside {quote c : Char} (hc : c ≠ '\\') :
    (inside quote).step c = ofOpen (if c = quote then none else some quote) := by
  rw [step, if_neg hc]
  split_ifs <;> rfl

theorem step_outside (c : Char) : outside.step c = ofOpen (if c = '"' ∨ c = '\'' then some c else none) := by
  by_cases hquote : c = '"' ∨ c = '\'' <;> simp [step, ofOpen, hquote]

/-! ## texts inside of quotes -/

/-- the search, which is here, does not come outside in the text or behind it -/
def Stays (quotes : Quotes) (text : List Char) : Prop :=
  ∀ front back, text = front ++ back → quotes.run front ≠ outside

theorem stays_nil {quotes : Quotes} : quotes.Stays [] ↔ quotes ≠ outside := by
  constructor
  · exact fun h => h [] [] rfl
  · intro h front back hsplit
    rwa [(List.append_eq_nil_iff.1 hsplit.symm).1]

theorem stays_cons {quotes : Quotes} {c : Char} {text : List Char} (h : quotes ≠ outside) :
    quotes.Stays (c :: text) ↔ (quotes.step c).Stays text := by
  constructor
  · exact fun hstays front back hsplit => hstays (c :: front) back (by rw [hsplit, List.cons_append])
  · intro hstays front back hsplit
    cases front with
    | nil => exact h
    | cons d front =>
      rw [List.cons_append] at hsplit
      obtain ⟨rfl, htail⟩ := List.cons.inj hsplit
      exact hstays front back htail

/-! ## texts without quotation marks -/

/-- the character neither opens nor ends quotes, nor does it hide one that would -/
def Unquoted (c : Char) : Prop :=
  c ≠ '"' ∧ c ≠ '\'' ∧ c ≠ '\\'

variable {text front : List Char}

theorem step_unquoted {c : Char} (h : Unquoted c) : outside.step c = outside := by
  simp [step, h.1, h.2.1]

/-- a text without quotation marks stays outside -/
theorem run_unquoted (h : ∀ c ∈ text, Unquoted c) : outside.run text = outside := by
  induction text with
  | nil => rfl
  | cons c text ih =>
    obtain ⟨hc, htext⟩ := List.forall_mem_cons.1 h
    rw [run_cons, step_unquoted hc, ih htext]

/-- the open quote is a quotation mark -/
def Marked : Quotes → Prop
  | outside => True
  | inside quote | hidden quote => quote = '"' ∨ quote = '\''

theorem Marked.step {quotes : Quotes} (h : quotes.Marked) (c : Char) : (quotes.step c).Marked := by
  cases quotes with
  | outside =>
    rw [Quotes.step]
    split_ifs with hquote
    · exact hquote
    · trivial
  | inside quote =>
    rw [Quotes.step]
    split_ifs
    · exact h
    · trivial
    · exact h
  | hidden quote => exact h

theorem Marked.run {quotes : Quotes} (h : quotes.Marked) (text : List Char) : (quotes.run text).Marked := by
  induction text generalizing quotes with
  | nil => exact h
  | cons c text ih => exact ih (h.step c)

/-- **A text without quotation marks ends no quotes.** -/
theorem outside_of_run_append (h : ∀ c ∈ text, Unquoted c) (hout : outside.run (front ++ text) = outside) :
    outside.run front = outside := by
  have hmarked : (outside.run front).Marked := Marked.run (show outside.Marked from trivial) front
  rw [run_append] at hout
  generalize outside.run front = quotes at hmarked hout
  induction text generalizing quotes with
  | nil => exact hout
  | cons c text ih =>
    obtain ⟨⟨hdouble, hsingle, hbackslash⟩, htext⟩ := List.forall_mem_cons.1 h
    have hbehind := ih htext (quotes.step c) (hmarked.step c) hout
    cases quotes with
    | outside => rfl
    | inside quote =>
      -- only the quotation mark that is open would lead outside
      have hquote : c ≠ quote := by
        rcases hmarked with rfl | rfl
        · exact hdouble
        · exact hsingle
      simp [step_inside hbackslash, ofOpen, hquote] at hbehind
    | hidden quote => cases hbehind

/-! ## the end of a region -/

/-- the search, which is here, meets its first closing delimiter outside of quotes right behind the text -/
structure Closes (quotes : Quotes) (close : Char) (text : List Char) : Prop where
  ends : quotes.run text = outside
  first : ∀ front back, text ++ [close] = front ++ close :: '\x7d' :: back → quotes.run front ≠ outside

variable {quotes : Quotes} {close c : Char} {inner : List Char}

theorem closes_nil : quotes.Closes close [] ↔ quotes = outside := by
  constructor
  · exact fun h => h.ends
  · rintro rfl
    refine ⟨rfl, fun front back hsplit => ?_⟩
    have hlength := congrArg List.length hsplit
    simp only [List.length_append, List.length_cons, List.length_nil] at hlength
    omega

/-- one character further, when no closing delimiter starts at it outside of quotes -/
theorem closes_cons (h : quotes = outside → c = close → (inner ++ [close]).head? ≠ some '\x7d') :
    quotes.Closes close (c :: inner) ↔ (quotes.step c).Closes close inner := by
  constructor
  · rintro ⟨hends, hfirst⟩
    refine ⟨hends, fun front back hsplit => ?_⟩
    exact hfirst (c :: front) back (by rw [List.cons_append, hsplit, List.cons_append])
  · rintro ⟨hends, hfirst⟩
    refine ⟨hends, fun front back hsplit => ?_⟩
    rw [List.cons_append] at hsplit
    cases front with
    | nil =>
      obtain ⟨hclose, hbehind⟩ := List.cons.inj hsplit
      intro hout
      exact h hout hclose (congrArg List.head? hbehind)
    | cons e front =>
      obtain ⟨rfl, hbehind⟩ := List.cons.inj hsplit
      exact hfirst front back hbehind

/-- no closing delimiter starts outside of quotes at the first character -/
theorem Closes.head_ne (h : outside.Closes close (close :: inner)) : (inner ++ [close]).head? ≠ some '\x7d' := by
  intro hhead
  obtain ⟨back, hback⟩ := List.head?_eq_some_iff.1 hhead
  exact h.first [] back (by rw [List.cons_append, hback, List.nil_append]) rfl

/-- characters that are neither quotation marks nor part of the end are passed -/
theorem closes_append_unquoted (h : ∀ c ∈ text, Unquoted c ∧ c ≠ close) :
    outside.Closes close (text ++ inner) ↔ outside.Closes close inner := by
  induction text with
  | nil => rfl
  | cons c text ih =>
    obtain ⟨⟨hunquoted, hc⟩, htext⟩ := List.forall_mem_cons.1 h
    rw [List.cons_append, closes_cons fun _ hclose => absurd hclose hc, step_unquoted hunquoted, ih htext]

/-- a text that ends outside of quotes and closes nowhere is passed -/
theorem Closes.append_front (h : outside.Closes close inner) (hinner : (inner ++ [close]).head? ≠ some '\x7d')
    (hends : quotes.run text = outside)
    (hopen : ∀ front back, text = front ++ close :: '\x7d' :: back → quotes.run front ≠ outside) :
    quotes.Closes close (text ++ inner) := by
  refine ⟨by rw [run_append, hends, h.ends], fun front back hsplit => ?_⟩
  rw [List.append_assoc] at hsplit
  rcases List.append_eq_append_iff.1 hsplit with ⟨middle, rfl, hbehind⟩ | ⟨middle, htext, hbehind⟩
  · rw [run_append, hends]
    exact h.first middle back hbehind
  · -- the closing delimiter starts in the text, and it does not go on behind it
    cases middle with
    | nil => exact absurd rfl (h.first [] back hbehind.symm)
    | cons c middle =>
      obtain ⟨hc, hbehind⟩ := List.cons.inj hbehind
      cases middle with
      | nil => exact absurd (congrArg List.head? hbehind).symm hinner
      | cons d middle =>
        obtain ⟨hd, -⟩ := List.cons.inj hbehind
        exact hopen front middle (by rw [htext, hc, hd])

end Quotes

open Quotes

variable {close c d : Char} {quote : Option Char} {text inner left : List Char}

/-- what the search finds is closed there -/
theorem closes_of_cutClose? (h : cutClose? close quote text = some (inner, left)) :
    text = inner ++ close :: '\x7d' :: left ∧ (ofOpen quote).Closes close inner := by
  fun_induction cutClose? close quote text generalizing inner with
  | case1 => cases h
  | case2 => cases h
  | case3 d rest q ih =>
    obtain ⟨⟨inner', left'⟩, hcut, h⟩ := Option.map_eq_some_iff.1 h
    cases h
    obtain ⟨rfl, hcloses⟩ := ih hcut
    refine ⟨rfl, (closes_cons (by simp [ofOpen])).2 ((closes_cons (by simp [ofOpen])).2 ?_)⟩
    simpa [ofOpen] using hcloses
  | case4 c d rest q hc ih =>
    obtain ⟨⟨inner', left'⟩, hcut, h⟩ := Option.map_eq_some_iff.1 h
    cases h
    obtain ⟨hsplit, hcloses⟩ := ih hcut
    refine ⟨by rw [hsplit, List.cons_append], (closes_cons (by simp [ofOpen])).2 ?_⟩
    rwa [ofOpen, step_inside hc]
  | case5 c d rest hend =>
    cases h
    exact ⟨by rw [hend.1, hend.2]; rfl, closes_nil.2 rfl⟩
  | case6 c d rest hend ih =>
    obtain ⟨⟨inner', left'⟩, hcut, h⟩ := Option.map_eq_some_iff.1 h
    cases h
    obtain ⟨hsplit, hcloses⟩ := ih hcut
    refine ⟨by rw [hsplit, List.cons_append], (closes_cons fun _ hclose hhead => hend ⟨hclose, ?_⟩).2 ?_⟩
    · have hd : (d :: rest).head? = (inner' ++ [close]).head? := by
        rw [hsplit]
        cases inner' <;> rfl
      exact Option.some.inj (hd.trans hhead)
    · rwa [ofOpen, step_outside]

/-- a closing delimiter is found where it is the first -/
theorem Quotes.Closes.cutClose? (h : (ofOpen quote).Closes close inner) (left : List Char) :
    cutClose? close quote (inner ++ close :: '\x7d' :: left) = some (inner, left) := by
  induction hlength : inner.length using Nat.strongRecOn generalizing inner quote with
  | ind n ih =>
    subst hlength
    cases inner with
    | nil =>
      cases quote with
      | none => simp [Template.cutClose?]
      | some q => cases h.ends
    | cons c inner =>
      obtain ⟨d, rest, hrest⟩ := List.exists_cons_of_ne_nil
        (show inner ++ close :: '\x7d' :: left ≠ [] by simp)
      have hbehind : ∀ {quote'}, (ofOpen quote').Closes close inner →
          Template.cutClose? close quote' (d :: rest) = some (inner, left) := by
        intro quote' hcloses
        rw [← hrest]
        exact ih _ (Nat.lt_succ_self _) hcloses rfl
      rw [List.cons_append, hrest]
      cases quote with
      | some q =>
        have hcloses := (closes_cons (by simp [ofOpen])).1 h
        by_cases hc : c = '\\'
        · subst hc
          rw [ofOpen, step_backslash] at hcloses
          cases inner with
          | nil => cases hcloses.ends
          | cons e inner =>
            obtain ⟨rfl, rfl⟩ := List.cons.inj hrest
            have hinner : (ofOpen (some q)).Closes close inner := (closes_cons (by simp)).1 hcloses
            have hbeyond := ih inner.length (by simp only [List.length_cons]; omega) hinner rfl
            simp [Template.cutClose?, hbeyond]
        · rw [ofOpen, step_inside hc] at hcloses
          simp [Template.cutClose?, hc, hbehind hcloses]
      | none =>
        have hend : ¬ (c = close ∧ d = '\x7d') := by
          rintro ⟨rfl, rfl⟩
          have hhead := congrArg List.head? hrest
          refine h.head_ne (Eq.trans ?_ hhead)
          cases inner <;> rfl
        have hcloses := (closes_cons fun _ hclose hhead => ?_).1 h
        · rw [ofOpen, step_outside] at hcloses
          simp [Template.cutClose?, hend, hbehind hcloses]
        · subst hclose
          exact h.head_ne hhead

/-- **The end of a region** is the first closing delimiter outside of quotes. -/
theorem cutClose?_eq_some_iff : cutClose? close none text = some (inner, left) ↔
    text = inner ++ close :: '\x7d' :: left ∧ outside.Closes close inner := by
  constructor
  · exact closes_of_cutClose?
  · rintro ⟨rfl, hcloses⟩
    have hopen : (ofOpen none).Closes close inner := hcloses
    exact hopen.cutClose? left

end Templating.Template
