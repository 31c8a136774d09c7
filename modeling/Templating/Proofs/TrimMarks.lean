/-
How far trim marks reach back.

Tokens are put together on a stack, and a mark before a region trims the text on top of it. So regions change nothing
of the tokens that were there before them, as long as each mark finds a token of its own regions on top; a mark that
finds none reaches the tokens below (`Reaches`). Regions without tokens are what lets it through: comments, and texts
and verbatim bodies that are empty or were trimmed to nothing.

- `run_onto`: what regions do on top of a stack, and how many marks reach it.
- `trimmed_texts`: what marks that reach a text leave of it.
-/
import Mathlib.Logic.Function.Iterate
import Templating.Proofs.SourceRegions
import Templating.Proofs.Trimming
import Templating.Template.Token

namespace Templating.Template

/-- the region has a mark before it -/
def Region.trimsBefore : Region → Bool
  | .text _ | .comment => false
  | .output _ _ marks | .tag _ _ _ marks => marks.before
  | .verbatim _ opening _ => opening.before

namespace Assembly

/-- the tokens so far, on top of others -/
def onto (below : List Token) (a : Assembly) : Assembly :=
  ⟨a.tokens ++ below, a.trimNext⟩

/-- a mark of the regions finds none of their tokens -/
def Reaches (a : Assembly) (all : List Region) : Prop :=
  ∃ front region back, all = front ++ region :: back ∧ region.trimsBefore = true ∧
    (front.foldl step a).tokens = []

variable {a : Assembly} {region : Region} {all : List Region} {tokens below : List Token}

theorem not_reaches_nil : ¬ a.Reaches [] := by
  rintro ⟨front, region, back, hall, -⟩
  cases front <;> cases hall

/-- the first region reaches, or one of the others does -/
theorem reaches_cons : a.Reaches (region :: all) ↔
    (region.trimsBefore = true ∧ a.tokens = []) ∨ (a.step region).Reaches all := by
  constructor
  · rintro ⟨front, marked, back, hall, hmark, hnone⟩
    cases front with
    | nil =>
      obtain ⟨rfl, -⟩ := List.cons.inj hall
      exact Or.inl ⟨hmark, hnone⟩
    | cons first front =>
      obtain ⟨rfl, rfl⟩ := List.cons.inj hall
      exact Or.inr ⟨front, marked, back, rfl, hmark, hnone⟩
  · rintro (⟨hmark, hnone⟩ | ⟨front, marked, back, rfl, hmark, hnone⟩)
    · exact ⟨[], region, all, rfl, hmark, hnone⟩
    · exact ⟨region :: front, marked, back, rfl, hmark, hnone⟩

/-! ## on top of other tokens -/

theorem pushText_append (text : List Char) : pushText (tokens ++ below) text = pushText tokens text ++ below := by
  unfold pushText
  split_ifs <;> rfl

theorem trimLast_append (mark : Bool) (h : tokens ≠ []) :
    trimLast mark (tokens ++ below) = trimLast mark tokens ++ below := by
  obtain ⟨token, tokens, rfl⟩ := List.exists_cons_of_ne_nil h
  cases mark with
  | false => rfl
  | true =>
    cases token with
    | text s => exact pushText_append _
    | output => rfl
    | tag => rfl

theorem trimLast_nil (mark : Bool) : trimLast mark [] = [] := by
  cases mark <;> rfl

/-- a region on top of other tokens: its mark reaches them when there is no token of its own in front of it -/
theorem step_onto (below : List Token) (a : Assembly) (region : Region) :
    (onto below a).step region =
      onto (if a.tokens = [] then trimLast region.trimsBefore below else below) (a.step region) := by
  have htrim : ∀ mark, trimLast mark (a.tokens ++ below) =
      trimLast mark a.tokens ++ if a.tokens = [] then trimLast mark below else below := by
    intro mark
    split_ifs with hnone
    · rw [hnone, trimLast_nil]
      rfl
    · exact trimLast_append mark hnone
  have hunmarked : (if a.tokens = [] then trimLast false below else below) = below := by
    split_ifs <;> rfl
  cases region with
  | text s =>
    rw [Region.trimsBefore, hunmarked]
    simp only [onto, step, pushText_append]
  | comment =>
    rw [Region.trimsBefore, hunmarked]
    rfl
  | output position inner marks => simp only [onto, step, Region.trimsBefore, htrim, List.cons_append]
  | tag position name args marks => simp only [onto, step, Region.trimsBefore, htrim, List.cons_append]
  | verbatim body opening closing => simp only [onto, step, Region.trimsBefore, htrim, pushText_append]

/-- **Regions on top of other tokens** trim these as often as one of their marks reaches, whatever tokens they are. -/
theorem run_onto (a : Assembly) (all : List Region) :
    ∃ count, (∀ below, all.foldl step (onto below a) = onto ((trimLast true)^[count] below) (all.foldl step a)) ∧
      (0 < count ↔ a.Reaches all) := by
  induction all generalizing a with
  | nil => exact ⟨0, fun below => rfl, by simp [not_reaches_nil]⟩
  | cons region all ih =>
    obtain ⟨count, hrun, hcount⟩ := ih (a.step region)
    simp only [List.foldl_cons, reaches_cons]
    by_cases hreach : region.trimsBefore = true ∧ a.tokens = []
    · refine ⟨count + 1, fun below => ?_, by simp [hreach]⟩
      rw [step_onto, if_pos hreach.2, hreach.1, hrun, Function.iterate_succ_apply]
    · refine ⟨count, fun below => ?_, by simp [hreach, hcount]⟩
      have hsame : (if a.tokens = [] then trimLast region.trimsBefore below else below) = below := by
        split_ifs with hnone
        · have hunmarked : region.trimsBefore = false := by simpa [hnone] using hreach
          rw [hunmarked]
          rfl
        · rfl
      rw [step_onto, hsame, hrun]

/-! ## a text between regions -/

theorem trimFirst_false (text : List Char) : trimFirst false text = text := rfl

theorem tokensOf_append (head all : List Region) :
    tokensOf (head ++ all) = (all.foldl step (head.foldl step start)).tokens.reverse := by
  rw [tokensOf, List.foldl_append]

theorem foldl_plainRegions (a : Assembly) (lead : List Char) :
    (plainRegions lead).foldl step a = ⟨pushText a.tokens (trimFirst a.trimNext lead), a.trimNext⟩ := by
  by_cases hnone : lead = []
  · cases hmark : a.trimNext <;> simp [plainRegions, hnone, trimFirst, pushText, Text.trimStart, ← hmark]
  · simp [plainRegions, hnone, step]

/-! ## texts -/

/-- texts as tokens -/
def texts (parts : List (List Char)) : List Token :=
  parts.map fun part => .text (String.ofList part)

/-- the text ends in white space -/
def EndsBlank (text : List Char) : Prop :=
  ∃ c, text.getLast? = some c ∧ Text.isBlank c = true

/-- what is kept of texts that lost white space at their end -/
structure KeptOf (parts kept : List (List Char)) (blanks : List Char) : Prop where
  ne_nil : ∀ part ∈ kept, part ≠ []
  whole : parts.flatten = kept.flatten ++ blanks
  blank : ∀ c ∈ blanks, Text.isBlank c = true
  /-- whatever loses nothing stays as it is -/
  same : blanks = [] → kept = parts

variable {parts kept : List (List Char)} {text blanks : List Char}

theorem endsBlank_append (h : text ≠ []) (front : List Char) : EndsBlank (front ++ text) ↔ EndsBlank text := by
  obtain ⟨before, d, rfl⟩ := (List.eq_nil_or_concat' text).resolve_left h
  simp [EndsBlank, ← List.append_assoc]

theorem endsBlank_blanks (h : blanks ≠ []) (hblank : ∀ c ∈ blanks, Text.isBlank c = true) (front : List Char) :
    EndsBlank (front ++ blanks) := by
  rw [endsBlank_append h]
  exact ⟨blanks.getLast h, List.getLast?_eq_some_getLast h, hblank _ (List.getLast_mem h)⟩

theorem not_endsBlank_trimEnd (text : List Char) : ¬ EndsBlank (Text.trimEnd text) := by
  rintro ⟨c, hlast, hblank⟩
  obtain ⟨front, hfront⟩ := List.getLast?_eq_some_iff.1 hlast
  have hshort : Text.trimEnd front = front ++ [c] := by
    rw [← Text.trimEnd_concat_blank hblank front, ← hfront, Text.trimEnd_trimEnd]
  obtain ⟨blanks, hsplit, -⟩ := Text.exists_blanks front
  have hlength := congrArg List.length hsplit
  rw [hshort] at hlength
  simp only [List.length_append, List.length_singleton] at hlength
  omega

/-- white space is cut off when there is some -/
theorem blanks_ne_nil_iff (hsplit : text = Text.trimEnd text ++ blanks)
    (hblank : ∀ c ∈ blanks, Text.isBlank c = true) : blanks ≠ [] ↔ EndsBlank text := by
  constructor
  · intro hne
    rw [hsplit]
    exact endsBlank_blanks hne hblank _
  · intro hends hnone
    rw [hnone, List.append_nil] at hsplit
    rw [hsplit] at hends
    exact not_endsBlank_trimEnd text hends

/-- what a mark leaves of a text: nothing, when it is white space only -/
def trimmed (text : List Char) : List (List Char) :=
  [Text.trimEnd text].filter (· ≠ [])

theorem trimLast_concat (front : List (List Char)) (last : List Char) :
    trimLast true (texts (front ++ [last])).reverse = (texts (front ++ trimmed last)).reverse := by
  by_cases hgone : Text.trimEnd last = [] <;> simp [texts, trimLast, pushText, trimmed, hgone]

theorem keptOf_trimmed {front : List (List Char)} {last : List Char} (h : ∀ part ∈ front ++ [last], part ≠ [])
    (hsplit : last = Text.trimEnd last ++ blanks) (hblank : ∀ c ∈ blanks, Text.isBlank c = true) :
    KeptOf (front ++ [last]) (front ++ trimmed last) blanks where
  ne_nil := by
    intro part hpart
    rcases List.mem_append.1 hpart with hfront | hkept
    · exact h part (List.mem_append_left _ hfront)
    · simpa using (List.mem_filter.1 hkept).2
  whole := by
    have hflatten : (trimmed last).flatten = Text.trimEnd last := by
      by_cases hgone : Text.trimEnd last = [] <;> simp [trimmed, hgone]
    rw [List.flatten_append, List.flatten_append, hflatten, List.append_assoc, ← hsplit, List.flatten_singleton]
  blank := hblank
  same := by
    intro hnone
    rw [hnone, List.append_nil] at hsplit
    have hlast : last ≠ [] := h last (by simp)
    simp [trimmed, ← hsplit, hlast]

/-- one mark takes the white space from the end of the last text -/
theorem trimLast_texts (h : ∀ part ∈ parts, part ≠ []) :
    ∃ kept blanks, trimLast true (texts parts).reverse = (texts kept).reverse ∧ KeptOf parts kept blanks ∧
      (blanks ≠ [] ↔ EndsBlank parts.flatten) := by
  rcases List.eq_nil_or_concat' parts with rfl | ⟨front, last, rfl⟩
  · refine ⟨[], [], rfl, ⟨by simp, rfl, by simp, fun _ => rfl⟩, ?_⟩
    simp [EndsBlank]
  · obtain ⟨blanks, hsplit, hblank⟩ := Text.exists_blanks last
    refine ⟨front ++ trimmed last, blanks, trimLast_concat front last, keptOf_trimmed h hsplit hblank, ?_⟩
    rw [List.flatten_append, List.flatten_singleton, endsBlank_append (h last (by simp))]
    exact blanks_ne_nil_iff hsplit hblank

/-- **Marks that reach texts** take the white space from their end, and nothing else. -/
theorem trimmed_texts (h : ∀ part ∈ parts, part ≠ []) (count : ℕ) :
    ∃ kept blanks, (trimLast true)^[count] (texts parts).reverse = (texts kept).reverse ∧ KeptOf parts kept blanks ∧
      (blanks ≠ [] ↔ 0 < count ∧ EndsBlank parts.flatten) := by
  induction count with
  | zero => exact ⟨parts, [], rfl, ⟨h, by simp, by simp, fun _ => rfl⟩, by simp⟩
  | succ count ih =>
    obtain ⟨kept, blanks, hstack, hkept, hblanks⟩ := ih
    obtain ⟨kept', blanks', hstack', hkept', hblanks'⟩ := trimLast_texts hkept.ne_nil
    have hwhole : parts.flatten = kept'.flatten ++ (blanks' ++ blanks) := by
      rw [hkept.whole, hkept'.whole, List.append_assoc]
    have hblank : ∀ c ∈ blanks' ++ blanks, Text.isBlank c = true := by
      intro c hc
      rcases List.mem_append.1 hc with hc | hc
      · exact hkept'.blank c hc
      · exact hkept.blank c hc
    refine ⟨kept', blanks' ++ blanks, ?_, ⟨hkept'.ne_nil, hwhole, hblank, fun hnone => ?_⟩, ?_⟩
    · rw [Function.iterate_succ_apply', hstack, hstack']
    · obtain ⟨hnone', hnone⟩ := List.append_eq_nil_iff.1 hnone
      rw [hkept'.same hnone', hkept.same hnone]
    · constructor
      · intro hne
        refine ⟨Nat.succ_pos _, ?_⟩
        rw [hwhole]
        exact endsBlank_blanks hne hblank _
      · rintro ⟨-, hends⟩ hnone
        obtain ⟨hnone', hnone⟩ := List.append_eq_nil_iff.1 hnone
        rw [← hkept.same hnone] at hends
        exact hblanks'.2 hends hnone'

end Assembly

end Templating.Template
