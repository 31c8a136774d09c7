/-
A comment in a source, and what becomes of the text around it.

A comment is a region, and that is all it is to the tokens: no token comes of it. But it stands between two texts that
would be one without it, and a trim mark works on the text next to it, so a comment can spare white space that a mark
takes when the comment is gone. Said on the stack of tokens: with the comment there are two texts where there is one
without it, and the marks behind trim both stacks equally often.

- `tokens_comment`: the outputs, the tags and the characters are the same, but for white space on both sides of the
  comment, and exactly when there is some.
- `comment_visible`: a mark before a comment does not reach the text behind it.
-/
import Templating.Proofs.SourceRegions
import Templating.Proofs.TrimMarks

namespace Templating.Template

/-! ## what tokens say -/

/-- a part of what tokens say -/
inductive Atom where
  | char (c : Char)
  | output (expr : String)
  | tag (name args : String)
  deriving DecidableEq, Repr

/-- a text as parts -/
def characters (text : List Char) : List Atom :=
  text.map .char

/-- what a token says -/
def Token.atoms : Token → List Atom
  | .text s => characters s.toList
  | .output expr _ => [.output expr]
  | .tag name args _ => [.tag name args]

/-- the characters of the texts between the outputs and tags, wherever these stand and however the texts are split -/
def contents (all : List Token) : List Atom :=
  all.flatMap Token.atoms

/-- the last token is a text that ends in white space -/
def EndsInBlank (all : List Token) : Prop :=
  ∃ s, all.getLast? = some (.text s) ∧ Assembly.EndsBlank s.toList

variable {text lead s blanks : List Char} {mark : Bool} {stack : List Token} {count : ℕ}

@[simp] theorem characters_nil : characters [] = [] := rfl

@[simp] theorem characters_append (s t : List Char) : characters (s ++ t) = characters s ++ characters t := by
  simp [characters]

@[simp] theorem contents_nil : contents [] = [] := rfl

@[simp] theorem contents_append (all behind : List Token) :
    contents (all ++ behind) = contents all ++ contents behind := by
  simp [contents]

@[simp] theorem contents_text (text : List Char) : contents [.text (String.ofList text)] = characters text := by
  simp [contents, Token.atoms]

namespace Assembly

@[simp] theorem contents_pushText (stack : List Token) (text : List Char) :
    contents (pushText stack text).reverse = contents stack.reverse ++ characters text := by
  by_cases hnone : text = [] <;> simp [pushText, hnone]

/-- a mark takes white space from the end, and that is all -/
theorem contents_trimLast (stack : List Token) :
    ∃ blanks, contents stack.reverse = contents (trimLast true stack).reverse ++ characters blanks ∧
      (∀ c ∈ blanks, Text.isBlank c = true) ∧ (blanks ≠ [] ↔ EndsInBlank stack.reverse) := by
  cases stack with
  | nil => exact ⟨[], rfl, by simp, by simp [EndsInBlank]⟩
  | cons token rest =>
    cases token with
    | text s =>
      obtain ⟨blanks, hsplit, hblank⟩ := Text.exists_blanks s.toList
      refine ⟨blanks, ?_, hblank, ?_⟩
      · rw [trimLast, contents_pushText, List.append_assoc, ← characters_append, ← hsplit]
        simp [contents, Token.atoms]
      · rw [blanks_ne_nil_iff hsplit hblank]
        simp [EndsInBlank]
    | _ => exact ⟨[], by simp [trimLast], by simp, by simp [EndsInBlank]⟩

/-- marks take white space from the end -/
theorem contents_iterate (stack : List Token) (count : ℕ) :
    ∃ blanks, contents stack.reverse = contents ((trimLast true)^[count] stack).reverse ++ characters blanks ∧
      ∀ c ∈ blanks, Text.isBlank c = true := by
  induction count with
  | zero => exact ⟨[], by simp, by simp⟩
  | succ count ih =>
    obtain ⟨blanks, hwhole, hblank⟩ := ih
    obtain ⟨taken, htaken, htakenBlank, -⟩ := contents_trimLast ((trimLast true)^[count] stack)
    refine ⟨taken ++ blanks, ?_, fun c hc => ?_⟩
    · rw [Function.iterate_succ_apply', hwhole, htaken, characters_append, List.append_assoc]
    · rcases List.mem_append.1 hc with hc | hc
      · exact htakenBlank c hc
      · exact hblank c hc

/-! ## a text on the stack -/

/-- what marks leave of a text -/
def trimmedBy (count : ℕ) (text : List Char) : List Char :=
  if count = 0 then text else Text.trimEnd text

/-- marks that do not take a whole text do not reach what is below it -/
theorem iterate_pushText (h : count = 0 ∨ Text.trimEnd text ≠ []) (stack : List Token) :
    (trimLast true)^[count] (pushText stack text) = pushText stack (trimmedBy count text) := by
  induction count with
  | zero => rfl
  | succ count ih =>
    have hkept : Text.trimEnd text ≠ [] := by simpa using h
    have htext : text ≠ [] := by
      rintro rfl
      exact hkept rfl
    rw [Function.iterate_succ_apply', ih (Or.inr hkept)]
    by_cases hnone : count = 0 <;> simp [trimmedBy, hnone, pushText, trimLast, hkept, htext, Text.trimEnd_trimEnd]

/-- the first mark takes a text of white space, and the others reach what is below it -/
theorem iterate_pushText_blank (htext : text ≠ []) (hblank : Text.trimEnd text = []) (stack : List Token) (count : ℕ) :
    (trimLast true)^[count + 1] (pushText stack text) = (trimLast true)^[count] stack := by
  rw [Function.iterate_succ_apply]
  simp [pushText, htext, trimLast, hblank]

theorem pushText_nil_append (stack : List Token) (text : List Char) :
    pushText stack text = pushText [] text ++ stack := by
  have happend : pushText ([] ++ stack) text = pushText [] text ++ stack := pushText_append text
  rwa [List.nil_append] at happend

/-! ## two texts that would be one -/

/-- white space that is spared at the end of what is in front of a place, and at the start of what is behind it -/
structure Spares (front behind : List Token) (without : List Atom) (ending leading : List Char) : Prop where
  whole : ∃ before after, contents front = before ++ characters ending ∧
    contents behind = characters leading ++ after ∧ without = before ++ after
  ending_blank : ∀ c ∈ ending, Text.isBlank c = true
  leading_blank : ∀ c ∈ leading, Text.isBlank c = true

variable {front behind : List Token} {without : List Atom} {ending leading : List Char}

theorem Spares.append (h : Spares front behind without ending leading) (rest : List Token) :
    Spares front (behind ++ rest) (without ++ contents rest) ending leading := by
  obtain ⟨before, after, hfront, hbehind, hwhole⟩ := h.whole
  refine ⟨⟨before, after ++ contents rest, hfront, ?_, ?_⟩, h.ending_blank, h.leading_blank⟩
  · rw [contents_append, hbehind, List.append_assoc]
  · rw [hwhole, List.append_assoc]

theorem spares_nothing (h : without = contents front ++ contents behind) : Spares front behind without [] [] :=
  ⟨⟨contents front, contents behind, by simp, by simp, h⟩, by simp, by simp⟩

/-- the text starts with white space -/
def StartsBlank (text : List Char) : Prop :=
  ∃ c, text.head? = some c ∧ Text.isBlank c = true

/-- what a mark in front of two texts takes of the second one, when it takes all of the first -/
theorem trimFirst_append (mark : Bool) (lead s : List Char) :
    ∃ leading rest, s = leading ++ rest ∧ trimFirst mark (lead ++ s) = trimFirst mark lead ++ rest ∧
      (∀ c ∈ leading, Text.isBlank c = true) ∧
      (leading ≠ [] ↔ (mark = true ∧ ∀ c ∈ lead, Text.isBlank c = true) ∧ StartsBlank s) ∧
      (trimFirst mark lead = [] → Text.trimEnd s = [] → rest = [] ∨ mark = false ∧ lead = []) := by
  by_cases hreach : mark = true ∧ ∀ c ∈ lead, Text.isBlank c = true
  · obtain ⟨rfl, hlead⟩ := hreach
    have hgone : Text.trimStart lead = [] := List.dropWhile_eq_nil_iff.2 hlead
    refine ⟨s.takeWhile Text.isBlank, Text.trimStart s, List.takeWhile_append_dropWhile.symm, ?_,
      fun c hc => List.mem_takeWhile_imp hc, ?_, fun _ hs => Or.inl ?_⟩
    · rw [trimFirst, if_pos rfl, trimFirst, if_pos rfl, hgone, List.nil_append, Text.trimStart, Text.trimStart,
        List.dropWhile_append_of_pos hlead]
    · cases s with
      | nil => simp [StartsBlank]
      | cons c s =>
        by_cases hc : Text.isBlank c = true
        · simpa [StartsBlank, hc] using hlead
        · simp [StartsBlank, hc]
    · exact List.dropWhile_eq_nil_iff.2 (Text.trimEnd_eq_nil_iff.1 hs)
  · refine ⟨[], s, rfl, ?_, by simp, by simp [hreach], fun hgone _ => Or.inr ?_⟩
    · cases mark with
      | false => rfl
      | true =>
        have hkept : Text.trimStart lead ≠ [] := by
          intro hgone
          exact hreach ⟨rfl, List.dropWhile_eq_nil_iff.1 hgone⟩
        rw [Text.trimStart] at hkept
        simp [trimFirst, Text.trimStart, List.dropWhile_append, hkept]
    · cases mark with
      | false => exact ⟨rfl, hgone⟩
      | true => exact absurd ⟨rfl, List.dropWhile_eq_nil_iff.1 hgone⟩ hreach

theorem trimmedBy_append (h : count = 0 ∨ Text.trimEnd text ≠ []) (front : List Char) :
    trimmedBy count (front ++ text) = front ++ trimmedBy count text := by
  unfold trimmedBy
  split_ifs with hcount
  · rfl
  · exact Text.trimEnd_append (h.resolve_left hcount) front

/-- **Two texts and the text they would be**, when the marks behind trim both. The marks take white space from the end
of the first text when there are two, as far as they take all of the second one, and one of them is spent on this. -/
theorem spares_text (hs : s ≠ []) (stack : List Token) (mark : Bool) (lead : List Char) (count : ℕ) :
    ∃ left ending leading,
      (trimLast true)^[count] (pushText (pushText stack (trimFirst mark lead)) s) =
        (trimLast true)^[count] (pushText [] s) ++ left.reverse ∧
      (∃ taken, contents (pushText stack (trimFirst mark lead)).reverse = contents left ++ characters taken ∧
        ∀ c ∈ taken, Text.isBlank c = true) ∧
      Spares left ((trimLast true)^[count] (pushText [] s)).reverse
        (contents ((trimLast true)^[count] (pushText stack (trimFirst mark (lead ++ s)))).reverse) ending leading ∧
      (ending ≠ [] ↔ (0 < count ∧ Text.trimEnd s = []) ∧ (mark = true ∨ lead ≠ []) ∧ EndsInBlank left) ∧
      (leading ≠ [] ↔ ¬ (0 < count ∧ Text.trimEnd s = []) ∧
        (mark = true ∧ ∀ c ∈ lead, Text.isBlank c = true) ∧ StartsBlank s) := by
  obtain ⟨leading, rest, hsplit, hfirst, hblank, hleading, hgone⟩ := trimFirst_append mark lead s
  generalize hfront : trimFirst mark lead = front at *
  by_cases htaken : 0 < count ∧ Text.trimEnd s = []
  · -- the first mark takes the second text, and the others reach the first one
    obtain ⟨hcount, hnone⟩ := htaken
    obtain ⟨k, rfl⟩ := Nat.exists_eq_succ_of_ne_zero hcount.ne'
    have hempty : (trimLast true)^[k] [] = [] := Function.iterate_fixed (trimLast_nil true) k
    obtain ⟨taken, htaken⟩ := contents_iterate (pushText stack front) k
    rw [iterate_pushText_blank hs hnone, iterate_pushText_blank hs hnone, hempty]
    refine ⟨((trimLast true)^[k] (pushText stack front)).reverse, ?_⟩
    by_cases hsame : mark = false ∧ lead = []
    · obtain ⟨rfl, rfl⟩ := hsame
      obtain rfl : [] = front := hfront
      refine ⟨[], [], by simp, ⟨taken, htaken⟩, spares_nothing ?_, by simp, by simp [hcount, hnone]⟩
      rw [List.nil_append, trimFirst_false, iterate_pushText_blank hs hnone]
      simp [pushText]
    · have hone : trimLast true (pushText stack (front ++ rest)) = trimLast true (pushText stack front) := by
        by_cases hnofront : front = []
        · obtain rfl : rest = [] := (hgone hnofront hnone).resolve_right hsame
          rw [List.append_nil]
        · have hrest : ∀ c ∈ rest, Text.isBlank c = true := by
            intro c hc
            exact Text.trimEnd_eq_nil_iff.1 hnone c (by rw [hsplit]; exact List.mem_append_right _ hc)
          simp [pushText, hnofront, trimLast, Text.trimEnd_append_blanks hrest]
      obtain ⟨ending, hwhole, hending, hends⟩ := contents_trimLast ((trimLast true)^[k] (pushText stack front))
      refine ⟨ending, [], by simp, ⟨taken, htaken⟩, ⟨⟨_, [], hwhole, by simp, ?_⟩, hending, by simp⟩, ?_,
        by simp [hcount, hnone]⟩
      · rw [hfirst, Function.iterate_succ_apply, hone, ← Function.iterate_succ_apply, Function.iterate_succ_apply',
          List.append_nil]
      · have hreach : mark = true ∨ lead ≠ [] := by
          by_contra hneither
          simp only [not_or, ne_eq, not_not, Bool.not_eq_true] at hneither
          exact hsame hneither
        rw [hends]
        simp [hcount, hnone, hreach]
  · -- the second text stays on the stack, and the marks come to it only
    have hkept : count = 0 ∨ Text.trimEnd s ≠ [] := by
      rcases Nat.eq_zero_or_pos count with hzero | hcount
      · exact Or.inl hzero
      · exact Or.inr fun hnone => htaken ⟨hcount, hnone⟩
    have hrest : count = 0 ∨ Text.trimEnd rest ≠ [] := by
      refine hkept.imp_right fun hs hnone => hs (Text.trimEnd_eq_nil_iff.2 fun c hc => ?_)
      rw [hsplit] at hc
      rcases List.mem_append.1 hc with hc | hc
      · exact hblank c hc
      · exact Text.trimEnd_eq_nil_iff.1 hnone c hc
    have hfrontRest : count = 0 ∨ Text.trimEnd (front ++ rest) ≠ [] := by
      refine hrest.imp_right fun hrest => ?_
      rw [Text.trimEnd_append hrest]
      simp [hrest]
    refine ⟨(pushText stack front).reverse, [], leading, ?_, ⟨[], by simp, by simp⟩,
      ⟨⟨contents (pushText stack front).reverse, characters (trimmedBy count rest), by simp, ?_, ?_⟩, by simp, hblank⟩,
      by simp [htaken], by rw [hleading]; simp [htaken]⟩
    · rw [iterate_pushText hkept, iterate_pushText hkept, List.reverse_reverse, pushText_nil_append]
    · rw [iterate_pushText hkept, contents_pushText, hsplit, trimmedBy_append hrest]
      simp
    · rw [hfirst, iterate_pushText hfrontRest, contents_pushText, trimmedBy_append hrest, contents_pushText]
      simp

/-! ## regions around the place -/

variable {a : Assembly} {all : List Region}

/-- whatever a mark behind does, it does to a text -/
theorem step_tokens {region : Region} (h : region.isText = false) (stack : List Token) (mark mark' : Bool) :
    step ⟨stack, mark⟩ region = step ⟨stack, mark'⟩ region := by
  cases region with
  | text s => cases h
  | _ => rfl

theorem run_tokens (h : ∀ region ∈ all.head?, region.isText = false) (stack : List Token) (mark mark' : Bool) :
    (all.foldl step ⟨stack, mark⟩).tokens = (all.foldl step ⟨stack, mark'⟩).tokens := by
  cases all with
  | nil => rfl
  | cons region all => rw [List.foldl_cons, List.foldl_cons, step_tokens (h region rfl) stack mark mark']

/-- regions that do not start with a text trim the tokens below them some times -/
theorem run_below (h : ∀ region ∈ all.head?, region.isText = false) :
    ∃ count, (∀ stack mark, (all.foldl step ⟨stack, mark⟩).tokens.reverse =
        ((trimLast true)^[count] stack).reverse ++ tokensOf all) ∧ (0 < count ↔ start.Reaches all) := by
  obtain ⟨count, hrun, hcount⟩ := run_onto start all
  refine ⟨count, fun stack mark => ?_, hcount⟩
  have hstart : onto stack start = ⟨stack, false⟩ := rfl
  rw [run_tokens h stack mark false, ← hstart, hrun, onto, List.reverse_append, tokensOf]

end Assembly

/-- the text at the end of regions -/
def closingText (all : List Region) : List Char :=
  match all.getLast? with
  | some (.text s) => s
  | _ => []

/-- the text at the start of regions -/
def openingText : List Region → List Char
  | .text s :: _ => s
  | _ => []

/-- marks of the regions behind the first text take all of this text -/
def TakesOpening (all : List Region) : Prop :=
  ∃ s behind, all = .text s :: behind ∧ (∀ c ∈ s, Text.isBlank c = true) ∧ Assembly.start.Reaches behind

/-- a mark behind a region goes on to work at the end of the regions: nothing is behind it but white space -/
def MarksOn (all : List Region) : Prop :=
  (all.foldl Assembly.step .start).trimNext = true ∧ ∀ c ∈ closingText all, Text.isBlank c = true

theorem closingText_plainRegions {head : List Region} (h : ∀ region ∈ head.getLast?, region.isText = false)
    (lead : List Char) : closingText (head ++ plainRegions lead) = lead := by
  by_cases hnone : lead = []
  · rw [hnone, plainRegions, if_pos rfl, List.append_nil, closingText]
    split
    · next s hlast => cases h _ hlast
    · rfl
  · simp [plainRegions, hnone, closingText]

open Assembly in
/-- **Regions with a comment between them**, and without it. -/
theorem tokensOf_comment {head behind : List Region} (hhead : ∀ region ∈ head.getLast?, region.isText = false)
    (hbehind : ∀ s all, behind = .text s :: all → s ≠ [] ∧ ∀ region ∈ all.head?, region.isText = false)
    (lead : List Char) :
    ∃ left ending leading,
      tokensOf (head ++ lead.foldr consText (.comment :: behind)) = left ++ tokensOf behind ∧
      (∃ taken, contents (tokensOf (head ++ plainRegions lead)) = contents left ++ characters taken ∧
        ∀ c ∈ taken, Text.isBlank c = true) ∧
      Spares left (tokensOf behind) (contents (tokensOf (head ++ lead.foldr consText behind))) ending leading ∧
      (ending ≠ [] ↔ TakesOpening behind ∧
        (((head ++ plainRegions lead).foldl step start).trimNext = true ∨ lead ≠ []) ∧ EndsInBlank left) ∧
      (leading ≠ [] ↔ ¬ TakesOpening behind ∧ MarksOn (head ++ plainRegions lead) ∧
        StartsBlank (openingText behind)) := by
  have hwith : lead.foldr consText (.comment :: behind) = plainRegions lead ++ .comment :: behind :=
    foldr_consText lead (by simp [Region.isText])
  rw [MarksOn, closingText_plainRegions hhead, hwith]
  simp only [tokensOf_append, List.foldl_append, foldl_plainRegions, List.foldl_cons]
  generalize head.foldl step start = a
  rw [step]
  by_cases htext : ∃ s all, behind = .text s :: all
  · obtain ⟨s, all, rfl⟩ := htext
    obtain ⟨hs, hall⟩ := hbehind s all rfl
    obtain ⟨count, hrun, hcount⟩ := run_below hall
    obtain ⟨left, ending, leading, hleft, htaken, hspares, hending, hleading⟩ :=
      spares_text hs a.tokens a.trimNext lead count
    have hopening : TakesOpening (.text s :: all) ↔ 0 < count ∧ Text.trimEnd s = [] := by
      rw [hcount, Text.trimEnd_eq_nil_iff]
      constructor
      · rintro ⟨s', behind, hsplit, hblank, hreaches⟩
        cases hsplit
        exact ⟨hreaches, hblank⟩
      · rintro ⟨hreaches, hblank⟩
        exact ⟨s, all, rfl, hblank, hreaches⟩
    have hone : tokensOf (.text s :: all) =
        ((trimLast true)^[count] (pushText [] s)).reverse ++ tokensOf all := hrun (pushText [] s) false
    have hsame := hspares.append (tokensOf all)
    rw [← hone, ← contents_append] at hsame
    refine ⟨left, ending, leading, ?_, htaken, ?_, by rw [hopening, hending], by rw [hopening, hleading]; rfl⟩
    · rw [hone, List.foldl_cons, step, hrun]
      dsimp only
      rw [trimFirst_false, hleft, List.reverse_append, List.reverse_reverse, List.append_assoc]
    · rw [foldr_consText_text, List.foldl_cons, step, hrun]
      exact hsame
  · have hnot : ∀ region ∈ behind.head?, region.isText = false := by
      intro region hregion
      obtain ⟨all, rfl⟩ := List.head?_eq_some_iff.1 hregion
      cases region with
      | text s => exact absurd ⟨s, all, rfl⟩ htext
      | _ => rfl
    have hopening : ¬ TakesOpening behind := by
      rintro ⟨s, all, hsplit, -⟩
      exact htext ⟨s, all, hsplit⟩
    have hnone : openingText behind = [] := by
      unfold openingText
      split
      · next s all => exact absurd ⟨s, all, rfl⟩ htext
      · rfl
    obtain ⟨count, hrun, -⟩ := run_below hnot
    obtain ⟨taken, htaken⟩ := contents_iterate (pushText a.tokens (trimFirst a.trimNext lead)) count
    refine ⟨_, [], [], hrun _ _, ⟨taken, htaken⟩, spares_nothing ?_, by simp [hopening], by simp [hnone, StartsBlank]⟩
    rw [foldr_consText lead hnot, List.foldl_append, foldl_plainRegions, hrun, contents_append]

/-! ## a comment in a source -/

/-- the text of a comment -/
def commentOf (text : List Char) : List Char :=
  '\x7b' :: '#' :: (text ++ ['#', '\x7d'])

/-- a text without the end of a comment is the text of one -/
theorem isRegion_commentOf (h : ∀ front back, text ≠ front ++ '#' :: '\x7d' :: back) :
    IsRegion (commentOf text) .comment := by
  suffices hcut : Text.cutAt? ['#', '\x7d'] (text ++ ['#', '\x7d']) = some (text, []) from isRegion_comment hcut
  refine Text.cutAt?_eq_some_iff.2 ⟨by simp, ?_⟩
  intro front back hsplit
  have hlength := congrArg List.length hsplit
  simp only [List.length_append, List.length_cons, List.length_nil] at hlength
  by_contra hshort
  rw [List.append_assoc] at hsplit
  -- an end in front of the end would stand in the text
  obtain ⟨middle, rfl, hmiddle⟩ :
      ∃ middle, text = front ++ middle ∧ middle ++ ['#', '\x7d'] = '#' :: '\x7d' :: back := by
    rcases List.append_eq_append_iff.1 hsplit with ⟨middle, hfront, -⟩ | ⟨middle, htext, hmiddle⟩
    · rw [hfront, List.length_append] at hshort
      omega
    · exact ⟨middle, htext, hmiddle.symm⟩
  match middle, hmiddle with
  | [], _ => simp at hshort
  | [c], hmiddle => simp at hmiddle
  | c :: d :: middle, hmiddle =>
    obtain ⟨rfl, hbehind⟩ := List.cons.inj hmiddle
    obtain ⟨rfl, -⟩ := List.cons.inj hbehind
    exact h front middle rfl

/-- the token at another place -/
def Token.placed (p : Position) : Token → Token
  | .text s => .text s
  | .output expr _ => .output expr p
  | .tag name args _ => .tag name args p

/-- the tokens so far at another place -/
def Assembly.placed (p : Position) (a : Assembly) : Assembly :=
  ⟨a.tokens.map (Token.placed p), a.trimNext⟩

theorem pushText_placed (p : Position) (stack : List Token) (text : List Char) :
    (Assembly.pushText stack text).map (Token.placed p) = Assembly.pushText (stack.map (Token.placed p)) text := by
  unfold Assembly.pushText
  split_ifs <;> rfl

theorem trimLast_placed (p : Position) (mark : Bool) (stack : List Token) :
    (Assembly.trimLast mark stack).map (Token.placed p) = Assembly.trimLast mark (stack.map (Token.placed p)) := by
  cases mark with
  | false => rfl
  | true =>
    cases stack with
    | nil => rfl
    | cons token stack =>
      cases token with
      | text s => exact pushText_placed p stack _
      | _ => rfl

/-- regions at another place give tokens at this place -/
theorem step_placed (p : Position) (a : Assembly) (region : Region) :
    (a.placed p).step (region.placed p) = (a.step region).placed p := by
  cases region <;>
    simp [Assembly.placed, Region.placed, Assembly.step, pushText_placed, trimLast_placed, Token.placed]

theorem run_placed (p : Position) (a : Assembly) (all : List Region) :
    (all.map (Region.placed p)).foldl Assembly.step (a.placed p) = (all.foldl Assembly.step a).placed p := by
  induction all generalizing a with
  | nil => rfl
  | cons region all ih => rw [List.map_cons, List.foldl_cons, step_placed, ih, List.foldl_cons]

theorem contents_map_placed (p : Position) (all : List Token) :
    contents (all.map (Token.placed p)) = contents all := by
  have hatoms : ∀ token : Token, (token.placed p).atoms = token.atoms := by
    intro token
    cases token <;> rfl
  simp [contents, List.flatMap_map, hatoms]

/-- positions are nothing to what tokens say -/
theorem contents_tokensOf_placed (p : Position) (all : List Region) :
    contents (tokensOf (all.map (Region.placed p))) = contents (tokensOf all) := by
  have hrun := run_placed p .start all
  rw [show Assembly.start.placed p = .start from rfl] at hrun
  rw [tokensOf, hrun, Assembly.placed, ← List.map_reverse, contents_map_placed, tokensOf]

theorem foldr_consText_placed (p : Position) (lead : List Char) (all : List Region) :
    (lead.foldr consText all).map (Region.placed p) = lead.foldr consText (all.map (Region.placed p)) := by
  induction lead with
  | nil => rfl
  | cons c lead ih => rw [List.foldr_cons, map_consText, ih, List.foldr_cons]

/-- what is behind a place says the same wherever it stands -/
theorem contents_behind {all all' : List Region}
    (h : all'.map (Region.placed .start) = all.map (Region.placed .start)) (head : List Region) (lead : List Char) :
    contents (tokensOf (head ++ lead.foldr consText all')) = contents (tokensOf (head ++ lead.foldr consText all)) := by
  rw [← contents_tokensOf_placed .start, List.map_append, foldr_consText_placed, h, ← foldr_consText_placed,
    ← List.map_append, contents_tokensOf_placed]

variable {front back : List Char} {all : List Token}

/-- **A comment at a place outside of regions** changes no output, no tag and no character, but for white space that
marks take without it. There is white space more at its end in front of the comment exactly when marks behind take the
text between the comment and the next region, and so come to this text as well when the comment is gone; and there is
more behind the comment exactly when a mark in front takes white space over this place when the comment is gone. -/
theorem tokens_comment (hall : tokens (String.ofList (front ++ back)) = .ok all) (hout : Outside back front)
    (hbrace : front.getLast? ≠ some '\x7b') (htext : ∀ s t, text ≠ s ++ '#' :: '\x7d' :: t) :
    ∃ before behind left ending leading,
      regions front = .ok before ∧
      regionsAfter 0 (Position.start.after (front ++ commentOf text)) back = .ok behind ∧
      tokens (String.ofList (front ++ commentOf text ++ back)) = .ok (left ++ tokensOf behind) ∧
      (∃ taken, contents (tokensOf before) = contents left ++ characters taken ∧
        ∀ c ∈ taken, Text.isBlank c = true) ∧
      Assembly.Spares left (tokensOf behind) (contents all) ending leading ∧
      (ending ≠ [] ↔ TakesOpening behind ∧
        ((before.foldl Assembly.step .start).trimNext = true ∨ closingText before ≠ []) ∧ EndsInBlank left) ∧
      (leading ≠ [] ↔ ¬ TakesOpening behind ∧ MarksOn before ∧ Assembly.StartsBlank (openingText behind)) := by
  obtain ⟨head, lead, hhead, hregions⟩ := hout.regions hbrace .start
  have hbefore : regions front = .ok (head ++ plainRegions lead) := by
    have hnil := hregions []
    rw [List.append_nil] at hnil
    rw [regions, hnil, regionsAfter, Except.map, foldr_consText lead (by simp), List.append_nil]
  rw [tokens, String.toList_ofList, regions, hregions back] at hall
  obtain ⟨_, hplaced, rfl⟩ := map_eq_ok.1 hall
  obtain ⟨without, hwithout, rfl⟩ := map_eq_ok.1 hplaced
  obtain ⟨behind, hscan, hsame⟩ :=
    (regionsAfter_eq_ok_iff.1 hwithout).moved (Position.start.after (front ++ commentOf text))
  have hbehind := regionsAfter_eq_ok_iff.2 hscan
  obtain ⟨left, ending, leading, hleft, htaken, hspares, hending, hleading⟩ :=
    tokensOf_comment hhead (fun s all hall => hscan.behind_text hall) lead
  rw [contents_behind hsame] at hspares
  refine ⟨head ++ plainRegions lead, behind, left, ending, leading, hbefore, hbehind, ?_, htaken, hspares, ?_, hleading⟩
  · rw [tokens, String.toList_ofList, regions, List.append_assoc, hregions,
      regionsAfter_piece (isRegion_commentOf htext), ← Position.after_append, hbehind]
    exact congrArg Except.ok hleft
  · rw [hending, closingText_plainRegions hhead]

/-- a source with a mark behind a region, cut behind the white space that the mark takes -/
theorem tokens_comment_behind_blank :
    ∃ all', tokens (String.ofList ("a\x7b\x7b 1 -\x7d\x7d ".toList ++ commentOf " c ".toList ++ "b".toList)) = .ok all' ∧
      contents all' = [.char 'a', .output "1", .char 'b'] := by
  have hall : tokens (String.ofList ("a\x7b\x7b 1 -\x7d\x7d ".toList ++ "b".toList)) =
      .ok [.text "a", .output "1" ⟨1, 0, 1⟩, .text "b"] := by rfl
  have hout : Outside "b".toList "a\x7b\x7b 1 -\x7d\x7d ".toList := by
    have hblank : Outside "b".toList " ".toList := .char rfl .here
    have hread : regionAt? .start ("\x7b\x7b 1 -\x7d\x7d".toList ++ (" ".toList ++ "b".toList)) =
        some (.ok (.output .start ['1'] ⟨false, true⟩, " ".toList ++ "b".toList)) := rfl
    have hregion : Outside "b".toList ("\x7b\x7b 1 -\x7d\x7d".toList ++ " ".toList) := .region hread hblank
    exact .char rfl hregion
  have htext : ∀ s t, " c ".toList ≠ s ++ '#' :: '\x7d' :: t := by
    intro s t hsplit
    have hmem : '#' ∈ " c ".toList := by simp [hsplit]
    exact absurd hmem (by decide)
  obtain ⟨before, behind, left, ending, leading, -, hbehind, htokens, -, hspares, hending, hleading⟩ :=
    tokens_comment hall hout (by decide) htext
  obtain rfl : [.text ['b']] = behind := Except.ok.inj hbehind
  have hnone : ¬ TakesOpening [.text ['b']] := by
    rintro ⟨s, rest, hsplit, hblank, -⟩
    cases hsplit
    exact absurd (hblank 'b' (by simp)) (by decide)
  have hstart : ¬ Assembly.StartsBlank (openingText [.text ['b']]) := by
    rintro ⟨c, hc, hblank⟩
    cases hc
    exact absurd hblank (by decide)
  obtain rfl : ending = [] := by simpa [hnone] using hending
  obtain rfl : leading = [] := by simpa [hstart] using hleading
  obtain ⟨front, after, hfront, hafter, hwhole⟩ := hspares.whole
  refine ⟨_, htokens, ?_⟩
  rw [contents_append, hfront, hafter, characters_nil, List.append_nil, List.nil_append, ← hwhole]
  rfl

/-- **A comment can be seen**: a mark does not take white space behind it. -/
theorem comment_visible :
    ¬ ∀ front back text all, tokens (String.ofList (front ++ back)) = .ok all → Outside back front →
      front.getLast? ≠ some '\x7b' → (∀ s t, text ≠ s ++ '#' :: '\x7d' :: t) →
      ∃ all', tokens (String.ofList (front ++ commentOf text ++ back)) = .ok all' ∧ contents all' = contents all := by
  intro h
  have hall : tokens (String.ofList ("\x7b\x7b 1 -\x7d\x7d".toList ++ " b".toList)) =
      .ok [.output "1" .start, .text "b"] := by rfl
  have hread : regionAt? .start ("\x7b\x7b 1 -\x7d\x7d".toList ++ ([] ++ " b".toList)) =
      some (.ok (.output .start ['1'] ⟨false, true⟩, [] ++ " b".toList)) := rfl
  have hout : Outside " b".toList ("\x7b\x7b 1 -\x7d\x7d".toList ++ []) := .region hread .here
  obtain ⟨all', htokens, hsame⟩ := h _ _ [] _ hall hout (by decide) (by simp)
  have hvisible : tokens (String.ofList ("\x7b\x7b 1 -\x7d\x7d".toList ++ commentOf [] ++ " b".toList)) =
      .ok [.output "1" .start, .text " b"] := by rfl
  rw [hvisible] at htokens
  cases htokens
  exact absurd hsame (by decide)

end Templating.Template
