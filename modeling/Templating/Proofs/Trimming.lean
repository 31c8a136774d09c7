/-
Characters of one kind at the ends of a text, and the longest front of a text in such characters.

A text is what is left of it and the characters that were cut off (`exists_between`, `cut_between`). The characters are
white space mostly (`exists_blanks`); cutting stops at a character that is none, so such a character is never lost
(`mem_trim`). A front in characters of one kind ends where another
character follows (`takeWhile_append_stop`, `takeWhile_front`).
-/
import Mathlib.Data.List.DropRight
import Mathlib.Tactic.Common
import Templating.Text.Blank

namespace Templating

namespace Text

variable {text blanks : List Char}

/-! ## characters of one kind at the ends -/

/-- what is cut off at the end of a text, and what it then ends in -/
theorem exists_cut (p : Char → Bool) (text : List Char) :
    (∃ behind, text = dropEndWhile p text ++ behind ∧ ∀ c ∈ behind, p c = true) ∧
      ∀ c ∈ (dropEndWhile p text).getLast?, p c = false := by
  refine ⟨⟨(text.reverse.takeWhile p).reverse, ?_, fun c hc => ?_⟩, fun c hc => ?_⟩
  · rw [dropEndWhile, ← List.reverse_append, List.takeWhile_append_dropWhile, List.reverse_reverse]
  · exact List.mem_takeWhile_imp (List.mem_reverse.1 hc)
  · have hnot := List.head?_dropWhile_not p text.reverse
    rw [dropEndWhile, List.getLast?_reverse] at hc
    rw [Option.mem_def.1 hc] at hnot
    exact hnot

/-- a text is one with none of these characters at its ends, and such characters around it -/
theorem exists_between (p : Char → Bool) (text : List Char) :
    ∃ front middle behind, text = front ++ (middle ++ behind) ∧ (∀ c ∈ front ++ behind, p c = true) ∧
      (∀ c ∈ middle.head?, p c = false) ∧ ∀ c ∈ middle.getLast?, p c = false := by
  obtain ⟨⟨behind, hsplit, hbehind⟩, hlast⟩ := exists_cut p (text.dropWhile p)
  have hfront : ∀ c ∈ text.takeWhile p, p c = true := fun c hc => List.mem_takeWhile_imp hc
  refine ⟨text.takeWhile p, _, behind, ?_, List.forall_mem_append.2 ⟨hfront, hbehind⟩, fun c hc => ?_, hlast⟩
  · rw [← hsplit, List.takeWhile_append_dropWhile]
  · have hnot := List.head?_dropWhile_not p text
    rw [hsplit, List.head?_append, Option.mem_def.1 hc] at hnot
    exact hnot

/-- such characters behind a text that does not end in one are cut off, and no more -/
theorem dropEndWhile_append {p : Char → Bool} {behind : List Char} (hbehind : ∀ c ∈ behind, p c = true)
    (hlast : ∀ c ∈ text.getLast?, p c = false) : dropEndWhile p (text ++ behind) = text := by
  have hstop : text.reverse.dropWhile p = text.reverse := by
    cases hreverse : text.reverse with
    | nil => rfl
    | cons c rest =>
      have hc : p c = false := hlast c (by rw [List.getLast?_eq_head?_reverse, hreverse]; rfl)
      exact List.dropWhile_cons_of_neg (by simp [hc])
  unfold dropEndWhile
  rw [List.reverse_append, List.dropWhile_append_of_pos fun c hc => hbehind c (List.mem_reverse.1 hc), hstop,
    List.reverse_reverse]

/-- such characters around a text that has none at its ends are cut off, and no more -/
theorem cut_between {p : Char → Bool} {front behind : List Char} (hfront : ∀ c ∈ front, p c = true)
    (hbehind : ∀ c ∈ behind, p c = true) (hhead : ∀ c ∈ text.head?, p c = false)
    (hlast : ∀ c ∈ text.getLast?, p c = false) :
    dropEndWhile p ((front ++ (text ++ behind)).dropWhile p) = text := by
  rw [List.dropWhile_append_of_pos hfront]
  cases text with
  | nil =>
    have hnone : ([] ++ behind).dropWhile p = [] := List.dropWhile_eq_nil_iff.2 hbehind
    rw [hnone]
    rfl
  | cons c text =>
    rw [List.cons_append, List.dropWhile_cons_of_neg (by simp [hhead c rfl]), ← List.cons_append]
    exact dropEndWhile_append hbehind hlast

/-! ## white space -/

/-- no letter and no digit is white space -/
theorem isBlank_of_isAlphanum {c : Char} (h : c.isAlphanum = true) : isBlank c = false := by
  have hletter : c.isAlpha = (decide ('A'.val ≤ c.val ∧ c.val ≤ 'Z'.val) ||
      (decide ('a'.val ≤ c.val) && decide (c.val ≤ 'z'.val))) := rfl
  have hrange : 0x30 ≤ c.toNat ∧ c.toNat ≤ 0x7A := by
    simp only [Char.isAlphanum, hletter, Char.isDigit, Bool.or_eq_true, Bool.and_eq_true, decide_eq_true_eq,
      ge_iff_le, UInt32.le_iff_toNat_le, Char.toNat_val, Char.reduceToNat] at h
    omega
  simp only [isBlank, Bool.or_eq_false_iff, Bool.and_eq_false_iff, decide_eq_false_iff_not, beq_eq_false_iff_ne]
  omega

theorem trimStart_cons {c : Char} (h : isBlank c = false) (text : List Char) : trimStart (c :: text) = c :: text := by
  simp [trimStart, h]

/-- white space is cut off no further than to a character that is none -/
theorem trimEnd_append_cons {c : Char} (h : isBlank c = false) (front tail : List Char) :
    trimEnd (front ++ c :: tail) = front ++ c :: trimEnd tail := by
  unfold trimEnd dropEndWhile
  rw [List.reverse_append, List.reverse_cons, List.append_assoc, List.dropWhile_append]
  split
  · next hnone => simp [List.isEmpty_iff.1 hnone, h]
  · simp

theorem trimEnd_concat {c : Char} (h : isBlank c = false) (text : List Char) : trimEnd (text ++ [c]) = text ++ [c] :=
  trimEnd_append_cons h text []

theorem trimEnd_trimEnd (text : List Char) : trimEnd (trimEnd text) = trimEnd text := by
  simp [trimEnd, dropEndWhile, List.dropWhile_idempotent]

theorem trimEnd_concat_blank {c : Char} (h : isBlank c = true) (text : List Char) :
    trimEnd (text ++ [c]) = trimEnd text := by
  simp [trimEnd, dropEndWhile, h]

theorem trimStart_cons_blank {c : Char} (h : isBlank c = true) (text : List Char) :
    trimStart (c :: text) = trimStart text := by
  simp [trimStart, h]

theorem trimStart_blanks (h : ∀ c ∈ blanks, isBlank c = true) (text : List Char) :
    trimStart (blanks ++ text) = trimStart text :=
  List.dropWhile_append_of_pos h

theorem trimEnd_blanks (h : ∀ c ∈ blanks, isBlank c = true) : trimEnd blanks = [] := by
  have hall : blanks.reverse.dropWhile isBlank = [] := by
    rw [List.dropWhile_eq_nil_iff]
    intro c hc
    exact h c (List.mem_reverse.1 hc)
  rw [trimEnd, dropEndWhile, hall, List.reverse_nil]

/-- white space at the end makes no difference -/
theorem trimEnd_append_blanks (h : ∀ c ∈ blanks, isBlank c = true) (text : List Char) :
    trimEnd (text ++ blanks) = trimEnd text := by
  unfold trimEnd dropEndWhile
  rw [List.reverse_append, List.dropWhile_append_of_pos]
  intro c hc
  exact h c (List.mem_reverse.1 hc)

/-- what is in front of a text that is not all white space stays -/
theorem trimEnd_append (h : trimEnd text ≠ []) (front : List Char) :
    trimEnd (front ++ text) = front ++ trimEnd text := by
  unfold trimEnd dropEndWhile at h ⊢
  rw [ne_eq, List.reverse_eq_nil_iff] at h
  rw [List.reverse_append, List.dropWhile_append, if_neg (by simpa using h), List.reverse_append, List.reverse_reverse]

/-- the white space that is cut off at the end of a text -/
theorem exists_blanks (text : List Char) :
    ∃ blanks, text = trimEnd text ++ blanks ∧ ∀ c ∈ blanks, isBlank c = true :=
  (exists_cut isBlank text).1

theorem trimEnd_eq_nil_iff : trimEnd text = [] ↔ ∀ c ∈ text, isBlank c = true := by
  constructor
  · intro hnone
    obtain ⟨blanks, hsplit, hblanks⟩ := exists_blanks text
    rwa [hsplit, hnone, List.nil_append]
  · exact trimEnd_blanks

/-- a text that trimming leaves as it is has no white space at either end -/
theorem trim_ends (h : trim text = text) : trimStart text = text ∧ trimEnd text = text := by
  have hfront : text.takeWhile isBlank ++ trimStart text = text := List.takeWhile_append_dropWhile
  obtain ⟨blanks, hsplit, -⟩ := exists_blanks (trimStart text)
  rw [← trim, h] at hsplit
  have hlength := congrArg List.length hfront
  rw [hsplit] at hlength
  simp only [List.length_append] at hlength
  have hnone : blanks = [] := List.eq_nil_of_length_eq_zero (by omega)
  rw [hnone, List.append_nil] at hsplit
  refine ⟨hsplit, ?_⟩
  rwa [trim, hsplit] at h

/-- white space at either end makes no difference -/
theorem trim_cons_blank {c : Char} (h : isBlank c = true) (text : List Char) : trim (c :: text) = trim text := by
  rw [trim, trimStart_cons_blank h, trim]

theorem trim_concat_blank {c : Char} (h : isBlank c = true) (text : List Char) : trim (text ++ [c]) = trim text := by
  have hnone : [c].dropWhile isBlank = [] := by simp [h]
  unfold trim trimStart
  rw [List.dropWhile_append]
  split_ifs with hblank
  · rw [hnone, List.isEmpty_iff.1 hblank]
  · exact trimEnd_concat_blank h _

/-- white space around a text that has none at its ends is cut off, and no more -/
theorem trim_between {front behind : List Char} (hfront : ∀ c ∈ front, isBlank c = true)
    (hbehind : ∀ c ∈ behind, isBlank c = true) (hhead : ∀ c ∈ text.head?, isBlank c = false)
    (hlast : ∀ c ∈ text.getLast?, isBlank c = false) : trim (front ++ (text ++ behind)) = text :=
  cut_between hfront hbehind hhead hlast

theorem trim_trim (text : List Char) : trim (trim text) = trim text := by
  obtain ⟨front, middle, behind, rfl, hblank, hhead, hlast⟩ := exists_between isBlank text
  obtain ⟨hfront, hbehind⟩ := List.forall_mem_append.1 hblank
  have hmiddle : trim ([] ++ (middle ++ [])) = middle :=
    trim_between (List.forall_mem_nil _) (List.forall_mem_nil _) hhead hlast
  rw [List.nil_append, List.append_nil] at hmiddle
  rw [trim_between hfront hbehind hhead hlast, hmiddle]

/-- what a text starts with behind its white space is in its front, or in what follows a front of white space -/
theorem trimStart_append_eq_cons {c : Char} {behind left : List Char} (h : trimStart (text ++ behind) = c :: left) :
    (∃ tail, trimStart text = c :: tail ∧ left = tail ++ behind) ∨ trimStart behind = c :: left := by
  unfold trimStart at h ⊢
  rw [List.dropWhile_append] at h
  split_ifs at h
  · exact Or.inr h
  · next hsome =>
    obtain ⟨d, tail, htail⟩ := List.exists_cons_of_ne_nil (mt List.isEmpty_iff.2 hsome)
    rw [htail] at h ⊢
    obtain ⟨rfl, rfl⟩ := List.cons.inj h
    exact Or.inl ⟨tail, rfl, rfl⟩

/-- nothing comes in by trimming -/
theorem mem_of_mem_trimStart {c : Char} (h : c ∈ trimStart text) : c ∈ text :=
  (List.dropWhile_sublist _).mem h

theorem mem_of_mem_trim {c : Char} (h : c ∈ trim text) : c ∈ text := by
  unfold trim trimEnd dropEndWhile at h
  rw [List.mem_reverse] at h
  have hstart := List.mem_reverse.1 ((List.dropWhile_sublist _).mem h)
  exact (List.dropWhile_sublist _).mem hstart

/-- a character that is no white space stays -/
theorem mem_trimEnd {c : Char} (hc : isBlank c = false) (h : c ∈ text) : c ∈ trimEnd text := by
  obtain ⟨blanks, htext, hblanks⟩ := exists_blanks text
  rw [htext] at h
  rcases List.mem_append.1 h with hmem | hmem
  · exact hmem
  · rw [hblanks c hmem] at hc
    cases hc

theorem mem_trimStart {c : Char} (hc : isBlank c = false) (h : c ∈ text) : c ∈ trimStart text := by
  have hsplit : text.takeWhile isBlank ++ trimStart text = text := List.takeWhile_append_dropWhile
  rw [← hsplit] at h
  rcases List.mem_append.1 h with hmem | hmem
  · rw [List.mem_takeWhile_imp hmem] at hc
    cases hc
  · exact hmem

theorem mem_trim {c : Char} (hc : isBlank c = false) (h : c ∈ text) : c ∈ trim text :=
  mem_trimEnd hc (mem_trimStart hc h)

/-! ## fronts -/

variable {front rest : List Char} {p : Char → Bool}

theorem stops_cons {c : Char} (h : p c = false) (rest : List Char) : ∀ d ∈ (c :: rest).head?, p d = false := by
  intro d hd
  cases hd
  exact h

/-- the longest front of a text ends in it when the text behind starts with another character -/
theorem takeWhile_append_stop (hstop : ∀ c ∈ rest.head?, p c = false) (text : List Char) :
    (text ++ rest).takeWhile p = text.takeWhile p ∧ (text ++ rest).dropWhile p = text.dropWhile p ++ rest := by
  induction text with
  | nil =>
    cases rest with
    | nil => exact ⟨rfl, rfl⟩
    | cons c rest =>
      have hc := hstop c rfl
      simp [hc]
  | cons c text ih =>
    by_cases hc : p c = true
    · simp [hc, ih]
    · simp [hc]

/-- a front is read back in front of another character -/
theorem takeWhile_front (hfront : ∀ c ∈ front, p c = true) (hstop : ∀ c ∈ rest.head?, p c = false) :
    (front ++ rest).takeWhile p = front ∧ (front ++ rest).dropWhile p = rest := by
  obtain ⟨htake, hdrop⟩ := takeWhile_append_stop hstop front
  rw [htake, hdrop, List.takeWhile_eq_self_iff.2 hfront, List.dropWhile_eq_nil_iff.2 hfront]
  exact ⟨rfl, rfl⟩

end Text

end Templating
