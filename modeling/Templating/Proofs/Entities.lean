/-
Text inside markup, read back.

Five characters are written as entities. `unescapeChars` goes over a text once, from left to right, and puts the
character back for every entity that it comes to.

- `escapeChar_cases`: a character is written as itself or as an entity that stands for it.
- `unescapeChars_escapeChars`: so what is written is read back, and no two texts are written alike.
- `not_mem_escapeChars`, `entity_of_ampersand`: what is written holds no character of markup, and an ampersand only
  where an entity starts.
-/
import Mathlib.Tactic.Common
import Templating.Text.Html
import Templating.Text.Scan

namespace Templating.Text

/-- the entities that stand for characters -/
def entities : List (List Char) :=
  ["&amp;".toList, "&lt;".toList, "&gt;".toList, "&#34;".toList, "&#39;".toList]

/-- the characters that no text inside markup holds -/
def markupChars : List Char :=
  ['<', '>', '"', '\'']

/-- the text with the characters that its entities stand for -/
def unescapeChars : List Char → List Char
  | '&' :: 'a' :: 'm' :: 'p' :: ';' :: rest => '&' :: unescapeChars rest
  | '&' :: 'l' :: 't' :: ';' :: rest => '<' :: unescapeChars rest
  | '&' :: 'g' :: 't' :: ';' :: rest => '>' :: unescapeChars rest
  | '&' :: '#' :: '3' :: '4' :: ';' :: rest => '"' :: unescapeChars rest
  | '&' :: '#' :: '3' :: '9' :: ';' :: rest => '\'' :: unescapeChars rest
  | c :: rest => c :: unescapeChars rest
  | [] => []

/-- `unescapeChars` on strings -/
def unescapeHtml (text : String) : String :=
  String.ofList (unescapeChars text.toList)

theorem unescapeChars_cons {c : Char} (h : c ≠ '&') (rest : List Char) :
    unescapeChars (c :: rest) = c :: unescapeChars rest := by
  conv_lhs => unfold unescapeChars
  split <;> simp_all

/-- **A character** is written as itself, when it is none of the five, or as an entity that stands for it. -/
theorem escapeChar_cases (c : Char) :
    (escapeChar c = [c] ∧ c ≠ '&' ∧ c ∉ markupChars) ∨
      escapeChar c ∈ entities ∧ ∀ rest, unescapeChars (escapeChar c ++ rest) = c :: unescapeChars rest := by
  unfold escapeChar
  split
  · exact .inr ⟨by decide, fun rest => rfl⟩
  · exact .inr ⟨by decide, fun rest => rfl⟩
  · exact .inr ⟨by decide, fun rest => rfl⟩
  · exact .inr ⟨by decide, fun rest => rfl⟩
  · exact .inr ⟨by decide, fun rest => rfl⟩
  · exact .inl ⟨rfl, by simp_all [markupChars]⟩

theorem unescapeChars_escapeChar (c : Char) (rest : List Char) :
    unescapeChars (escapeChar c ++ rest) = c :: unescapeChars rest := by
  rcases escapeChar_cases c with ⟨hself, hc, -⟩ | ⟨-, hback⟩
  · rw [hself]
    exact unescapeChars_cons hc rest
  · exact hback rest

/-- **What is written is read back.** -/
theorem unescapeChars_escapeChars (text : List Char) : unescapeChars (escapeChars text) = text := by
  induction text with
  | nil => rfl
  | cons c text ih => rw [escapeChars_cons, unescapeChars_escapeChar, ih]

theorem unescapeHtml_escapeHtml (text : String) : unescapeHtml (escapeHtml text) = text := by
  simp [unescapeHtml, escapeHtml, unescapeChars_escapeChars]

/-- **What is written holds no character of markup.** -/
theorem not_mem_escapeChars {c : Char} (hc : c ∈ markupChars) (text : List Char) : c ∉ escapeChars text := by
  have hentities : ∀ entity ∈ entities, ∀ c ∈ markupChars, c ∉ entity := by simp [entities, markupChars]
  intro hmem
  obtain ⟨d, -, hd⟩ := List.mem_flatMap.1 hmem
  rcases escapeChar_cases d with ⟨hself, -, hplain⟩ | ⟨hentity, -⟩
  · rw [hself, List.mem_singleton] at hd
    exact hplain (hd ▸ hc)
  · exact hentities _ hentity c hc hd

/-- **An ampersand stands only where an entity starts.** -/
theorem entity_of_ampersand {text front rest : List Char} (h : escapeChars text = front ++ '&' :: rest) :
    ∃ entity ∈ entities, entity <+: '&' :: rest := by
  have hentities : ∀ entity ∈ entities, '&' ∉ entity.tail := by decide
  induction text generalizing front with
  | nil => simp at h
  | cons c text ih =>
    rw [escapeChars_cons] at h
    rcases List.append_eq_append_iff.1 h with ⟨front', rfl, hrest⟩ | ⟨tail, hc, hrest⟩
    · exact ih hrest
    · cases tail with
      | nil =>
        have hstart : escapeChars text = [] ++ '&' :: rest := hrest.symm
        exact ih hstart
      | cons d tail =>
        obtain ⟨rfl, hrest⟩ := List.cons.inj hrest
        rcases escapeChar_cases c with ⟨hself, hne, -⟩ | ⟨hentity, -⟩
        · -- a character that is written as itself is no ampersand
          have hmem : '&' ∈ escapeChar c := by simp [hc]
          rw [hself, List.mem_singleton] at hmem
          exact absurd hmem.symm hne
        · cases front with
          | nil => exact ⟨escapeChar c, hentity, escapeChars text, h⟩
          | cons d front => exact absurd (by simp [hc]) (hentities _ hentity)

end Templating.Text
