/-
Looking for a mark inside a text.

A search answers with both sides of the first place where the mark stands; `cutAt?_eq_some` puts the text together
again, and `cutAt?_eq_some_iff` says that the place is the first.
-/

namespace Templating.Text

/-- what follows `mark`, when the text starts with it -/
def afterMark? : (mark text : List Char) → Option (List Char)
  | [], text => some text
  | _ :: _, [] => none
  | m :: mark, c :: text => if m = c then afterMark? mark text else none

/-- the text before the first `mark` and the text after it -/
def cutAt? (mark : List Char) : List Char → Option (List Char × List Char)
  | [] => if mark.isEmpty then some ([], []) else none
  | c :: rest =>
    match afterMark? mark (c :: rest) with
    | some after => some ([], after)
    | none => (cutAt? mark rest).map fun (before, after) => (c :: before, after)

theorem afterMark?_eq_some {mark text after : List Char} :
    afterMark? mark text = some after ↔ mark ++ after = text := by
  induction mark generalizing text with
  | nil => simp [afterMark?, eq_comm]
  | cons m mark ih =>
    cases text with
    | nil => simp [afterMark?]
    | cons c text =>
      by_cases h : m = c
      · simp [afterMark?, h, ih]
      · simp [afterMark?, h]

theorem cutAt?_eq_some {mark text before after : List Char} (h : cutAt? mark text = some (before, after)) :
    text = before ++ mark ++ after := by
  induction text generalizing before with
  | nil =>
    simp only [cutAt?] at h
    split at h
    · rename_i hmark
      simp_all
    · simp at h
  | cons c rest ih =>
    simp only [cutAt?] at h
    split at h
    · rename_i found hfound
      simp only [Option.some.injEq, Prod.mk.injEq] at h
      obtain ⟨rfl, rfl⟩ := h
      simpa using (afterMark?_eq_some.1 hfound).symm
    · obtain ⟨⟨b, a⟩, hcut, heq⟩ := Option.map_eq_some_iff.1 h
      simp only [Prod.mk.injEq] at heq
      obtain ⟨rfl, rfl⟩ := heq
      simp [ih hcut]

/-- the place that is cut at is the first one -/
theorem length_le_of_cutAt? {mark text before after : List Char} (h : cutAt? mark text = some (before, after))
    {front back : List Char} (htext : text = front ++ mark ++ back) : before.length ≤ front.length := by
  induction text generalizing before front with
  | nil =>
    obtain ⟨rfl, rfl⟩ : before = [] ∧ after = [] := by
      simp only [cutAt?] at h
      split at h
      · simpa [eq_comm] using h
      · cases h
    exact Nat.zero_le _
  | cons c text ih =>
    simp only [cutAt?] at h
    split at h
    · obtain ⟨rfl, -⟩ : before = [] ∧ _ := by simpa [eq_comm] using h
      exact Nat.zero_le _
    · rename_i hnone
      obtain ⟨⟨before', after'⟩, hcut, heq⟩ := Option.map_eq_some_iff.1 h
      cases heq
      cases front with
      | nil =>
        have hmark : afterMark? mark (c :: text) = some back := afterMark?_eq_some.2 (by simpa using htext.symm)
        rw [hnone] at hmark
        cases hmark
      | cons d front =>
        rw [List.cons_append, List.cons_append] at htext
        obtain ⟨rfl, hbehind⟩ := List.cons.inj htext
        exact Nat.succ_le_succ (ih hcut hbehind)

/-- a text with the mark in it is cut -/
theorem cutAt?_isSome (mark front back : List Char) : (cutAt? mark (front ++ mark ++ back)).isSome := by
  induction front with
  | nil =>
    have hmark : afterMark? mark (mark ++ back) = some back := afterMark?_eq_some.2 rfl
    rw [List.nil_append]
    cases htext : mark ++ back with
    | nil =>
      have hempty : mark = [] := (List.append_eq_nil_iff.1 htext).1
      simp [cutAt?, hempty]
    | cons c text =>
      rw [htext] at hmark
      simp [cutAt?, hmark]
  | cons c front ih =>
    simp only [List.cons_append, cutAt?]
    split
    · rfl
    · simpa using ih

/-- a text is cut when the mark is in it -/
theorem cutAt?_isSome_iff {mark text : List Char} : (cutAt? mark text).isSome ↔ mark <:+: text := by
  constructor
  · intro h
    obtain ⟨⟨before, after⟩, hcut⟩ := Option.isSome_iff_exists.1 h
    exact ⟨before, after, (cutAt?_eq_some hcut).symm⟩
  · rintro ⟨front, back, rfl⟩
    exact cutAt?_isSome mark front back

theorem cutAt?_eq_none_iff {mark text : List Char} : cutAt? mark text = none ↔ ¬ mark <:+: text :=
  Option.not_isSome_iff_eq_none.symm.trans (not_congr cutAt?_isSome_iff)

/-- **A cut** is at the first place of the mark. -/
theorem cutAt?_eq_some_iff {mark text before after : List Char} :
    cutAt? mark text = some (before, after) ↔
      text = before ++ mark ++ after ∧
        ∀ front back, text = front ++ mark ++ back → before.length ≤ front.length := by
  constructor
  · intro h
    exact ⟨cutAt?_eq_some h, fun front back htext => length_le_of_cutAt? h htext⟩
  · rintro ⟨htext, hfirst⟩
    obtain ⟨⟨before', after'⟩, hcut⟩ := Option.isSome_iff_exists.1 (cutAt?_isSome mark before after)
    rw [← htext] at hcut
    have hsplit := cutAt?_eq_some hcut
    have hlength : before'.length = before.length :=
      Nat.le_antisymm (length_le_of_cutAt? hcut htext) (hfirst _ _ hsplit)
    have hboth : before' ++ (mark ++ after') = before ++ (mark ++ after) := by
      rw [← List.append_assoc, ← List.append_assoc, ← hsplit, ← htext]
    obtain ⟨rfl, hrest⟩ := List.append_inj hboth hlength
    obtain rfl := List.append_cancel_left hrest
    exact hcut

/-- a cut is the same with any text behind its mark -/
theorem cutAt?_front {mark text before after : List Char} (h : cutAt? mark text = some (before, after))
    (more : List Char) : cutAt? mark (before ++ mark ++ more) = some (before, more) := by
  obtain ⟨htext, hfirst⟩ := cutAt?_eq_some_iff.1 h
  refine cutAt?_eq_some_iff.2 ⟨rfl, fun front back hsplit => ?_⟩
  rcases List.append_eq_append_iff.1 hsplit with ⟨middle, hfront, -⟩ | ⟨middle, hbefore, -⟩
  · have hlength := congrArg List.length hfront
    simp only [List.length_append] at hlength
    omega
  · exact hfirst front (middle ++ after) (by rw [htext, hbefore, List.append_assoc _ middle])

/-- a cut stays where it is with more text behind -/
theorem cutAt?_append {mark text before after : List Char} (h : cutAt? mark text = some (before, after))
    (more : List Char) : cutAt? mark (text ++ more) = some (before, after ++ more) := by
  rw [cutAt?_eq_some h, List.append_assoc]
  exact cutAt?_front h (after ++ more)

end Templating.Text
