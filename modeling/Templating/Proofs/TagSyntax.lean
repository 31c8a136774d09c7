/-
The syntax of component markup, apart from the reader that looks for it.

A closing tag is `</`, the prefix, a name and `>`. An opening tag has a body behind its name, in which no other tag
starts and in which `>` stands only inside double quotes; a body that ends in a slash, white space behind it not
counted, closes the tag itself. `GoesOn` is the part of a body that does not end the tag yet: what an unfinished tag
consists of.

- `tagBody?_eq_some_iff`, `bodyAttributes_eq_iff`: the body of a tag, and what is in it.
- `pieceAt?_eq_some_iff`: what is read at the start of a text is a tag or a verbatim region by the syntax, and every one
  of them is read.
- `not_mem_of_isTag`: no tag starts inside a tag.
-/
import Templating.Markup.Expansion
import Templating.Proofs.Trimming

namespace Templating

namespace Markup

/-! ## bodies of tags -/

/-- inside double quotes behind a text, when it starts inside them or not -/
def quotedBehind (quoted : Bool) (text : List Char) : Bool :=
  text.foldl (fun quoted c => if c = '"' then !quoted else quoted) quoted

/-- a tag goes on behind the text: no other tag starts in it, and no `>` outside quotes ends it -/
structure GoesOn (quoted : Bool) (text : List Char) : Prop where
  no_tag : '<' ∉ text
  end_quoted : ∀ front back, text = front ++ '>' :: back → quotedBehind quoted front = true

/-- the body of a tag, behind its name and up to the `>` that ends it -/
structure IsTagBody (body : List Char) : Prop where
  goesOn : GoesOn false body
  closed : quotedBehind false body = false

/-- what a body says: its attribute text, and whether it ends in a slash -/
def SaysOf (body attributes : List Char) (selfClosing : Bool) : Prop :=
  if selfClosing then
    ∃ before blanks, body = before ++ '/' :: blanks ∧ (∀ c ∈ blanks, Text.isBlank c = true) ∧
      attributes = Text.trim before
  else
    attributes = Text.trim body ∧
      ∀ before blanks, (∀ c ∈ blanks, Text.isBlank c = true) → body ≠ before ++ '/' :: blanks

variable {quoted : Bool} {c : Char} {text front rest body name attributes : List Char}

@[simp] theorem quotedBehind_nil : quotedBehind quoted [] = quoted := rfl

@[simp] theorem quotedBehind_cons :
    quotedBehind quoted (c :: text) = quotedBehind (if c = '"' then !quoted else quoted) text := rfl

theorem goesOn_nil : GoesOn quoted [] where
  no_tag := List.not_mem_nil
  end_quoted := by simp

theorem goesOn_cons : GoesOn quoted (c :: text) ↔
    c ≠ '<' ∧ (c = '>' → quoted = true) ∧ GoesOn (if c = '"' then !quoted else quoted) text := by
  constructor
  · intro h
    refine ⟨fun hc => h.no_tag (by simp [hc]), fun hc => h.end_quoted [] text (by simp [hc]), ?_⟩
    refine ⟨fun hmem => h.no_tag (List.mem_cons_of_mem _ hmem), fun front back htext => ?_⟩
    exact h.end_quoted (c :: front) back (by rw [htext, List.cons_append])
  · rintro ⟨htag, hend, hrest⟩
    refine ⟨fun hmem => ?_, fun front back htext => ?_⟩
    · rcases List.mem_cons.1 hmem with heq | hmem
      · exact htag heq.symm
      · exact hrest.no_tag hmem
    · cases front with
      | nil => exact hend (List.cons.inj htext).1
      | cons d front =>
        obtain ⟨rfl, hbehind⟩ := List.cons.inj htext
        exact hrest.end_quoted front back hbehind

/-- **The body of a tag** ends at the first `>` outside quotes, when no other tag starts before it. -/
theorem tagBody?_eq_some_iff : tagBody? quoted text = some body ↔
    GoesOn quoted body ∧ quotedBehind quoted body = false ∧ ∃ rest, text = body ++ '>' :: rest := by
  induction text generalizing quoted body with
  | nil => simp [tagBody?]
  | cons c text ih =>
    rw [tagBody?]
    by_cases hend : c = '>' ∧ !quoted
    · obtain ⟨rfl, hquoted⟩ := hend
      have hout : quoted = false := by simpa using hquoted
      subst hout
      rw [if_pos (by simp), Option.some.injEq]
      constructor
      · rintro rfl
        exact ⟨goesOn_nil, rfl, text, rfl⟩
      · rintro ⟨hgoes, -, rest, htext⟩
        cases body with
        | nil => rfl
        | cons d body =>
          obtain ⟨rfl, -⟩ := List.cons.inj htext
          exact absurd ((goesOn_cons.1 hgoes).2.1 rfl) (by simp)
    · rw [if_neg hend]
      by_cases htag : c = '<'
      · rw [if_pos htag]
        subst htag
        constructor
        · intro h
          cases h
        · rintro ⟨hgoes, hquoted, rest, htext⟩
          cases body with
          | nil => exact absurd (List.cons.inj htext).1 (by decide)
          | cons d body =>
            obtain ⟨rfl, -⟩ := List.cons.inj htext
            exact absurd rfl (goesOn_cons.1 hgoes).1
      · rw [if_neg htag, Option.map_eq_some_iff]
        constructor
        · rintro ⟨tail, htail, rfl⟩
          obtain ⟨hgoes, hquoted, rest, rfl⟩ := ih.1 htail
          have hc : c = '>' → quoted = true := fun hc => by simpa [hc] using hend
          exact ⟨goesOn_cons.2 ⟨htag, hc, hgoes⟩, hquoted, rest, rfl⟩
        · rintro ⟨hgoes, hquoted, rest, htext⟩
          cases body with
          | nil =>
            obtain ⟨rfl, -⟩ := List.cons.inj htext
            exact absurd ⟨rfl, by simpa using hquoted⟩ hend
          | cons d body =>
            obtain ⟨rfl, hbehind⟩ := List.cons.inj htext
            exact ⟨body, ih.2 ⟨(goesOn_cons.1 hgoes).2.2, hquoted, rest, hbehind⟩, rfl⟩

/-! ## attributes of a body -/

theorem bodyAttributes_slash (before : List Char) {blanks : List Char} (h : ∀ c ∈ blanks, Text.isBlank c = true) :
    bodyAttributes (before ++ '/' :: blanks) = (Text.trim before, true) := by
  have hslash : Text.isBlank '/' = false := by decide
  have hend : Text.trimEnd (before ++ '/' :: blanks) = before ++ ['/'] := by
    rw [Text.trimEnd_append_cons hslash, Text.trimEnd_blanks h]
  rw [bodyAttributes, hend, List.reverse_append]
  simp

theorem bodyAttributes_open
    (h : ∀ before blanks, (∀ c ∈ blanks, Text.isBlank c = true) → body ≠ before ++ '/' :: blanks) :
    bodyAttributes body = (Text.trim body, false) := by
  unfold bodyAttributes
  split
  · next before hreverse =>
    obtain ⟨blanks, hbody, hblanks⟩ := Text.exists_blanks body
    have hend : Text.trimEnd body = before.reverse ++ ['/'] := by
      rw [← List.reverse_reverse (Text.trimEnd body), hreverse, List.reverse_cons]
    rw [hend, List.append_assoc] at hbody
    exact absurd hbody (h before.reverse blanks hblanks)
  · rfl

/-- **What a body says** is read off its end. -/
theorem bodyAttributes_eq_iff {selfClosing : Bool} :
    bodyAttributes body = (attributes, selfClosing) ↔ SaysOf body attributes selfClosing := by
  by_cases hslash : ∃ before blanks, (∀ c ∈ blanks, Text.isBlank c = true) ∧ body = before ++ '/' :: blanks
  · obtain ⟨before, blanks, hblanks, hbody⟩ := hslash
    constructor
    · intro h
      rw [hbody, bodyAttributes_slash before hblanks] at h
      cases h
      exact ⟨before, blanks, hbody, hblanks, rfl⟩
    · intro h
      cases selfClosing with
      | false => exact absurd hbody (h.2 before blanks hblanks)
      | true =>
        obtain ⟨before', blanks', rfl, hblanks', rfl⟩ := h
        exact bodyAttributes_slash before' hblanks'
  · have hnone : ∀ before blanks, (∀ c ∈ blanks, Text.isBlank c = true) → body ≠ before ++ '/' :: blanks :=
      fun before blanks hblanks hbody => hslash ⟨before, blanks, hblanks, hbody⟩
    constructor
    · intro h
      rw [bodyAttributes_open hnone] at h
      cases h
      exact ⟨rfl, hnone⟩
    · intro h
      cases selfClosing with
      | false => rw [bodyAttributes_open hnone, h.1]
      | true =>
        obtain ⟨before, blanks, hbody, hblanks, -⟩ := h
        exact absurd hbody (hnone before blanks hblanks)

/-! ## tags -/

/-- the name of a component, or `slot` -/
structure IsName (name : List Char) : Prop where
  ne_nil : name ≠ []
  chars : ∀ c ∈ name, isNameChar c = true

/-- a text is a tag of markup, and which one -/
inductive IsTag (tagPrefix : List Char) : List Char → Event → Prop
  | closing {name : List Char} (hname : IsName name) :
    IsTag tagPrefix ('<' :: '/' :: tagPrefix ++ name ++ ['>']) (if name = slotName then .slotClosing else .closing name)
  | opening {name body attributes : List Char} {selfClosing : Bool} (hname : IsName name)
    (hbody : IsTagBody body) (hnext : ∀ c ∈ body.head?, isNameChar c = false)
    (hsaid : SaysOf body attributes selfClosing) :
    IsTag tagPrefix ('<' :: tagPrefix ++ name ++ body ++ ['>'])
      (if name = slotName then .slotOpening attributes selfClosing
        else if selfClosing then .selfClosing name attributes
        else .opening name attributes)

/-- a text is a verbatim region: it ends at the first end mark behind its start mark -/
def IsVerbatim (span : List Char) : Prop :=
  ∃ body, span = verbatimStart ++ body ++ verbatimEnd ∧
    ∀ front back, body ++ verbatimEnd = front ++ verbatimEnd ++ back → back = []

variable {tagPrefix marks span : List Char} {event : Event} {piece : Piece}

theorem not_isNameChar_end : isNameChar '>' = false := by
  decide

/-- a text is the longest name at its start, and what stands behind it -/
theorem exists_name (text : List Char) : ∃ name rest, text = name ++ rest ∧ (∀ c ∈ name, isNameChar c = true) ∧
    ∀ c ∈ rest.head?, isNameChar c = false := by
  refine ⟨text.takeWhile isNameChar, text.dropWhile isNameChar, List.takeWhile_append_dropWhile.symm, ?_, ?_⟩
  · intro c hc
    exact List.mem_takeWhile_imp hc
  · intro c hc
    have hnot := List.head?_dropWhile_not isNameChar text
    rw [Option.mem_def.1 hc] at hnot
    exact hnot

theorem closingTag?_eq_some_iff : closingTag? marks text = some piece ↔
    ∃ name rest, IsName name ∧ text = name ++ '>' :: rest ∧
      piece = ⟨marks ++ name ++ ['>'], if name = slotName then .slotClosing else .closing name⟩ := by
  constructor
  · intro h
    obtain ⟨name, rest, rfl, hname, hnext⟩ := exists_name text
    obtain ⟨htake, hdrop⟩ := Text.takeWhile_front hname hnext
    rw [closingTag?, htake, hdrop] at h
    by_cases hempty : name.isEmpty = true
    · rw [if_pos hempty] at h
      cases h
    · rw [if_neg hempty] at h
      split at h
      · next rest' =>
        cases h
        exact ⟨name, rest', ⟨by simpa using hempty, hname⟩, rfl, rfl⟩
      · cases h
  · rintro ⟨name, rest, hname, rfl, rfl⟩
    obtain ⟨htake, hdrop⟩ := Text.takeWhile_front hname.chars (Text.stops_cons not_isNameChar_end rest)
    have hempty : name.isEmpty = false := by simpa using hname.ne_nil
    simp [closingTag?, htake, hdrop, hempty]

theorem openingTag?_eq_some_iff : openingTag? marks text = some piece ↔
    ∃ name body rest attributes selfClosing, IsName name ∧ IsTagBody body ∧
      (∀ c ∈ body.head?, isNameChar c = false) ∧ SaysOf body attributes selfClosing ∧
      text = name ++ (body ++ '>' :: rest) ∧
      piece = ⟨marks ++ name ++ body ++ ['>'],
        if name = slotName then .slotOpening attributes selfClosing
        else if selfClosing then .selfClosing name attributes
        else .opening name attributes⟩ := by
  constructor
  · intro h
    obtain ⟨name, behind, rfl, hname, hnext⟩ := exists_name text
    obtain ⟨htake, hdrop⟩ := Text.takeWhile_front hname hnext
    rw [openingTag?, htake, hdrop] at h
    by_cases hempty : name.isEmpty = true
    · rw [if_pos hempty] at h
      cases h
    · rw [if_neg hempty] at h
      obtain ⟨body, hbody, rfl⟩ := Option.map_eq_some_iff.1 h
      obtain ⟨hgoes, hclosed, rest, rfl⟩ := tagBody?_eq_some_iff.1 hbody
      have hhead : ∀ c ∈ body.head?, isNameChar c = false := by
        intro c hc
        refine hnext c ?_
        rw [List.head?_append, Option.mem_def.1 hc]
        rfl
      exact ⟨name, body, rest, _, _, ⟨by simpa using hempty, hname⟩, ⟨hgoes, hclosed⟩, hhead,
        bodyAttributes_eq_iff.1 rfl, rfl, rfl⟩
  · rintro ⟨name, body, rest, attributes, selfClosing, hname, hbody, hnext, hsaid, rfl, rfl⟩
    have hbehind : ∀ c ∈ (body ++ '>' :: rest).head?, isNameChar c = false := by
      intro c hc
      cases body with
      | nil =>
        cases hc
        exact not_isNameChar_end
      | cons d body => exact hnext c hc
    obtain ⟨htake, hdrop⟩ := Text.takeWhile_front hname.chars hbehind
    have hempty : name.isEmpty = false := by simpa using hname.ne_nil
    have hread : tagBody? false (body ++ '>' :: rest) = some body :=
      tagBody?_eq_some_iff.2 ⟨hbody.goesOn, hbody.closed, rest, rfl⟩
    simp [openingTag?, htake, hdrop, hempty, hread, bodyAttributes_eq_iff.2 hsaid]

/-! ## what is read -/

theorem pieceAt?_closing {after : List Char} (h : Text.afterMark? ('<' :: '/' :: tagPrefix) text = some after) :
    pieceAt? tagPrefix text = closingTag? ('<' :: '/' :: tagPrefix) after := by
  have hverbatim : Text.afterMark? verbatimStart text = none := by
    rw [← Text.afterMark?_eq_some.1 h]
    rfl
  simp only [pieceAt?, hverbatim, h]

theorem pieceAt?_opening {after : List Char} (hclosing : Text.afterMark? ('<' :: '/' :: tagPrefix) text = none)
    (h : Text.afterMark? ('<' :: tagPrefix) text = some after) :
    pieceAt? tagPrefix text = openingTag? ('<' :: tagPrefix) after := by
  have hverbatim : Text.afterMark? verbatimStart text = none := by
    rw [← Text.afterMark?_eq_some.1 h]
    rfl
  simp only [pieceAt?, hverbatim, hclosing, h]

/-- a text that starts like a closing tag is no opening tag, whatever the prefix -/
theorem afterMark?_closing_none (hname : IsName name) (rest : List Char) :
    Text.afterMark? ('<' :: '/' :: tagPrefix) ('<' :: tagPrefix ++ (name ++ rest)) = none := by
  have hrotated : ∀ (front : List Char) (d : Char), '/' :: front = front ++ [d] → '/' = d := by
    intro front d h
    induction front with
    | nil => exact (List.cons.inj h).1
    | cons e front ih =>
      obtain ⟨rfl, htail⟩ := List.cons.inj h
      exact ih htail
  rw [Option.eq_none_iff_forall_ne_some]
  intro after hafter
  have htext := Text.afterMark?_eq_some.1 hafter
  obtain ⟨d, name', rfl⟩ := List.exists_cons_of_ne_nil hname.ne_nil
  have hsplit : ('/' :: tagPrefix) ++ after = (tagPrefix ++ [d]) ++ (name' ++ rest) := by simpa using htext
  have hslash : '/' = d := hrotated tagPrefix d (List.append_inj hsplit (by simp)).1
  have hd := hname.chars d (by simp)
  rw [← hslash] at hd
  exact absurd hd (by decide)

/-- a brace is the first character of a mark only -/
theorem eq_nil_of_brace {mark front back : List Char} (hmark : '\x7b' ∉ mark.tail)
    (h : mark = front ++ '\x7b' :: back) : front = [] := by
  cases front with
  | nil => rfl
  | cons d front =>
    rw [h] at hmark
    exact absurd (by simp) hmark

/-- no end mark starts in the body of a verbatim region, whatever stands behind the region -/
theorem length_le_of_ends (hends : ∀ front back, body ++ verbatimEnd = front ++ verbatimEnd ++ back → back = [])
    {front back : List Char} (h : body ++ verbatimEnd ++ rest = front ++ verbatimEnd ++ back) :
    body.length ≤ front.length := by
  by_contra hlt
  have hshort : (front ++ verbatimEnd).length ≤ (body ++ verbatimEnd).length := by
    simp only [List.length_append]
    omega
  obtain ⟨more, hmore⟩ : front ++ verbatimEnd <+: body ++ verbatimEnd :=
    List.prefix_of_prefix_length_le ⟨back, rfl⟩ ⟨rest, h⟩ hshort
  have hnone := hends front more hmore.symm
  have hlength := congrArg List.length hmore
  simp only [hnone, List.append_nil, List.length_append] at hlength
  omega

theorem verbatim_eq_some_iff {after : List Char} :
    (Text.cutAt? verbatimEnd after).map (fun found => Piece.mk (verbatimStart ++ found.1 ++ verbatimEnd) .verbatim) =
        some piece ↔
      (piece.event = .verbatim ∧ IsVerbatim piece.span) ∧ ∃ rest, verbatimStart ++ after = piece.span ++ rest := by
  rw [Option.map_eq_some_iff]
  constructor
  · rintro ⟨⟨body, rest⟩, hcut, rfl⟩
    obtain ⟨rfl, hfirst⟩ := Text.cutAt?_eq_some_iff.1 hcut
    refine ⟨⟨rfl, body, rfl, fun front back hends => ?_⟩, rest, by simp only [List.append_assoc]⟩
    have hlength := hfirst front (back ++ rest) (by rw [hends]; simp only [List.append_assoc])
    have hends := congrArg List.length hends
    simp only [List.length_append] at hends
    exact List.eq_nil_of_length_eq_zero (by omega)
  · rintro ⟨⟨hevent, body, hspan, hends⟩, rest, htext⟩
    rw [hspan] at htext
    have hafter : after = body ++ verbatimEnd ++ rest := by
      simp only [List.append_assoc] at htext ⊢
      exact List.append_cancel_left htext
    have hfirst : ∀ front back, after = front ++ verbatimEnd ++ back → body.length ≤ front.length :=
      fun front back hback => length_le_of_ends hends (hafter.symm.trans hback)
    obtain ⟨span, event⟩ := piece
    obtain rfl : event = .verbatim := hevent
    obtain rfl : span = verbatimStart ++ body ++ verbatimEnd := hspan
    exact ⟨(body, rest), Text.cutAt?_eq_some_iff.2 ⟨hafter, hfirst⟩, rfl⟩

/-- a tag at the start of a text is read -/
theorem pieceAt?_isTag (h : IsTag tagPrefix span event) (rest : List Char) :
    pieceAt? tagPrefix (span ++ rest) = some ⟨span, event⟩ := by
  cases h with
  | @closing name hname =>
    have hmark : Text.afterMark? ('<' :: '/' :: tagPrefix) ('<' :: '/' :: tagPrefix ++ name ++ ['>'] ++ rest) =
        some (name ++ '>' :: rest) := Text.afterMark?_eq_some.2 (by simp)
    rw [pieceAt?_closing hmark]
    exact closingTag?_eq_some_iff.2 ⟨name, rest, hname, rfl, rfl⟩
  | @opening name body attributes selfClosing hname hbody hnext hsaid =>
    have hopening : Text.afterMark? ('<' :: tagPrefix) ('<' :: tagPrefix ++ name ++ body ++ ['>'] ++ rest) =
        some (name ++ (body ++ '>' :: rest)) := Text.afterMark?_eq_some.2 (by simp)
    have hclosing : Text.afterMark? ('<' :: '/' :: tagPrefix)
        ('<' :: tagPrefix ++ name ++ body ++ ['>'] ++ rest) = none := by
      simpa using afterMark?_closing_none hname (body ++ '>' :: rest)
    rw [pieceAt?_opening hclosing hopening]
    exact openingTag?_eq_some_iff.2 ⟨name, body, rest, _, _, hname, hbody, hnext, hsaid, rfl, rfl⟩

/-- **What is read at the start of a text**: a tag or a verbatim region, whenever one stands there. -/
theorem pieceAt?_eq_some_iff : pieceAt? tagPrefix text = some piece ↔
    (IsTag tagPrefix piece.span piece.event ∨ piece.event = .verbatim ∧ IsVerbatim piece.span) ∧
      ∃ rest, text = piece.span ++ rest := by
  constructor
  · intro h
    simp only [pieceAt?] at h
    split at h
    · next after hafter =>
      rw [← Text.afterMark?_eq_some.1 hafter]
      obtain ⟨hverbatim, hrest⟩ := verbatim_eq_some_iff.1 h
      exact ⟨Or.inr hverbatim, hrest⟩
    · split at h
      · next after hafter =>
        rw [← Text.afterMark?_eq_some.1 hafter]
        obtain ⟨name, rest, hname, rfl, rfl⟩ := closingTag?_eq_some_iff.1 h
        exact ⟨Or.inl (.closing hname), rest, by simp⟩
      · split at h
        · next after hafter =>
          rw [← Text.afterMark?_eq_some.1 hafter]
          obtain ⟨name, body, rest, _, _, hname, hbody, hnext, hsaid, rfl, rfl⟩ := openingTag?_eq_some_iff.1 h
          exact ⟨Or.inl (.opening hname hbody hnext hsaid), rest, by simp⟩
        · cases h
  · rintro ⟨htag | ⟨hevent, hverbatim⟩, rest, rfl⟩
    · exact pieceAt?_isTag htag rest
    · have hspan := hverbatim
      obtain ⟨body, hbody, -⟩ := hspan
      have hmark : Text.afterMark? verbatimStart (piece.span ++ rest) = some (body ++ verbatimEnd ++ rest) :=
        Text.afterMark?_eq_some.2 (by rw [hbody]; simp only [List.append_assoc])
      simp only [pieceAt?, hmark]
      refine verbatim_eq_some_iff.2 ⟨⟨hevent, hverbatim⟩, rest, ?_⟩
      rw [hbody]
      simp only [List.append_assoc]

theorem isTag_of_isTag (h : IsTag tagPrefix span event) : event.isTag = true := by
  cases h <;> split_ifs <;> rfl

/-- what is read at the start of a text is no plain text -/
theorem pieceAt?_ne_text (h : pieceAt? tagPrefix text = some piece) : piece.event ≠ .text := by
  intro hevent
  obtain ⟨htag | ⟨hverbatim, -⟩, -⟩ := pieceAt?_eq_some_iff.1 h
  · have hall := isTag_of_isTag htag
    rw [hevent] at hall
    cases hall
  · rw [hevent] at hverbatim
    cases hverbatim

theorem not_mem_name (hname : IsName name) : '<' ∉ name :=
  fun hmem => absurd (hname.chars _ hmem) (by decide)

theorem exists_tail_of_isTag (h : IsTag tagPrefix span event) : ∃ tail, span = '<' :: tail := by
  cases h <;> exact ⟨_, rfl⟩

theorem brace_of_isVerbatim (h : IsVerbatim span) : ∃ tail, span = '\x7b' :: tail := by
  obtain ⟨body, rfl, -⟩ := h
  exact ⟨_, rfl⟩

/-- **No tag starts inside a tag.** -/
theorem not_mem_of_isTag (hbracket : '<' ∉ tagPrefix) (h : IsTag tagPrefix span event) :
    ∃ tail, span = '<' :: tail ∧ '<' ∉ tail := by
  cases h with
  | @closing name hname =>
    refine ⟨'/' :: tagPrefix ++ name ++ ['>'], by simp, ?_⟩
    simp [hbracket, not_mem_name hname]
  | @opening name body _ _ hname hbody =>
    refine ⟨tagPrefix ++ name ++ body ++ ['>'], by simp, ?_⟩
    simp [hbracket, not_mem_name hname, hbody.goesOn.no_tag]

end Markup

end Templating
