/-
A source whose markup is expanded twice.

An expansion has no `<` in it (`not_mem_expand`), so every tag of an expanded source starts in a text or in a verbatim
region of the source. A verbatim region stays one, or becomes part of a larger one (`IsCut.covered`). What is left is
text: an unfinished tag in front of another tag ends at that tag, and may go on once the tag behind it is written
without its bracket. So a second expansion changes nothing exactly when no such tag is completed, regions that the
expansion itself opened apart.

- `IsCut.codeOf_eq_iff`: a source stays as it is when it is cut into texts and verbatim regions.
- `untagged_iff`: an expanded source is cut so when every tag that was completed is hidden.
- `not_completed`: without an unfinished tag in front of a tag, none is completed.
- `expand_expand`: all of it for the expansion of a source.
-/
import Templating.Proofs.Cutting

namespace Templating.Markup

variable {tagPrefix text : List Char} {all front back : List Piece} {piece : Piece}

/-! ## what an expansion holds -/

theorem mem_of_readValue? {text value left : List Char} (h : readValue? text = some (value, left)) :
    (∀ c ∈ value, c ∈ text) ∧ ∀ c ∈ left, c ∈ text := by
  induction text generalizing value with
  | nil => cases h
  | cons d text ih =>
    rw [readValue?] at h
    split_ifs at h with hquote hline
    · cases h
      exact ⟨by simp, fun c hc => List.mem_cons_of_mem d hc⟩
    · obtain ⟨⟨value', left'⟩, hread, heq⟩ := Option.map_eq_some_iff.1 h
      cases heq
      obtain ⟨hvalue, hleft⟩ := ih hread
      refine ⟨fun c hc => ?_, fun c hc => List.mem_cons_of_mem d (hleft c hc)⟩
      rcases List.mem_cons.1 hc with rfl | hc
      · exact List.mem_cons_self
      · exact List.mem_cons_of_mem d (hvalue c hc)

theorem mem_of_readAttribute? {text left : List Char} {a : Attribute} (h : readAttribute? text = some (a, left)) :
    (∀ c ∈ a.name, c ∈ text) ∧ ∀ c ∈ a.value, c ∈ text := by
  have hbehind : ∀ c ∈ text.dropWhile isAttributeNameChar, c ∈ text := fun c hc => (List.dropWhile_sublist _).mem hc
  unfold readAttribute? at h
  split at h
  · cases h
  · next name hname =>
    split at h
    · next rest hassign =>
      split at h
      · next rest' hquote =>
        obtain ⟨⟨value, left'⟩, hread, heq⟩ := Option.map_eq_some_iff.1 h
        cases heq
        have hrest : ∀ c ∈ rest, c ∈ text := by
          intro c hc
          have hmem : c ∈ '=' :: rest := List.mem_cons_of_mem _ hc
          rw [← hassign] at hmem
          exact hbehind c ((List.dropWhile_sublist _).mem hmem)
        refine ⟨fun c hc => ?_, fun c hc => ?_⟩
        · exact (List.takeWhile_sublist isAttributeNameChar).mem hc
        · have hmem : c ∈ '"' :: rest' := List.mem_cons_of_mem _ ((mem_of_readValue? hread).1 c hc)
          rw [← hquote] at hmem
          exact hrest c ((List.dropWhile_sublist _).mem hmem)
      · cases h
    · cases h

theorem mem_of_attributesAfter {skip : Nat} {text : List Char} {a : Attribute} (h : a ∈ attributesAfter skip text) :
    (∀ c ∈ a.name, c ∈ text) ∧ ∀ c ∈ a.value, c ∈ text := by
  have hmore : ∀ {text : List Char} (d : Char), ((∀ c ∈ a.name, c ∈ text) ∧ ∀ c ∈ a.value, c ∈ text) →
      (∀ c ∈ a.name, c ∈ d :: text) ∧ ∀ c ∈ a.value, c ∈ d :: text := fun d hall =>
    ⟨fun c hc => List.mem_cons_of_mem d (hall.1 c hc), fun c hc => List.mem_cons_of_mem d (hall.2 c hc)⟩
  induction text generalizing skip with
  | nil => cases skip <;> cases h
  | cons d text ih =>
    cases skip with
    | succ skip => exact hmore d (ih h)
    | zero =>
      rw [attributesAfter] at h
      split at h
      · next found left hread =>
        rcases List.mem_cons.1 h with rfl | h
        · exact mem_of_readAttribute? hread
        · exact hmore d (ih h)
      · exact hmore d (ih h)

theorem mem_of_saysOf {body attributes : List Char} {selfClosing : Bool} (h : SaysOf body attributes selfClosing) :
    ∀ c ∈ attributes, c ∈ body := by
  intro c hc
  cases selfClosing with
  | false =>
    rw [h.1] at hc
    exact Text.mem_of_mem_trim hc
  | true =>
    obtain ⟨before, blanks, rfl, -, rfl⟩ := h
    exact List.mem_append_left _ (Text.mem_of_mem_trim hc)

theorem not_mem_quoted (h : '<' ∉ text) : '<' ∉ quoted text := by
  simp [quoted, h]

/-- an argument has no `<`, when the attribute has none -/
theorem not_mem_argument {a : Attribute} (hname : '<' ∉ a.name) (hvalue : '<' ∉ a.value) : '<' ∉ argument a := by
  unfold argument
  split
  · next key hkey =>
    have hnot : '<' ∉ key := by
      intro hmem
      rw [hkey] at hname
      exact hname (List.mem_cons_of_mem _ hmem)
    simp [quoted, hnot, hvalue]
  · simp [quoted, hname, hvalue]

theorem not_mem_componentStart {name attributes : List Char} (hname : '<' ∉ name) (hattributes : '<' ∉ attributes) :
    '<' ∉ componentStart name attributes := by
  have hall : ∀ a ∈ readAttributes attributes, '<' ∉ a.name ∧ '<' ∉ a.value := fun a ha =>
    ⟨fun hmem => hattributes ((mem_of_attributesAfter ha).1 _ hmem),
      fun hmem => hattributes ((mem_of_attributesAfter ha).2 _ hmem)⟩
  have harguments : '<' ∉ ((readAttributes attributes).filter (·.name ≠ slotDataName)).flatMap argument := by
    intro hmem
    obtain ⟨a, ha, hc⟩ := List.mem_flatMap.1 hmem
    obtain ⟨haname, havalue⟩ := hall a (List.mem_filter.1 ha).1
    exact not_mem_argument haname havalue hc
  unfold componentStart
  simp only [List.mem_append, not_or]
  refine ⟨⟨⟨⟨by decide, not_mem_quoted hname⟩, ?binding⟩, ?list⟩, by decide⟩
  case binding =>
    split
    · next item hitem =>
      have hmem := List.mem_of_getLast? hitem
      have hvalue := (hall item (List.mem_filter.1 hmem).1).2
      rw [List.mem_append, not_or]
      exact ⟨by decide, not_mem_quoted hvalue⟩
    · exact List.not_mem_nil
  case list =>
    split
    · exact List.not_mem_nil
    · rw [List.mem_append, not_or]
      exact ⟨by decide, harguments⟩

theorem not_mem_slotStart {attributes : List Char} (hattributes : '<' ∉ attributes) :
    '<' ∉ slotStart attributes := by
  have hname : '<' ∉ (((readAttributes attributes).find? fun item =>
      camelCase item.name = "name".toList).map (·.value)).getD [] := by
    intro hmem
    cases hfound : (readAttributes attributes).find? fun item => camelCase item.name = "name".toList with
    | none =>
      rw [hfound] at hmem
      exact List.not_mem_nil hmem
    | some item =>
      rw [hfound] at hmem
      exact hattributes ((mem_of_attributesAfter (List.mem_of_find?_eq_some hfound)).2 _ hmem)
  unfold slotStart
  dsimp only
  split
  · decide
  · simp only [List.mem_append, not_or]
    exact ⟨⟨by decide, not_mem_quoted hname⟩, by decide⟩

variable {span : List Char} {event : Event}

/-- **No tag starts in the expansion of a tag.** -/
theorem not_mem_expand (h : IsTag tagPrefix span event) : '<' ∉ (Piece.mk span event).expand := by
  have hend : '<' ∉ componentEnd := by decide
  have hslotEnd : '<' ∉ slotEnd := by decide
  cases h with
  | closing =>
    split_ifs
    · exact hslotEnd
    · exact hend
  | @opening name body attributes selfClosing hname hbody hnext hsaid =>
    have hattributes : '<' ∉ attributes := fun hmem => hbody.goesOn.no_tag (mem_of_saysOf hsaid _ hmem)
    have hcomponent := not_mem_componentStart (not_mem_name hname) hattributes
    have hslot := not_mem_slotStart hattributes
    split_ifs
    · cases selfClosing <;> simp [Piece.expand, hslot, hslotEnd]
    · simp [Piece.expand, hcomponent, hend]
    · exact hcomponent

/-- the expansion of a tag starts with a brace -/
theorem expand_head (h : IsTag tagPrefix span event) : ∃ tail, (Piece.mk span event).expand = '\x7b' :: tail := by
  cases h with
  | closing => split_ifs <;> exact ⟨_, rfl⟩
  | @opening name body attributes selfClosing hname hbody hnext hsaid =>
    split_ifs
    · obtain ⟨tail, htail⟩ : ∃ tail, slotStart attributes = '\x7b' :: tail := by
        unfold slotStart
        dsimp only
        split <;> exact ⟨_, rfl⟩
      exact ⟨_, by simp only [Piece.expand, htail]; rfl⟩
    · exact ⟨_, rfl⟩
    · exact ⟨_, rfl⟩

/-! ## sources without a tag -/

/-- texts and verbatim regions only -/
def Untagged (all : List Piece) : Prop :=
  ∀ piece ∈ all, piece.event.isTag = false

theorem expand_of_not_isTag (h : piece.event.isTag = false) : piece.expand = piece.span := by
  obtain ⟨span, event⟩ := piece
  cases event with
  | text | verbatim => rfl
  | _ => cases h

theorem codeOf_untagged (h : Untagged all) : codeOf all = sourceOf all := by
  induction all with
  | nil => rfl
  | cons piece all ih =>
    have hpiece := expand_of_not_isTag (h piece List.mem_cons_self)
    have hrest := ih fun next hnext => h next (List.mem_cons_of_mem _ hnext)
    rw [codeOf_cons, sourceOf_cons, hpiece, hrest]

/-- a source without an opening bracket is cut into no tag -/
theorem untagged_of_not_mem (h : IsCut tagPrefix all) (hbracket : '<' ∉ sourceOf all) : Untagged all := by
  intro piece hpiece
  rcases h.mem_cases hpiece with ⟨hevent, -⟩ | htag | ⟨hevent, -⟩
  · rw [hevent]
    rfl
  · obtain ⟨tail, hspan⟩ := exists_tail_of_isTag htag
    exact absurd (List.mem_flatMap.2 ⟨piece, hpiece, by simp [hspan]⟩) hbracket
  · rw [hevent]
    rfl

/-- pieces are untagged, or have a first tag -/
theorem untagged_or (all : List Piece) : Untagged all ∨
    ∃ front tag back, all = front ++ tag :: back ∧ Untagged front ∧ tag.event.isTag = true := by
  cases hfound : all.find? (·.event.isTag) with
  | none =>
    left
    intro piece hmem
    simpa using List.find?_eq_none.1 hfound piece hmem
  | some tag =>
    right
    obtain ⟨htag, front, back, rfl, hfront⟩ := List.find?_eq_some_iff_append.1 hfound
    exact ⟨front, tag, back, rfl, fun piece hmem => by simpa using hfront piece hmem, htag⟩

namespace IsCut

theorem isTag_of_mem (h : IsCut tagPrefix all) (hmem : piece ∈ all) (htag : piece.event.isTag = true) :
    IsTag tagPrefix piece.span piece.event := by
  rcases h.mem_cases hmem with ⟨htext, -⟩ | hall | ⟨hverbatim, -⟩
  · rw [htext] at htag
    cases htag
  · exact hall
  · rw [hverbatim] at htag
    cases htag

/-- **A source stays as it is** when no piece of it is a tag: the first tag has a bracket where its expansion has a
brace. -/
theorem codeOf_eq_iff (h : IsCut tagPrefix all) : codeOf all = sourceOf all ↔ Untagged all := by
  constructor
  · intro hsame
    rcases untagged_or all with hnone | ⟨front, tag, back, rfl, hfront, htag⟩
    · exact hnone
    · have hshape := h.isTag_of_mem (List.mem_append_right front List.mem_cons_self) htag
      obtain ⟨tail, hspan⟩ := exists_tail_of_isTag hshape
      obtain ⟨tail', hexpand⟩ := expand_head hshape
      have hexpand : tag.expand = '\x7b' :: tail' := hexpand
      rw [codeOf_append, sourceOf_append, codeOf_untagged hfront, codeOf_cons, sourceOf_cons, hspan, hexpand] at hsame
      have hheads := (List.cons.inj (List.append_cancel_left hsame)).1
      exact absurd hheads (by decide)
  · exact codeOf_untagged

end IsCut

/-! ## verbatim regions of an expanded source -/

/-- no start mark stands where an end mark stands -/
theorem end_ne_start (rest rest' : List Char) : verbatimEnd ++ rest ≠ verbatimStart ++ rest' := by
  intro h
  have hnone : Text.afterMark? verbatimStart (verbatimEnd ++ rest) = none := rfl
  rw [Text.afterMark?_eq_some.2 h.symm] at hnone
  cases hnone

/-- a verbatim region that starts inside another one ends in it -/
theorem IsVerbatim.length_le {region inner behind rest rest' : List Char} {c : Char} (hspan : IsVerbatim span)
    (hregion : IsVerbatim region) (hinner : span = inner ++ c :: behind)
    (hstarts : c :: behind ++ rest = region ++ rest') : region.length ≤ (c :: behind).length := by
  obtain ⟨tail, htail⟩ := brace_of_isVerbatim hregion
  obtain rfl : c = '\x7b' := by
    rw [htail] at hstarts
    exact (List.cons.inj hstarts).1
  obtain ⟨body, rfl, -⟩ := hspan
  obtain ⟨body', rfl, hends⟩ := hregion
  -- the place lies in front of the end mark of the region around it
  obtain ⟨left, hleft⟩ : ∃ left, '\x7b' :: behind = left ++ verbatimEnd := by
    rcases List.append_eq_append_iff.1 hinner with ⟨middle, -, hend⟩ | ⟨middle, -, hbehind⟩
    · obtain rfl := eq_nil_of_brace (by decide) hend
      exact ⟨[], hend.symm⟩
    · exact ⟨middle, hbehind⟩
  rw [hleft] at hstarts ⊢
  have hstarts : left ++ (verbatimEnd ++ rest) = verbatimStart ++ (body' ++ verbatimEnd ++ rest') := by
    simpa only [List.append_assoc] using hstarts
  -- and the start mark that stands there does not reach into that end mark
  obtain ⟨front, rfl⟩ : ∃ front, left = verbatimStart ++ front := by
    rcases List.append_eq_append_iff.1 hstarts with ⟨middle, hstart, hend⟩ | ⟨middle, hfront, -⟩
    · cases middle with
      | nil => exact ⟨[], by rw [hstart, List.append_nil, List.append_nil]⟩
      | cons d middle =>
        obtain rfl : '\x7b' = d := (List.cons.inj hend).1
        obtain rfl := eq_nil_of_brace (by decide) hstart
        rw [List.nil_append] at hstart
        rw [← hstart] at hend
        exact absurd hend (end_ne_start _ _)
    · exact ⟨middle, hfront⟩
  have hbody : front ++ verbatimEnd ++ rest = body' ++ verbatimEnd ++ rest' := by
    simpa only [List.append_assoc, List.append_cancel_left_eq] using hstarts
  have hfirst := length_le_of_ends hends hbody.symm
  simp only [List.length_append]
  omega

/-- where two splits of a text differ, the longer front goes on behind the shorter one -/
theorem exists_middle {place rest front back : List Char} (h : front ++ back = place ++ rest)
    (hlt : place.length < front.length) : ∃ c middle, front = place ++ c :: middle ∧ rest = c :: middle ++ back := by
  rcases List.append_eq_append_iff.1 h with ⟨middle, hlong, -⟩ | ⟨middle, hfront, hrest⟩
  · have hlength := congrArg List.length hlong
    rw [List.length_append] at hlength
    omega
  · cases middle with
    | nil =>
      rw [hfront, List.append_nil] at hlt
      exact absurd hlt (Nat.lt_irrefl _)
    | cons c middle => exact ⟨c, middle, hfront, hrest⟩

/-- **A verbatim region** that starts in the untagged front of a cut ends in that front. -/
theorem IsCut.covered {place region rest : List Char} (h : IsCut tagPrefix (front ++ back)) (hfront : Untagged front)
    (hregion : IsVerbatim region) (hsource : sourceOf (front ++ back) = place ++ region ++ rest)
    (hplace : place.length < (sourceOf front).length) : (place ++ region).length ≤ (sourceOf front).length := by
  rw [sourceOf_append, List.append_assoc] at hsource
  obtain ⟨c, middle, hmiddle, hbehind⟩ := exists_middle hsource hplace
  obtain ⟨front', piece, back', inside, behind, rfl, hpiece, hinside, rfl⟩ := exists_part hmiddle
  rw [← sourceOf] at hinside
  have hread : c :: behind ++ sourceOf (back' ++ back) = region ++ rest := by
    rw [hbehind, sourceOf_append]
    simp [sourceOf]
  have hcut : IsCut tagPrefix (front' ++ piece :: (back' ++ back)) := by simpa using h
  have hmem : piece ∈ front' ++ piece :: back' ++ back := by simp
  rcases h.mem_cases hmem with ⟨htext, -⟩ | htag | ⟨-, hverbatim⟩
  · obtain ⟨span, event⟩ := piece
    obtain rfl : event = .text := htext
    obtain rfl : span = inside ++ c :: behind := hpiece
    have hnone := hcut.no_piece (List.cons_ne_nil c behind)
    have hsome : pieceAt? tagPrefix (region ++ rest) = some ⟨region, .verbatim⟩ :=
      pieceAt?_eq_some_iff.2 ⟨Or.inr ⟨rfl, hregion⟩, rest, rfl⟩
    rw [hread, hsome] at hnone
    cases hnone
  · have hnot := hfront piece (by simp)
    rw [isTag_of_isTag htag] at hnot
    cases hnot
  · have hle := hverbatim.length_le hregion hpiece hread
    rw [hinside]
    simp only [sourceOf_append, sourceOf_cons, hpiece, List.length_append] at hle ⊢
    omega

/-! ## completed tags -/

/-- a tag starts at a place of the expanded source that was text -/
def Completed (tagPrefix : List Char) (all : List Piece) (place : Nat) : Prop :=
  ∃ front before behind back span event rest, all = front ++ ⟨before ++ '<' :: behind, .text⟩ :: back ∧
    '<' :: behind ++ codeOf back = span ++ rest ∧ IsTag tagPrefix span event ∧
    place = (codeOf front ++ before).length

variable {new : List Piece}

/-- the place of a tag is not hidden -/
theorem not_hidden (hnew : IsCut tagPrefix (front ++ piece :: back)) (htag : piece.event.isTag = true) :
    ¬ Hidden (front ++ piece :: back) (sourceOf front).length := by
  rintro ⟨front', region, back', hsplit, hverbatim, hbehind, hbefore⟩
  have hspan : piece.span ≠ [] := hnew.span_ne_nil (by simp)
  have hlength : 0 < piece.span.length := List.length_pos_iff.2 hspan
  have hsame : piece = region := by
    rcases List.append_eq_append_iff.1 hsplit with ⟨middle, rfl, hmiddle⟩ | ⟨middle, rfl, hmiddle⟩
    · cases middle with
      | nil => exact (List.cons.inj hmiddle).1
      | cons next middle =>
        obtain ⟨rfl, -⟩ := List.cons.inj hmiddle
        simp only [sourceOf_append, sourceOf_cons, List.length_append] at hbehind
        omega
    · cases middle with
      | nil => exact (List.cons.inj hmiddle).1.symm
      | cons next middle =>
        obtain ⟨rfl, -⟩ := List.cons.inj hmiddle
        simp only [sourceOf_append, sourceOf_cons, List.length_append] at hbefore
        omega
  rw [hsame, hverbatim] at htag
  cases htag

/-- the first tag of an expanded source is a completed one -/
theorem completed_of_tag (hall : IsCut tagPrefix all) (hnew : IsCut tagPrefix (front ++ piece :: back))
    (hcode : sourceOf (front ++ piece :: back) = codeOf all) (hfront : Untagged front)
    (htag : piece.event.isTag = true) : Completed tagPrefix all (sourceOf front).length := by
  have hshape := hnew.isTag_of_mem (by simp) htag
  obtain ⟨tail, hspan⟩ := exists_tail_of_isTag hshape
  have hplace : all.flatMap Piece.expand = sourceOf front ++ '<' :: (tail ++ sourceOf back) := by
    rw [← codeOf, ← hcode, sourceOf_append, sourceOf_cons, hspan, List.cons_append]
  obtain ⟨front', piece', back', inside, behind, rfl, hpiece, hbefore, hrest⟩ := exists_part hplace
  rw [← codeOf] at hbefore hrest
  obtain ⟨span', event'⟩ := piece'
  have hmem : (⟨span', event'⟩ : Piece) ∈ front' ++ ⟨span', event'⟩ :: back' := by simp
  rcases hall.mem_cases hmem with ⟨htext, -⟩ | hother | ⟨hverbatim, hregion⟩
  · obtain rfl : event' = .text := htext
    obtain rfl : span' = inside ++ '<' :: behind := hpiece
    refine ⟨front', inside, behind, back', piece.span, piece.event, sourceOf back, rfl, ?_, hshape, by rw [hbefore]⟩
    rw [hspan, List.cons_append, ← hrest, List.cons_append]
  · exact absurd (hpiece ▸ by simp) (not_mem_expand hother)
  · -- a verbatim region of the source is covered by the texts and regions in front of the tag
    obtain rfl : event' = .verbatim := hverbatim
    have hpiece : span' = inside ++ '<' :: behind := hpiece
    have hregion : IsVerbatim span' := hregion
    obtain ⟨d, inside', rfl⟩ : ∃ d inside', inside = d :: inside' := by
      cases inside with
      | nil =>
        obtain ⟨tail', hbrace⟩ := brace_of_isVerbatim hregion
        rw [hbrace] at hpiece
        exact absurd (List.cons.inj hpiece).1 (by decide)
      | cons d inside' => exact ⟨d, inside', rfl⟩
    have hsource : sourceOf (front ++ piece :: back) = codeOf front' ++ span' ++ codeOf back' := by
      rw [hcode, codeOf_append, codeOf_cons, List.append_assoc]
      rfl
    have hcovered := hnew.covered hfront hregion hsource (by rw [hbefore]; simp)
    rw [hbefore, hpiece] at hcovered
    simp only [List.length_append, List.length_cons] at hcovered
    omega

/-- **An expanded source** is cut into texts and verbatim regions when every completed tag is hidden. -/
theorem untagged_iff (hall : IsCut tagPrefix all) (hnew : IsCut tagPrefix new) (hcode : sourceOf new = codeOf all) :
    Untagged new ↔ ∀ place, Completed tagPrefix all place → Hidden new place := by
  constructor
  · rintro hnone place ⟨front, before, behind, back, span, event, rest, rfl, hstarts, htag, rfl⟩
    have hsource : sourceOf new = codeOf front ++ before ++ span ++ rest := by
      rw [hcode, codeOf_append, codeOf_cons, List.append_assoc, List.append_assoc, ← hstarts]
      simp [Piece.expand]
    obtain ⟨front', piece, back', inside, behind', rfl, hevent, hpiece, hplace, -⟩ := hnew.reached htag hsource
    have hnot : piece.event.isTag = false := hnone piece (by simp)
    have hverbatim : piece.event = .verbatim := by
      cases hall : piece.event <;> simp_all [Event.isTag]
    rw [hplace]
    exact hidden_of_verbatim hverbatim hpiece
  · intro hhidden
    rcases untagged_or new with hnone | ⟨front, tag, back, rfl, hfront, htag⟩
    · exact hnone
    · exact absurd (hhidden _ (completed_of_tag hall hnew hcode hfront htag)) (not_hidden hnew htag)

/-! ## unfinished tags -/

/-- an opening tag up to somewhere behind its name: no other tag starts in it, and no `>` ends it -/
def IsUnfinished (tagPrefix text : List Char) : Prop :=
  ∃ name part, text = '<' :: tagPrefix ++ name ++ part ∧ IsName name ∧ GoesOn false part

/-- in front of a tag stands an unfinished tag -/
def UnfinishedBeforeTag (tagPrefix : List Char) (all : List Piece) : Prop :=
  ∃ front before behind between tag back, all = front ++ ⟨before ++ '<' :: behind, .text⟩ :: between ++ tag :: back ∧
    Untagged between ∧ tag.event.isTag = true ∧ IsUnfinished tagPrefix ('<' :: behind ++ sourceOf between)

theorem GoesOn.upTo {quoted : Bool} {part rest : List Char} (h : GoesOn quoted (part ++ rest)) :
    GoesOn quoted part where
  no_tag hmem := h.no_tag (List.mem_append_left _ hmem)
  end_quoted before behind hsplit := h.end_quoted before (behind ++ rest) (by rw [hsplit]; simp)

/-- a tag up to a brace in it is an unfinished tag: the brace stands in the body -/
theorem isUnfinished_of_brace {part rest : List Char} (hbrace : '\x7b' ∉ tagPrefix) (h : IsTag tagPrefix span event)
    (hspan : span = part ++ '\x7b' :: rest) : IsUnfinished tagPrefix part := by
  have hnot : ∀ {name : List Char}, IsName name → '\x7b' ∉ name := fun hname hmem =>
    absurd (hname.chars _ hmem) (by decide)
  cases h with
  | @closing name hname =>
    have hmem : '\x7b' ∈ '<' :: '/' :: tagPrefix ++ name ++ ['>'] := by
      rw [hspan]
      simp
    simp [hbrace, hnot hname] at hmem
  | @opening name body _ _ hname hbody =>
    have hsplit : ('<' :: tagPrefix ++ name) ++ (body ++ ['>']) = part ++ '\x7b' :: rest := by
      rw [← hspan]
      simp only [List.append_assoc]
    have hmark : '\x7b' ∉ '<' :: tagPrefix ++ name := by simp [hbrace, hnot hname]
    rcases List.append_eq_append_iff.1 hsplit with ⟨middle, rfl, hmiddle⟩ | ⟨middle, hlead, hmiddle⟩
    · rcases List.append_eq_append_iff.1 hmiddle with ⟨left, rfl, hend⟩ | ⟨left, rfl, hend⟩
      · cases left with
        | nil => exact absurd (List.cons.inj hend).1 (by decide)
        | cons d left =>
          have hlength := congrArg List.length hend
          simp only [List.length_cons, List.length_append, List.length_nil] at hlength
          omega
      · exact ⟨name, middle, rfl, hname, hbody.goesOn.upTo⟩
    · cases middle with
      | nil => exact ⟨name, [], by rw [hlead]; simp, hname, goesOn_nil⟩
      | cons d middle =>
        obtain ⟨rfl, -⟩ := List.cons.inj hmiddle
        rw [hlead] at hmark
        exact absurd (by simp) hmark

/-- **No tag is completed** where no unfinished tag stands in front of a tag. -/
theorem not_completed (hbrace : '\x7b' ∉ tagPrefix) (h : IsCut tagPrefix all)
    (hnot : ¬ UnfinishedBeforeTag tagPrefix all) (place : Nat) : ¬ Completed tagPrefix all place := by
  rintro ⟨front, before, behind, back, span, event, rest, rfl, hstarts, htag, -⟩
  have hnone := h.no_piece (List.cons_ne_nil '<' behind)
  -- a tag that is in the source already would have been read there
  have hread : ∀ {left : List Char}, '<' :: behind ++ sourceOf back ≠ span ++ left := by
    intro left hsource
    rw [hsource, pieceAt?_isTag htag] at hnone
    cases hnone
  rcases untagged_or back with hback | ⟨between, tag, back, rfl, hbetween, hfirst⟩
  · rw [codeOf_untagged hback] at hstarts
    exact hread hstarts
  · have hcut : IsCut tagPrefix ((front ++ ⟨before ++ '<' :: behind, .text⟩ :: between) ++ tag :: back) := by
      simpa using h
    have hmem : tag ∈ front ++ ⟨before ++ '<' :: behind, .text⟩ :: between ++ tag :: back := by simp
    obtain ⟨tail, hexpand⟩ := expand_head (hcut.isTag_of_mem hmem hfirst)
    have hexpand : tag.expand = '\x7b' :: tail := hexpand
    have hsplit : ('<' :: behind ++ sourceOf between) ++ '\x7b' :: (tail ++ codeOf back) = span ++ rest := by
      rw [← hstarts, codeOf_append, codeOf_untagged hbetween, codeOf_cons, hexpand]
      simp only [List.append_assoc, List.cons_append]
    have hinside : ∀ {left : List Char}, '<' :: behind ++ sourceOf between ≠ span ++ left := by
      intro left hpart
      have hsource : '<' :: behind ++ sourceOf (between ++ tag :: back) = span ++ (left ++ sourceOf (tag :: back)) := by
        rw [sourceOf_append, ← List.append_assoc, hpart, List.append_assoc]
      exact hread hsource
    rcases List.append_eq_append_iff.1 hsplit with ⟨middle, hspan, hmiddle⟩ | ⟨middle, hpart, -⟩
    · cases middle with
      | nil =>
        rw [List.append_nil] at hspan
        exact hinside (hspan.symm.trans (List.append_nil span).symm)
      | cons d middle =>
        obtain rfl : '\x7b' = d := (List.cons.inj hmiddle).1
        have hunfinished := isUnfinished_of_brace hbrace htag hspan
        exact hnot ⟨front, before, behind, between, tag, back, by simp, hbetween, hfirst, hunfinished⟩
    · exact hinside hpart

/-! ## expanding twice -/

/-- **Expanding an expanded source** changes nothing exactly when every completed tag is hidden in a verbatim region;
so it is for every source in which no unfinished tag stands in front of a tag. -/
theorem expand_expand (tagPrefix source : String) :
    ((expand tagPrefix (expand tagPrefix source).code).code = (expand tagPrefix source).code ↔
      ∀ place, Completed tagPrefix.toList (pieces tagPrefix.toList source.toList) place →
        Hidden (pieces tagPrefix.toList (expand tagPrefix source).code.toList) place) ∧
    ('\x7b' ∉ tagPrefix.toList → ¬ UnfinishedBeforeTag tagPrefix.toList (pieces tagPrefix.toList source.toList) →
      (expand tagPrefix (expand tagPrefix source).code).code = (expand tagPrefix source).code) := by
  have hall := isCut_pieces tagPrefix.toList source.toList
  have hnew := isCut_pieces tagPrefix.toList (expand tagPrefix source).code.toList
  have hcode : sourceOf (pieces tagPrefix.toList (expand tagPrefix source).code.toList) =
      codeOf (pieces tagPrefix.toList source.toList) := by
    rw [sourceOf_pieces, toList_expand]
  have hsame : (expand tagPrefix (expand tagPrefix source).code).code = (expand tagPrefix source).code ↔
      Untagged (pieces tagPrefix.toList (expand tagPrefix source).code.toList) := by
    rw [← hnew.codeOf_eq_iff, sourceOf_pieces, ← String.toList_inj, toList_expand]
  have hiff := hsame.trans (untagged_iff hall hnew hcode)
  refine ⟨hiff, fun hbrace hnot => hiff.2 fun place hcompleted => ?_⟩
  exact absurd hcompleted (not_completed hbrace hall hnot place)

/-- a tag, and an unfinished one behind it -/
def unfinishedBehind : String :=
  "text <x-a /> <x-b"

/-- the unfinished tag stays as it is, for no tag stands behind it -/
theorem expand_expand_unfinishedBehind :
    (expand "x-" unfinishedBehind).code = "text \x7b% component \"a\" %\x7d\x7b% endcomponent %\x7d <x-b" ∧
      (expand "x-" (expand "x-" unfinishedBehind).code).code = (expand "x-" unfinishedBehind).code := by
  have hpieces : pieces "x-".toList unfinishedBehind.toList = [⟨"text ".toList, .text⟩,
      ⟨"<x-a />".toList, .selfClosing ['a'] []⟩, ⟨" <x-b".toList, .text⟩] := by decide
  refine ⟨by decide, (expand_expand "x-" unfinishedBehind).2 (by decide) ?_⟩
  rintro ⟨front, before, behind, between, tag, back, hall, -, -, -⟩
  rw [hpieces] at hall
  rcases front with _ | ⟨a, _ | ⟨b, front⟩⟩
  · have htext : "text ".toList = before ++ '<' :: behind := congrArg Piece.span (List.cons.inj hall).1
    have hmem : '<' ∈ "text ".toList := by
      rw [htext]
      simp
    exact absurd hmem (by decide)
  · have hevent := congrArg Piece.event (List.cons.inj (List.cons.inj hall).2).1
    cases hevent
  · have hlength := congrArg List.length hall
    simp at hlength
    omega

/-- an unfinished tag in front of a tag -/
def tagInTag : String :=
  "<x-a <x-b />>"

/-- the tag inside is written first, and then the tag around it is complete -/
theorem tagInTag_expands_again : (expand "x-" (expand "x-" tagInTag).code).code ≠ (expand "x-" tagInTag).code := by
  decide

end Templating.Markup
