/-
The text of a component tag, and the tokens that it is.

The search for the end of a tag passes over quoted texts (`Passes`), by the same rule by which they are read: it stops
inside none, however far a backslash in front of a quote carries it. So the arguments of a component tag are either
found as they were written, or at least up to the last quote that the search has seen.

- `tokens_component`: a component tag and the tag that ends it, when the search stops where it was meant to.
- `tokens_kept`: what is there of the arguments wherever it stops.
-/
import Templating.Proofs.MarkupTag
import Templating.Proofs.QuotedWords
import Templating.Proofs.SourceRegions
import Templating.Template.Token

namespace Templating

open Markup (quoted)

namespace Template

/-! ## the end of a tag -/

/-- the search for the end of a tag passes over the text, wherever it stands before the end -/
def Passes (text : List Char) : Prop :=
  ∀ rest, rest ≠ [] → cutClose? '%' none (text ++ rest) =
    (cutClose? '%' none rest).map fun (inner, left) => (text ++ inner, left)

theorem passes_nil : Passes [] := by
  intro rest _
  simp

theorem Passes.append {text text' : List Char} (h : Passes text) (h' : Passes text') : Passes (text ++ text') := by
  intro rest hrest
  rw [List.append_assoc, h _ (by simp [hrest]), h' rest hrest]
  cases cutClose? '%' none rest <;> simp

theorem Passes.flatMap {α : Type} {text : α → List Char} {list : List α} (h : ∀ a ∈ list, Passes (text a)) :
    Passes (list.flatMap text) := by
  induction list with
  | nil => exact passes_nil
  | cons a list ih =>
    obtain ⟨ha, hlist⟩ := List.forall_mem_cons.1 h
    exact ha.append (ih hlist)

theorem passes_char {c : Char} (hend : c ≠ '%') (hdouble : c ≠ '"') (hsingle : c ≠ '\'') : Passes [c] := by
  intro rest hrest
  obtain ⟨d, rest, rfl⟩ := List.exists_cons_of_ne_nil hrest
  simp [cutClose?, hend, hdouble, hsingle]

/-- the character neither opens a quoted text nor ends a tag -/
def isPassed (c : Char) : Bool :=
  c != '%' && c != '"' && c != '\''

theorem passes_plain {text : List Char} (h : text.all isPassed = true) : Passes text := by
  induction text with
  | nil => exact passes_nil
  | cons c text ih =>
    simp only [List.all_cons, isPassed, Bool.and_eq_true, bne_iff_ne] at h
    obtain ⟨⟨⟨hend, hdouble⟩, hsingle⟩, htext⟩ := h
    exact (passes_char hend hdouble hsingle).append (ih htext)

theorem cutClose?_hidden (d : Char) (text : List Char) : cutClose? '%' (some '"') ('\\' :: d :: text) =
    (cutClose? '%' (some '"') text).map fun (inner, left) => ('\\' :: d :: inner, left) := rfl

theorem cutClose?_plain {c : Char} (hc : c ≠ '\\') (hne : '"' ≠ c) {text : List Char} (h : text ≠ []) :
    cutClose? '%' (some '"') (c :: text) =
      (cutClose? '%' (some '"') text).map fun (inner, left) => (c :: inner, left) := by
  obtain ⟨d, text, rfl⟩ := List.exists_cons_of_ne_nil h
  simp [cutClose?, hc, hne.symm]

theorem cutClose?_close {text : List Char} (h : text ≠ []) : cutClose? '%' (some '"') ('"' :: text) =
    (cutClose? '%' none text).map fun (inner, left) => ('"' :: inner, left) := by
  obtain ⟨d, text, rfl⟩ := List.exists_cons_of_ne_nil h
  simp [cutClose?]

theorem cutClose?_inside {text : List Char} (hquote : '"' ∉ text) (hpaired : Expr.paired text = true)
    {rest : List Char} (hrest : rest ≠ []) :
    cutClose? '%' (some '"') (text ++ '"' :: rest) =
      (cutClose? '%' none rest).map fun (inner, left) => (text ++ '"' :: inner, left) := by
  induction text using Expr.unescaped.induct with
  | case1 => exact cutClose?_close hrest
  | case2 c =>
    have hc : c ≠ '\\' := by simpa [Expr.paired] using hpaired
    rw [List.singleton_append, cutClose?_plain hc (List.ne_of_not_mem_cons hquote) (by simp), cutClose?_close hrest]
    simp [Function.comp_def]
  | case3 d rest' ih =>
    rw [Expr.paired, if_pos rfl] at hpaired
    have hbehind := List.not_mem_of_not_mem_cons (List.not_mem_of_not_mem_cons hquote)
    rw [List.cons_append, List.cons_append, cutClose?_hidden, ih hbehind hpaired]
    simp [Function.comp_def]
  | case4 c d rest' hc ih =>
    rw [Expr.paired, if_neg hc] at hpaired
    rw [List.cons_append, cutClose?_plain hc (List.ne_of_not_mem_cons hquote) (by simp),
      ih (List.not_mem_of_not_mem_cons hquote) hpaired]
    simp [Function.comp_def]

/-- a quote opens a quoted text -/
theorem cutClose?_quote (text rest : List Char) :
    cutClose? '%' none ('"' :: (text ++ '"' :: rest)) =
      (cutClose? '%' (some '"') (text ++ '"' :: rest)).map fun (inner, left) => ('"' :: inner, left) := by
  cases text <;> simp [cutClose?]

/-- **The end of a tag** is not looked for inside quotes. -/
theorem passes_quoted {text : List Char} (hquote : '"' ∉ text) (hpaired : Expr.paired text = true) :
    Passes (quoted text) := by
  intro rest hrest
  have htext : quoted text ++ rest = '"' :: (text ++ '"' :: rest) := by simp [quoted]
  rw [htext, cutClose?_quote, cutClose?_inside hquote hpaired hrest]
  simp [quoted, Function.comp_def]

theorem Passes.cutClose? {inner : List Char} (h : Passes inner) (left : List Char) :
    cutClose? '%' none (inner ++ '%' :: '\x7d' :: left) = some (inner, left) := by
  rw [h _ (by simp)]
  simp [Template.cutClose?]

/-- a quoted text in which the search for the end of a tag starts is inside the tag, wherever its quote is found -/
theorem cutClose?_kept {text : List Char} (hquote : '"' ∉ text) {rest inner left : List Char}
    (h : cutClose? '%' (some '"') (text ++ '"' :: rest) = some (inner, left)) :
    ∃ more, inner = text ++ '"' :: more := by
  have hclose : ∀ {inner left}, cutClose? '%' (some '"') ('"' :: rest) = some (inner, left) →
      ∃ more, inner = '"' :: more := by
    intro inner left hcut
    cases rest with
    | nil => cases hcut
    | cons e rest =>
      rw [cutClose?_close (List.cons_ne_nil e rest)] at hcut
      obtain ⟨⟨more, _⟩, -, hcut⟩ := Option.map_eq_some_iff.1 hcut
      cases hcut
      exact ⟨more, rfl⟩
  induction text using Expr.unescaped.induct generalizing inner with
  | case1 => exact hclose h
  | case2 c =>
    by_cases hc : c = '\\'
    · rw [hc, List.singleton_append, cutClose?_hidden] at h
      obtain ⟨⟨more, _⟩, -, hcut⟩ := Option.map_eq_some_iff.1 h
      cases hcut
      exact ⟨more, by rw [hc]; rfl⟩
    · rw [List.singleton_append, cutClose?_plain hc (List.ne_of_not_mem_cons hquote) (by simp)] at h
      obtain ⟨⟨inner', _⟩, hinner, hcut⟩ := Option.map_eq_some_iff.1 h
      cases hcut
      obtain ⟨more, rfl⟩ := hclose hinner
      exact ⟨more, rfl⟩
  | case3 d rest' ih =>
    rw [List.cons_append, List.cons_append, cutClose?_hidden] at h
    obtain ⟨⟨inner', _⟩, hinner, hcut⟩ := Option.map_eq_some_iff.1 h
    cases hcut
    obtain ⟨more, rfl⟩ := ih (List.not_mem_of_not_mem_cons (List.not_mem_of_not_mem_cons hquote)) hinner
    exact ⟨more, rfl⟩
  | case4 c d rest' hc ih =>
    rw [List.cons_append, cutClose?_plain hc (List.ne_of_not_mem_cons hquote) (by simp)] at h
    obtain ⟨⟨inner', _⟩, hinner, hcut⟩ := Option.map_eq_some_iff.1 h
    cases hcut
    obtain ⟨more, rfl⟩ := ih (List.not_mem_of_not_mem_cons hquote) hinner
    exact ⟨more, rfl⟩

theorem Passes.kept {before value : List Char} (h : Passes before) (hquote : '"' ∉ value)
    {tail inner left : List Char}
    (hcut : Template.cutClose? '%' none (before ++ '"' :: (value ++ '"' :: tail)) = some (inner, left)) :
    ∃ more, inner = before ++ '"' :: (value ++ '"' :: more) := by
  rw [h _ (by simp), cutClose?_quote, Option.map_map] at hcut
  obtain ⟨⟨inside, _⟩, hinside, hcut⟩ := Option.map_eq_some_iff.1 hcut
  cases hcut
  obtain ⟨more, rfl⟩ := cutClose?_kept hquote hinside
  exact ⟨more, rfl⟩

theorem passes_quotable {text : List Char} (h : Expr.Quotable text) : Passes (quoted text) :=
  passes_quoted h.quote (Expr.paired_of_not_mem h.backslash)

/-! ## two tags -/

/-- a region that starts with a tag is read at the start of a text, and the reading goes on behind it -/
theorem regionsAfter_region {inner body left : List Char} {region : Region} {position : Position} (h : Passes inner)
    (hread : readTag position inner (body ++ left) = .ok (region, left)) :
    ∃ behind, regionsAfter 0 position ('\x7b' :: '%' :: (inner ++ '%' :: '\x7d' :: (body ++ left))) =
      (regionsAfter 0 behind left).map (region :: ·) := by
  have hregion : regionAt? position ('\x7b' :: '%' :: (inner ++ '%' :: '\x7d' :: (body ++ left))) =
      some (.ok (region, left)) := by
    simp only [regionAt?, Delimiter.ofChar?, Option.map_some, readRegion, h.cutClose? (body ++ left), hread]
  have hlength : ('%' :: (inner ++ '%' :: '\x7d' :: (body ++ left))).length - left.length =
      inner.length + 3 + body.length := by
    simp only [List.length_cons, List.length_append]
    omega
  have hdrop : ('%' :: (inner ++ '%' :: '\x7d' :: (body ++ left))).drop (inner.length + 3 + body.length) = left := by
    have hsplit : '%' :: (inner ++ '%' :: '\x7d' :: (body ++ left)) =
        ('%' :: inner ++ ['%', '\x7d'] ++ body) ++ left := by simp
    have hfront : ('%' :: inner ++ ['%', '\x7d'] ++ body).length = inner.length + 3 + body.length := by
      simp only [List.length_append, List.length_cons, List.length_nil]
    rw [hsplit]
    exact List.drop_left' hfront
  refine ⟨(position.advance '\x7b').after
    (('%' :: (inner ++ '%' :: '\x7d' :: (body ++ left))).take (inner.length + 3 + body.length)), ?_⟩
  rw [regionsAfter, hregion]
  dsimp only
  rw [hlength, regionsAfter_drop, hdrop]

/-- a tag at the start of a text is a region, and the reading goes on behind it -/
theorem regionsAfter_tag {inner left : List Char} {region : Region} {position : Position} (h : Passes inner)
    (hread : readTag position inner left = .ok (region, left)) :
    ∃ behind, regionsAfter 0 position ('\x7b' :: '%' :: (inner ++ '%' :: '\x7d' :: left)) =
      (regionsAfter 0 behind left).map (region :: ·) := by
  rw [← List.nil_append left] at hread
  exact regionsAfter_region h hread

/-- spaces inside the delimiters are no marks -/
theorem splitMarks_spaces (text : List Char) :
    splitMarks (' ' :: text ++ [' ']) = (' ' :: text ++ [' '], ⟨false, false⟩) := by
  simp [splitMarks]

/-- the name of a component tag and its arguments, which start with a quoted text -/
theorem splitTag_component (tail : List Char) :
    splitTag (' ' :: ("component".toList ++ ' ' :: '"' :: tail)) = ("component".toList, '"' :: Text.trimEnd tail) := by
  have htrim : Text.trim (' ' :: ("component".toList ++ ' ' :: '"' :: tail)) =
      "component".toList ++ ' ' :: '"' :: Text.trimEnd tail := by
    have hstart : Text.trimStart (' ' :: ("component".toList ++ ' ' :: '"' :: tail)) =
        ("component".toList ++ [' ']) ++ '"' :: tail := by
      rw [Text.trimStart_cons_blank (by decide), List.append_assoc]
      exact Text.trimStart_cons (by decide) _
    rw [Text.trim, hstart, Text.trimEnd_append_cons (by decide), List.append_assoc]
    rfl
  have hname : ∀ c ∈ "component".toList, isTagNameChar c = true := List.all_eq_true.1 (by decide)
  obtain ⟨htake, hdrop⟩ := Text.takeWhile_front hname
    (Text.stops_cons (show isTagNameChar ' ' = false by decide) ('"' :: Text.trimEnd tail))
  have hargs : Text.trim (' ' :: '"' :: Text.trimEnd tail) = '"' :: Text.trimEnd tail := by
    rw [Text.trim, Text.trimStart_cons_blank (by decide), Text.trimStart_cons (by decide)]
    have hend := Text.trimEnd_append_cons (show Text.isBlank '"' = false by decide) [] (Text.trimEnd tail)
    rwa [List.nil_append, List.nil_append, Text.trimEnd_trimEnd] at hend
  simp only [splitTag, htrim, htake, hdrop, hargs]

/-- **A component tag that ends at once** is two tokens. -/
theorem tokens_arguments {tail : List Char} (hpasses : Passes ('"' :: tail)) :
    ∃ position, tokens (String.ofList ("\x7b% component ".toList ++ '"' :: tail ++ " %\x7d".toList ++
        Markup.componentEnd)) =
      .ok [.tag "component" (String.ofList (Text.trimEnd ('"' :: tail))) .start,
        .tag "endcomponent" "" position] := by
  have hplain : Passes (' ' :: ("component".toList ++ [' '])) := passes_plain (by decide)
  have hinner : Passes (' ' :: ("component".toList ++ ' ' :: '"' :: tail) ++ [' ']) := by
    simpa using (hplain.append hpasses).append (passes_char (by decide) (by decide) (by decide))
  have hsplit : splitTag (' ' :: ("component".toList ++ ' ' :: '"' :: tail) ++ [' ']) =
      ("component".toList, Text.trimEnd ('"' :: tail)) := by
    have hend : Text.trimEnd ('"' :: tail) = '"' :: Text.trimEnd (tail ++ [' ']) := by
      rw [Text.trimEnd_concat_blank (by decide)]
      exact Text.trimEnd_append_cons (by decide) [] tail
    rw [hend, ← splitTag_component]
    simp only [List.cons_append, List.append_assoc]
  have hopening : ∀ left, readTag .start (' ' :: ("component".toList ++ ' ' :: '"' :: tail) ++ [' ']) left =
      .ok (.tag .start "component".toList (Text.trimEnd ('"' :: tail)) ⟨false, false⟩, left) :=
    readTag_named (splitMarks_spaces _) hsplit (by decide) .start
  have hclosing : ∀ position, readTag position " endcomponent ".toList [] =
      .ok (.tag position "endcomponent".toList [] ⟨false, false⟩, []) := fun position =>
    have hmarks : splitMarks " endcomponent ".toList = (" endcomponent ".toList, ⟨false, false⟩) := by decide
    readTag_named hmarks (by decide) (by decide) position []
  obtain ⟨behind, hfirst⟩ := regionsAfter_tag hinner (hopening Markup.componentEnd)
  obtain ⟨last, hsecond⟩ := regionsAfter_tag (passes_plain (by decide)) (hclosing behind)
  have hend : '\x7b' :: '%' :: (" endcomponent ".toList ++ ['%', '\x7d']) = Markup.componentEnd := rfl
  have hsource : '\x7b' :: '%' :: (' ' :: ("component".toList ++ ' ' :: '"' :: tail) ++ [' '] ++
      '%' :: '\x7d' :: Markup.componentEnd) =
      "\x7b% component ".toList ++ '"' :: tail ++ " %\x7d".toList ++ Markup.componentEnd := by
    have hstart : "\x7b% component ".toList = '\x7b' :: '%' :: ' ' :: ("component".toList ++ [' ']) := rfl
    have hclose : " %\x7d".toList = [' ', '%', '\x7d'] := rfl
    rw [hstart, hclose]
    simp only [List.cons_append, List.append_assoc, List.nil_append]
  rw [hend] at hsecond
  rw [hsource, hsecond] at hfirst
  refine ⟨behind, ?_⟩
  rw [tokens, String.toList_ofList, regions, hfirst]
  rfl

/-- arguments that start and end with a quoted text -/
structure QuotedEnds (args : List Char) : Prop where
  starts : ∃ tail, args = '"' :: tail
  ends : ∃ front, args = front ++ ['"']

/-- arguments that end with a quoted text keep their end -/
theorem tokens_component {args : List Char} (hends : QuotedEnds args) (hpasses : Passes args) :
    ∃ position, tokens (String.ofList ("\x7b% component ".toList ++ args ++ " %\x7d".toList ++ Markup.componentEnd)) =
      .ok [.tag "component" (String.ofList args) .start, .tag "endcomponent" "" position] := by
  have hwhole : Text.trimEnd args = args := by
    obtain ⟨front, hfront⟩ := hends.ends
    rw [hfront]
    exact Text.trimEnd_concat (by decide) front
  obtain ⟨tail, rfl⟩ := hends.starts
  have htokens := tokens_arguments hpasses
  rwa [hwhole] at htokens

/-! ## the first token -/

/-- a mark behind a quote is no part of what stands before the quote -/
theorem splitMarks_kept (text more : List Char) :
    ∃ more' behind, splitMarks (' ' :: text ++ '"' :: more) = (' ' :: text ++ '"' :: more', ⟨false, behind⟩) := by
  rcases List.eq_nil_or_concat more with rfl | ⟨more', d, rfl⟩
  · exact ⟨[], false, by simp [splitMarks]⟩
  · by_cases hd : d = '-'
    · exact ⟨more', true, by simp [splitMarks, hd]⟩
    · exact ⟨more' ++ [d], false, by simp [splitMarks, hd]⟩

section

variable {name args : String} {position : Position}

theorem pushText_first {tokens : List Token} (h : [.tag name args position] <:+ tokens) (text : List Char) :
    [.tag name args position] <:+ Assembly.pushText tokens text := by
  unfold Assembly.pushText
  split_ifs
  · exact h
  · exact h.trans (List.suffix_cons _ _)

theorem trimLast_first {tokens : List Token} (h : [.tag name args position] <:+ tokens) (mark : Bool) :
    [.tag name args position] <:+ Assembly.trimLast mark tokens := by
  unfold Assembly.trimLast
  split
  · rcases List.suffix_cons_iff.1 h with heq | hrest
    · cases heq
    · exact pushText_first hrest _
  · exact h

/-- a tag that came first stays the first token -/
theorem step_first {a : Assembly} (h : [.tag name args position] <:+ a.tokens) (region : Region) :
    [.tag name args position] <:+ (a.step region).tokens := by
  cases region with
  | text s => exact pushText_first h _
  | comment => exact h
  | output _ _ marks | tag _ _ _ marks => exact (trimLast_first h marks.before).trans (List.suffix_cons _ _)
  | verbatim body opening closing => exact pushText_first (trimLast_first h opening.before) _

theorem run_first {a : Assembly} (h : [.tag name args position] <:+ a.tokens) (rest : List Region) :
    [.tag name args position] <:+ (rest.foldl Assembly.step a).tokens := by
  induction rest generalizing a with
  | nil => exact h
  | cons region rest ih => exact ih (step_first h region)

end

theorem tokensOf_tag (position : Position) (name args : List Char) (marks : Marks) (rest : List Region) :
    ∃ behind, tokensOf (.tag position name args marks :: rest) =
      .tag (String.ofList name) (String.ofList args) position :: behind := by
  have hnone : Assembly.trimLast marks.before [] = [] := by cases marks.before <;> rfl
  have hstep : (Assembly.start.step (.tag position name args marks)).tokens =
      [.tag (String.ofList name) (String.ofList args) position] := congrArg (List.cons _) hnone
  obtain ⟨front, hfront⟩ := run_first ⟨[], hstep.symm⟩ rest
  exact ⟨front.reverse, by rw [tokensOf, List.foldl_cons, ← hfront]; simp⟩

/-- a tag at the start of a text is the first region, when there are regions at all -/
theorem regionsAfter_first {position : Position} {body : List Char} {all : List Region}
    (h : regionsAfter 0 position ('\x7b' :: '%' :: body) = .ok all) :
    ∃ inner left region left' rest, cutClose? '%' none body = some (inner, left) ∧
      readTag position inner left = .ok (region, left') ∧ all = region :: rest := by
  rw [regionsAfter, regionAt?, Delimiter.ofChar?, Option.map_some, readRegion] at h
  cases hcut : cutClose? '%' none body with
  | none =>
    rw [hcut] at h
    cases h
  | some cut =>
    obtain ⟨inner, left⟩ := cut
    rw [hcut] at h
    dsimp only at h
    cases hread : readTag position inner left with
    | error fault =>
      rw [hread] at h
      cases h
    | ok read =>
      obtain ⟨region, left'⟩ := read
      rw [hread] at h
      obtain ⟨rest, -, hall⟩ := map_eq_ok.1 h
      exact ⟨inner, left, region, left', rest, rfl, hread, hall.symm⟩

/-- the arguments of a component tag are kept up to their last quote -/
theorem readTag_kept (position : Position) (front more left : List Char) :
    ∃ more' marks, readTag position (' ' :: ("component".toList ++ ' ' :: '"' :: front) ++ '"' :: more) left =
      .ok (.tag position "component".toList ('"' :: front ++ '"' :: more') marks, left) := by
  obtain ⟨more', behind, hmarks⟩ := splitMarks_kept ("component".toList ++ ' ' :: '"' :: front) more
  have hsplit := splitTag_component (front ++ '"' :: more')
  rw [Text.trimEnd_append_cons (by decide)] at hsplit
  simp only [List.cons_append, List.append_assoc] at hmarks hsplit ⊢
  exact ⟨Text.trimEnd more', _, readTag_named hmarks hsplit (by decide) position left⟩

/-- **A quoted text that a component tag reaches** is in the arguments of its token, wherever the tag ends. -/
theorem tokens_kept {before value : List Char} (hstart : ∃ tail, before = '"' :: tail) (hpasses : Passes before)
    (hquote : '"' ∉ value) {tail : List Char} {token : Token} {rest : List Token}
    (h : tokens (String.ofList ("\x7b% component ".toList ++ (before ++ '"' :: (value ++ '"' :: tail)))) =
      .ok (token :: rest)) :
    ∃ more, token = .tag "component" (String.ofList (before ++ '"' :: (value ++ '"' :: more))) .start := by
  obtain ⟨begun, rfl⟩ := hstart
  have hopen : Passes (' ' :: ("component".toList ++ ' ' :: '"' :: begun)) := by
    have hplain : Passes (' ' :: ("component".toList ++ [' '])) := passes_plain (by decide)
    simpa using hplain.append hpasses
  have hsource : "\x7b% component ".toList ++ ('"' :: begun ++ '"' :: (value ++ '"' :: tail)) =
      '\x7b' :: '%' :: (' ' :: ("component".toList ++ ' ' :: '"' :: begun) ++ '"' :: (value ++ '"' :: tail)) := by
    have htag : "\x7b% component ".toList = '\x7b' :: '%' :: ' ' :: ("component".toList ++ [' ']) := rfl
    rw [htag]
    simp only [List.cons_append, List.append_assoc, List.nil_append]
  rw [hsource, tokens, String.toList_ofList, regions] at h
  obtain ⟨all, hall, h⟩ := map_eq_ok.1 h
  obtain ⟨inner, left, region, left', regions, hcut, hread, rfl⟩ := regionsAfter_first hall
  obtain ⟨more, rfl⟩ := hopen.kept hquote hcut
  obtain ⟨more', marks, hkept⟩ := readTag_kept .start (begun ++ '"' :: value) more left
  simp only [List.cons_append, List.append_assoc] at hread hkept
  rw [hkept] at hread
  cases hread
  obtain ⟨behind, hfirst⟩ := tokensOf_tag .start "component".toList
    ('"' :: (begun ++ '"' :: (value ++ '"' :: more'))) marks regions
  rw [hfirst] at h
  exact ⟨more', (List.cons.inj h).1.symm⟩

end Template

end Templating
