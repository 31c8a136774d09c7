/-
A verbatim region from the source to the tokens.

Two scanners know verbatim regions: the markup is cut at the tag in its one spelling, and the tag reader takes
`verbatim` and `endverbatim` like any tags, with marks and white space. A body in which no tag ends a verbatim region,
in any spelling (`NoEnd`), is the same for both, so it comes to the tokens as it stands in the source. It can still
lose the white space at its end: the region leaves no token of its own, and a mark before a later region reaches the
body when nothing in between leaves one.

- `preprocess_verbatim`: the markup of what stands behind is expanded, and nothing else.
- `regionsAfter_verbatim`: the text and the body are the first regions.
- `verbatim_text`: what they are among the tokens.
-/
import Templating.Operation
import Templating.Proofs.Cutting
import Templating.Proofs.Outcome
import Templating.Proofs.TagText
import Templating.Proofs.TrimMarks

namespace Templating

namespace Template

/-! ## the end of a verbatim region -/

/-- what stands in a tag that ends a verbatim region, in any spelling -/
def EndsVerbatim (inner : List Char) : Prop :=
  Text.trim (splitMarks inner).1 = endVerbatimName

/-- no tag in the text ends a verbatim region -/
def NoEnd (body : List Char) : Prop :=
  ∀ front inner back, body = front ++ '\x7b' :: '%' :: (inner ++ '%' :: '\x7d' :: back) → ¬ EndsVerbatim inner

variable {c : Char} {inner body : List Char}

theorem NoEnd.tail (h : NoEnd (c :: body)) : NoEnd body :=
  fun front inner back hsplit => h (c :: front) inner back (by rw [hsplit, List.cons_append])

/-- only dashes are marks -/
theorem mem_splitMarks (hc : c ≠ '-') : c ∈ (splitMarks inner).1 ↔ c ∈ inner := by
  have hmark : ∀ text : List Char, c ∈ '-' :: text ↔ c ∈ text := by simp [hc]
  unfold splitMarks
  split
  next before text hstart =>
    have htext : c ∈ text ↔ c ∈ inner := by
      split at hstart
      · cases hstart
        exact (hmark _).symm
      · cases hstart
        rfl
    split
    · next rest hrest => rw [List.mem_reverse, ← hmark rest, ← hrest, List.mem_reverse, htext]
    · exact htext

/-- no tag ends a verbatim region when a brace stands in it -/
theorem not_endsVerbatim (h : '\x7b' ∈ inner) : ¬ EndsVerbatim inner := by
  intro hends
  have hmem := Text.mem_trim (by decide) ((mem_splitMarks (by decide)).2 h)
  rw [hends] at hmem
  exact absurd hmem (by decide)

/-- the tag behind a verbatim region -/
theorem endVerbatim_tag : Markup.verbatimEnd = '\x7b' :: '%' :: (" endverbatim ".toList ++ ['%', '\x7d']) := rfl

/-- no tag that starts in the body ends the region -/
theorem NoEnd.not_endsVerbatim (h : NoEnd ('\x7b' :: '%' :: body)) {left left' : List Char}
    (hsplit : body ++ (Markup.verbatimEnd ++ left) = inner ++ ['%', '\x7d'] ++ left') : ¬ EndsVerbatim inner := by
  by_cases hbrace : '\x7b' ∈ inner
  · exact Template.not_endsVerbatim hbrace
  · rcases List.append_eq_append_iff.1 hsplit with ⟨middle, hinner, hend⟩ | ⟨middle, rfl, -⟩
    · cases middle with
      | nil => exact h [] inner [] (by rw [List.nil_append, hinner, List.append_nil])
      | cons d middle =>
        obtain rfl : '\x7b' = d := (List.cons.inj hend).1
        have hmem : '\x7b' ∈ inner ++ ['%', '\x7d'] := by
          rw [hinner]
          simp
        rcases List.mem_append.1 hmem with hmem | hmem
        · exact absurd hmem hbrace
        · exact absurd hmem (by decide)
    · exact h [] inner middle (by simp)

/-- no tag ends a verbatim region in a text that lacks a letter of its name -/
theorem noEnd_of_not_mem (hc : c ∈ endVerbatimName) (h : c ∉ body) : NoEnd body := by
  rintro front inner back rfl hends
  have hdash : c ≠ '-' := by
    rintro rfl
    exact absurd hc (by decide)
  rw [← hends] at hc
  have hmem := (mem_splitMarks hdash).1 (Text.mem_of_mem_trim hc)
  exact h (by simp [hmem])

/-- **The body of a verbatim region** is read up to the end mark. -/
theorem cutVerbatim?_body (h : NoEnd body) (left : List Char) :
    cutVerbatim? (body ++ (Markup.verbatimEnd ++ left)) = some (body, ⟨false, false⟩, left) := by
  induction body with
  | nil => rfl
  | cons c body ih =>
    have hbehind := ih h.tail
    rw [List.cons_append, cutVerbatim?, hbehind]
    split
    · next inside hinside =>
      obtain ⟨rfl, htag⟩ := List.cons.inj (Text.afterMark?_eq_some.1 hinside)
      obtain ⟨body, rfl, rfl⟩ : ∃ body', body = '%' :: body' ∧ inside = body' ++ (Markup.verbatimEnd ++ left) := by
        cases body with
        | nil => exact absurd (List.cons.inj htag).1 (by decide)
        | cons d body =>
          obtain ⟨rfl, rfl⟩ := List.cons.inj htag
          exact ⟨body, rfl, rfl⟩
      obtain ⟨inner, left', hcut⟩ : ∃ inner left',
          Text.cutAt? ['%', '\x7d'] (body ++ (Markup.verbatimEnd ++ left)) = some (inner, left') := by
        have hsome := Text.cutAt?_isSome ['%', '\x7d'] (body ++ '\x7b' :: '%' :: " endverbatim ".toList) left
        rw [endVerbatim_tag]
        simpa [Option.isSome_iff_exists] using hsome
      have hnot := h.not_endsVerbatim (Text.cutAt?_eq_some hcut)
      rw [EndsVerbatim] at hnot
      rw [hcut]
      dsimp only
      rw [if_neg hnot]
      rfl
    · rfl

/-- a body without an end tag is the body of a verbatim region of the markup -/
theorem NoEnd.isVerbatim (h : NoEnd body) :
    Markup.IsVerbatim (Markup.verbatimStart ++ body ++ Markup.verbatimEnd) := by
  have hspelled : EndsVerbatim " endverbatim ".toList := by
    rw [EndsVerbatim]
    decide
  have hnone : ∀ front back, body ≠ front ++ Markup.verbatimEnd ++ back := by
    intro front back hbody
    rw [endVerbatim_tag] at hbody
    exact h front " endverbatim ".toList back (by rw [hbody]; simp) hspelled
  refine ⟨body, rfl, fun front back hends => ?_⟩
  rw [List.append_assoc] at hends
  rcases List.append_eq_append_iff.1 hends with ⟨middle, hfront, hend⟩ | ⟨middle, hbody, hend⟩
  · have hlength := congrArg List.length hend
    simp only [List.length_append] at hlength
    exact List.eq_nil_of_length_eq_zero (by omega)
  · rcases List.append_eq_append_iff.1 hend with ⟨left, hmiddle, -⟩ | ⟨left, hmark, hback⟩
    · exact absurd (by rw [hbody, hmiddle, List.append_assoc]) (hnone front left)
    · cases left with
      | nil =>
        rw [List.append_nil] at hmark
        exact absurd (by rw [hbody, hmark, List.append_nil]) (hnone front [])
      | cons d left =>
        obtain rfl : '\x7b' = d := (List.cons.inj hback).1
        obtain rfl := Markup.eq_nil_of_brace (by decide) hmark
        have hlength := congrArg List.length hback
        rw [hmark] at hlength
        simp only [List.nil_append, List.length_append] at hlength
        exact List.eq_nil_of_length_eq_zero (by omega)

/-! ## a text, a verbatim region, and the rest -/

variable {front : List Char}

/-- a text, a verbatim region, and what stands behind it -/
def aroundVerbatim (front body rest : List Char) : List Char :=
  front ++ (Markup.verbatimStart ++ body ++ Markup.verbatimEnd) ++ rest

/-- a text in which no markup and no region starts -/
def IsPlain (text : List Char) : Prop :=
  ∀ c ∈ text, c ≠ '<' ∧ c ≠ '\x7b'

/-- **Behind all passes** a text and a verbatim region are the same. -/
theorem preprocess_verbatim {s : TemplateSet} (hpasses : s.passes = []) (hfront : IsPlain front) (hbody : NoEnd body)
    (rest : List Char) : (s.preprocess (String.ofList (aroundVerbatim front body rest))).toList =
      aroundVerbatim front body (s.preprocess (String.ofList rest)).toList := by
  have hnone : ∀ source, Pipeline.run source s.passes = source := by
    intro source
    rw [hpasses]
    rfl
  unfold TemplateSet.preprocess
  dsimp only
  rw [hnone, hnone]
  cases s.options.tagPrefix with
  | none => simp only [String.toList_ofList]
  | some tagPrefix =>
    simp only [Pass.run, Markup.toList_expand, String.toList_ofList]
    exact Markup.codeOf_pieces_verbatim hfront hbody.isVerbatim rest

theorem IsPlain.not_mem (h : IsPlain front) : '\x7b' ∉ front :=
  fun hmem => (h _ hmem).2 rfl

theorem regionsAfter_plain (hfront : IsPlain front) (rest : List Char) (position : Position) :
    regionsAfter 0 position (front ++ rest) =
      (regionsAfter 0 (position.after front) rest).map fun all => front.foldr consText all := by
  refine regionsAfter_text (fun before d back hsplit => ?_) (Or.inl fun hlast => ?_) position
  · exact absurd (by simp [hsplit]) hfront.not_mem
  · exact hfront.not_mem (List.mem_of_getLast? hlast)

/-- **The first regions** are the text and the body of the verbatim region. -/
theorem regionsAfter_verbatim (hfront : IsPlain front) (hbody : NoEnd body) (rest : List Char) (position : Position) :
    ∃ behind, regionsAfter 0 position (aroundVerbatim front body rest) = (regionsAfter 0 behind rest).map fun all =>
      plainRegions front ++ .verbatim body ⟨false, false⟩ ⟨false, false⟩ :: all := by
  have hstart : Markup.verbatimStart = '\x7b' :: '%' :: (" verbatim ".toList ++ ['%', '\x7d']) := rfl
  have hmarks : splitMarks " verbatim ".toList = (" verbatim ".toList, ⟨false, false⟩) := by decide
  have hsplit : splitTag " verbatim ".toList = (verbatimName, []) := by decide
  have hread : ∀ place, readTag place " verbatim ".toList ((body ++ Markup.verbatimEnd) ++ rest) =
      .ok (.verbatim body ⟨false, false⟩ ⟨false, false⟩, rest) := by
    intro place
    have hname : verbatimName.isEmpty = false := by decide
    simp only [readTag, hmarks, hsplit, hname, Bool.false_eq_true, if_false, if_true, List.append_assoc,
      cutVerbatim?_body hbody]
  have hsource : aroundVerbatim front body rest = front ++
      '\x7b' :: '%' :: (" verbatim ".toList ++ '%' :: '\x7d' :: ((body ++ Markup.verbatimEnd) ++ rest)) := by
    rw [aroundVerbatim, hstart]
    simp only [List.append_assoc, List.cons_append, List.nil_append]
  have hplain := regionsAfter_plain hfront
    ('\x7b' :: '%' :: (" verbatim ".toList ++ '%' :: '\x7d' :: ((body ++ Markup.verbatimEnd) ++ rest))) position
  obtain ⟨behind, hregion⟩ := regionsAfter_region (passes_plain (by decide)) (hread (position.after front))
  refine ⟨behind, ?_⟩
  rw [hsource, hplain, hregion]
  cases regionsAfter 0 behind rest with
  | error fault => rfl
  | ok all => exact congrArg Except.ok (foldr_consText front (by simp [Region.isText]))

/-! ## what comes to the tokens -/

/-- the texts in front of what stands behind a verbatim region -/
def verbatimParts (front body : List Char) : List (List Char) :=
  [front, body].filter (· ≠ [])

theorem flatten_verbatimParts (front body : List Char) : (verbatimParts front body).flatten = front ++ body := by
  by_cases hfront : front = [] <;> by_cases hbody : body = [] <;> simp [verbatimParts, hfront, hbody]

open Assembly in
/-- a text and a verbatim region leave their texts on the stack, and nothing else -/
theorem run_verbatim (front body : List Char) :
    (plainRegions front ++ [Region.verbatim body ⟨false, false⟩ ⟨false, false⟩]).foldl step start =
      onto (texts (verbatimParts front body)).reverse start := by
  rw [List.foldl_append]
  by_cases hfront : front = []
  · by_cases hbody : body = [] <;>
      simp [hfront, hbody, plainRegions, verbatimParts, texts, onto, start, step, trimLast, trimFirst, pushText]
  · by_cases hbody : body = [] <;>
      simp [hfront, hbody, plainRegions, verbatimParts, texts, onto, start, step, trimLast, trimFirst, pushText]

/-- what regions behind a verbatim region leave of the texts in front of them -/
theorem tokensOf_verbatim (front body : List Char) (behind : List Region) :
    ∃ kept blanks, tokensOf (plainRegions front ++ .verbatim body ⟨false, false⟩ ⟨false, false⟩ :: behind) =
        Assembly.texts kept ++ tokensOf behind ∧
      Assembly.KeptOf (verbatimParts front body) kept blanks ∧
      (blanks ≠ [] ↔ Assembly.start.Reaches behind ∧ Assembly.EndsBlank (front ++ body)) := by
  have hparts : ∀ part ∈ verbatimParts front body, part ≠ [] := by
    intro part hpart
    simpa using (List.mem_filter.1 hpart).2
  obtain ⟨count, hrun, hcount⟩ := Assembly.run_onto Assembly.start behind
  obtain ⟨kept, blanks, hstack, hkept, hblanks⟩ := Assembly.trimmed_texts hparts count
  refine ⟨kept, blanks, ?_, hkept, ?_⟩
  · have hsplit : plainRegions front ++ Region.verbatim body ⟨false, false⟩ ⟨false, false⟩ :: behind =
        (plainRegions front ++ [Region.verbatim body ⟨false, false⟩ ⟨false, false⟩]) ++ behind := by simp
    rw [tokensOf, hsplit, List.foldl_append, run_verbatim, hrun, hstack, Assembly.onto, List.reverse_append,
      List.reverse_reverse]
    rfl
  · rw [hblanks, hcount, flatten_verbatimParts]

theorem tokens_of_compileSource {s : TemplateSet} {context : Context} {source : String} {t : Template}
    {cache : Dict Template} (h : ((s.compileSource context source).outcome cache).1 = .ok t) :
    ∃ all, tokens (s.preprocess source) = .ok all := by
  unfold TemplateSet.compileSource at h
  dsimp only at h
  cases htokens : tokens (s.preprocess source) with
  | error fault =>
    rw [htokens] at h
    cases h
  | ok all => exact ⟨all, rfl⟩

/-- a source that compiles has tokens -/
theorem tokens_of_fromString {s : TemplateSet} {source : String} {t : Template}
    (h : (s.fromString source).1 = .ok t) : ∃ all, tokens (s.preprocess source) = .ok all := by
  have hcompile : ((s.compile stringTemplateName source).outcome s.cache).1 = .ok t := h
  unfold TemplateSet.compile at hcompile
  cases hlevels : s.options.maxDepth with
  | zero =>
    rw [hlevels] at hcompile
    exact tokens_of_compileSource hcompile
  | succ levels =>
    rw [hlevels] at hcompile
    exact tokens_of_compileSource hcompile

/-- **A text and a verbatim region** in front of anything that compiles are the first tokens, with every character of
the body. Only white space at their end can be lost, and it is lost exactly when a mark before a later region reaches
it. -/
theorem verbatim_text {s : TemplateSet} (hpasses : s.passes = []) (hfront : IsPlain front) (hbody : NoEnd body)
    {rest : List Char} {t : Template}
    (h : (s.fromString (String.ofList (aroundVerbatim front body rest))).1 = .ok t) :
    ∃ place behind kept blanks,
      regionsAfter 0 place (s.preprocess (String.ofList rest)).toList = .ok behind ∧
      tokens (s.preprocess (String.ofList (aroundVerbatim front body rest))) =
        .ok (Assembly.texts kept ++ tokensOf behind) ∧
      Assembly.KeptOf (verbatimParts front body) kept blanks ∧
      (blanks ≠ [] ↔ Assembly.start.Reaches behind ∧ Assembly.EndsBlank (front ++ body)) := by
  obtain ⟨all, hall⟩ := tokens_of_fromString h
  have hsource := preprocess_verbatim hpasses hfront hbody rest
  obtain ⟨place, hregions⟩ :=
    regionsAfter_verbatim hfront hbody (s.preprocess (String.ofList rest)).toList Position.start
  rw [tokens, hsource, regions, hregions] at hall ⊢
  cases hbehind : regionsAfter 0 place (s.preprocess (String.ofList rest)).toList with
  | error fault =>
    rw [hbehind] at hall
    cases hall
  | ok behind =>
    obtain ⟨kept, blanks, htokens, hkept, hblanks⟩ := tokensOf_verbatim front body behind
    exact ⟨place, behind, kept, blanks, hbehind, congrArg Except.ok htokens, hkept, hblanks⟩

/-- a set without components -/
def plainSet : TemplateSet :=
  TemplateSet.new (.memory .empty) Options.standard

/-- a body with markup, an output and a tag that is none -/
def markedBody : List Char :=
  "<x-b>\x7b\x7b x \x7d\x7d\x7b% if %\x7d".toList

/-- the body is the text of a token, markup and all -/
theorem verbatim_text_markedBody :
    ∃ place, tokens (plainSet.preprocess (String.ofList (aroundVerbatim "a ".toList markedBody
        "\x7b\x7b- 1 \x7d\x7d".toList))) =
      .ok [.text "a ", .text "<x-b>\x7b\x7b x \x7d\x7d\x7b% if %\x7d", .output "1" place] := by
  have hok : ∃ t, (plainSet.fromString (String.ofList (aroundVerbatim "a ".toList markedBody
      "\x7b\x7b- 1 \x7d\x7d".toList))).1 = .ok t := exists_eq_ok_of_isOk (by decide +kernel)
  have hfront : IsPlain "a ".toList := by
    simp [IsPlain]
  have hbody : NoEnd markedBody := noEnd_of_not_mem (c := 'd') (by decide) (by decide)
  obtain ⟨t, ht⟩ := hok
  obtain ⟨place, behind, kept, blanks, hbehind, htokens, hkept, hblanks⟩ := verbatim_text rfl hfront hbody ht
  have hnone : blanks = [] := by
    by_contra hne
    obtain ⟨-, c, hlast, hblank⟩ := hblanks.1 hne
    have hbrace : ("a ".toList ++ markedBody).getLast? = some '\x7d' := by decide
    rw [hbrace, Option.some.injEq] at hlast
    subst hlast
    exact absurd hblank (by decide)
  have hrest : (plainSet.preprocess (String.ofList "\x7b\x7b- 1 \x7d\x7d".toList)).toList =
      "\x7b\x7b- 1 \x7d\x7d".toList := by decide +kernel
  have hregions : regionsAfter 0 place "\x7b\x7b- 1 \x7d\x7d".toList =
      .ok [.output place "1".toList ⟨true, false⟩] := rfl
  rw [hrest, hregions] at hbehind
  cases hbehind
  rw [hkept.same hnone] at htokens
  exact ⟨place, htokens⟩

/-- **A mark behind a verbatim region** takes white space from its body. -/
theorem verbatim_space_lost :
    ¬ ∀ front body rest, IsPlain front → NoEnd body →
      (∃ t, (plainSet.fromString (String.ofList (aroundVerbatim front body rest))).1 = .ok t) →
      ∃ behind, tokens (plainSet.preprocess (String.ofList (aroundVerbatim front body rest))) =
        .ok (Assembly.texts (verbatimParts front body) ++ behind) := by
  intro h
  have hok : ∃ t, (plainSet.fromString (String.ofList (aroundVerbatim [] "a ".toList
      "\x7b\x7b- 1 \x7d\x7d".toList))).1 = .ok t := exists_eq_ok_of_isOk (by decide +kernel)
  have hbody : NoEnd "a ".toList := noEnd_of_not_mem (c := 'd') (by decide) (by decide)
  obtain ⟨behind, hbegin⟩ := h [] "a ".toList _ (by simp [IsPlain]) hbody hok
  have hfirst : (tokens (plainSet.preprocess (String.ofList (aroundVerbatim [] "a ".toList
      "\x7b\x7b- 1 \x7d\x7d".toList)))).toOption.bind List.head? = some (.text "a") := by decide +kernel
  rw [hbegin] at hfirst
  exact absurd (Option.some.inj hfirst) (by decide)

end Template

end Templating
