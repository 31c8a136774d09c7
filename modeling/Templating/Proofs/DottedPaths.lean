/-
Dotted paths.

A path is the name of a variable and, behind points, the names and indices under which the value is looked up further
and further inside. Its words come one after the other, but for one thing: a number takes the point behind it when a
digit follows, so two indices next to each other are one number with a fraction. Behind a point such a number is no
name of a part.

- `tokens_textsOf`: the words behind the variable, with two neighbouring indices in one word.
- `ReadAt.path`: segments without neighbouring indices are read one by one.
- `partsOf_neighbours`, `expression_error`: the others are refused, whatever the expression is a part of.
- `eval_withSegments`: what the chain of a path evaluates to.
- `dotted_path`: so a path is read as the chain of its segments exactly when no two indices are next to each other.
- `neighbouring_indices_refused`: the shortest path that is refused.
-/
import Templating.Expr.Eval
import Templating.Proofs.PrintedExpression

namespace Templating

namespace Expr

open Reader

/-! ## Paths -/

/-- what stands behind a point of a path -/
inductive Segment where
  | name (s : String)
  | index (n : Nat)
  deriving DecidableEq, Repr

namespace Segment

/-- how the segment is written; an index has no zeros in front -/
def text : Segment → List Char
  | name s => s.toList
  | index n => Nat.toDigits 10 n

/-- the key that it stands for -/
def key (segment : Segment) : String :=
  String.ofList segment.text

/-- the word that it is on its own -/
def word : Segment → Token
  | name s => .ident s
  | index n => .int (Int64.ofNat n)

/-- a name is an identifier, and an index is no more than the largest literal, which is `2 ^ 63 - 1` -/
def isValid : Segment → Bool
  | name s => isIdentifier s
  | index n => n ≤ maxLiteral

/-- the part of a value that the segment names: in a list by its place, in anything else by its key -/
def part : Segment → Value → Value
  | index n, .list items => items[n]?.getD .null
  | segment, v => v.member segment.key

/-- two indices stand next to each other -/
def neighbours : List Segment → Bool
  | index _ :: index _ :: _ => true
  | _ :: rest => neighbours rest
  | [] => false

/-- the segments as they are written, each behind a point -/
def textsOf : List Segment → List Char
  | [] => []
  | segment :: rest => '.' :: (segment.text ++ textsOf rest)

/-- the words of the written segments -/
def wordsOf : List Segment → List Token
  | index m :: index n :: rest =>
    .symbol .dot :: .float (Decimal.floatOfDigits (index m).text (index n).text) :: wordsOf rest
  | segment :: rest => .symbol .dot :: segment.word :: wordsOf rest
  | [] => []

end Segment

/-- the text of a path -/
def pathText (name : String) (segments : List Segment) : List Char :=
  name.toList ++ Segment.textsOf segments

/-- the expression with the segments behind it, one by one from the left -/
def withSegments (e : Expr) (segments : List Segment) : Expr :=
  segments.foldl (fun e segment => member e segment.key) e

variable {segment : Segment} {segments : List Segment} {nested : Reader Expr} {ws rest left : List Token} {e : Expr}
  {text behind digits : List Char} {word : Token} {fault : SyntaxFault} {name : String}

/-! ## Words of paths -/

/-- a word in front of a text that it does not go on with -/
theorem tokens_spelling (h : Spelling word text) (hbehind : word.EndsBefore behind) :
    tokens (text ++ behind) = (tokens behind).map ([word] ++ ·) := by
  obtain ⟨c, tail, rfl, hblank, hread⟩ := readToken_spelling h hbehind
  exact tokens_word hblank hread

/-- a number with a fraction is one word -/
theorem tokens_fraction {whole : List Char} (hne : whole ≠ []) (hwhole : ∀ c ∈ whole, c.isDigit = true)
    (hdigits : ∀ c ∈ digits, c.isDigit = true) (hsome : digits ≠ []) (hbehind : ∀ c ∈ behind.head?, c.isDigit = false) :
    tokens (whole ++ '.' :: (digits ++ behind)) =
      (tokens behind).map ([.float (Decimal.floatOfDigits whole digits)] ++ ·) := by
  obtain ⟨c, tail, rfl⟩ := List.exists_cons_of_ne_nil hne
  have hdigit := hwhole c List.mem_cons_self
  have hident := isIdentChar_of_isDigit hdigit
  have hpoint : ∀ c ∈ ('.' :: (digits ++ behind)).head?, c.isDigit = false := by simp
  obtain ⟨htake, hdrop⟩ := Text.takeWhile_front hwhole hpoint
  have hfraction : fractionOf ('.' :: (digits ++ behind)) = digits := (Text.takeWhile_front hdigits hbehind).1
  have hread : readToken c ((tail ++ '.' :: digits) ++ behind) =
      .ok (.float (Decimal.floatOfDigits (c :: tail) digits), behind) := by
    rw [readToken, if_neg (not_quote_of_isIdentChar hident), if_pos hdigit, List.append_assoc, List.cons_append,
      ← List.cons_append, readNumber_eq, htake, hdrop, hfraction, if_neg (by simpa using hsome), Nat.add_comm,
      List.drop_succ_cons, List.drop_left]
  have htokens := tokens_word (isAsciiBlank_of_isIdentChar hident) hread
  simpa using htokens

namespace Segment

theorem spelling (h : segment.isValid = true) : Spelling segment.word segment.text := by
  cases segment with
  | name s => exact .ident h
  | index n =>
    have hmax : Decimal.natOfDigits (Nat.toDigits 10 n) ≤ maxLiteral := by
      rw [natOfDigits_toDigits]
      exact of_decide_eq_true h
    have hdigits : ∀ c ∈ Nat.toDigits 10 n, c.isDigit = true :=
      fun c hc => Nat.isDigit_of_mem_toDigits (by decide) (by decide) hc
    have hspelling := Spelling.int Nat.toDigits_ne_nil hdigits hmax
    rwa [natOfDigits_toDigits] at hspelling

theorem text_index (n : Nat) : (index n).text ≠ [] ∧ ∀ c ∈ (index n).text, c.isDigit = true :=
  ⟨Nat.toDigits_ne_nil, fun _ hc => Nat.isDigit_of_mem_toDigits (by decide) (by decide) hc⟩

/-- what follows a segment starts with a point -/
theorem head?_textsOf {c : Char} (hc : c ∈ (textsOf segments).head?) : c = '.' := by
  cases segments with
  | nil => cases hc
  | cons segment rest => exact (Option.some.inj hc).symm

/-- an index ends in front of segments that do not start with another one -/
theorem fractionOf_textsOf (hvalid : ∀ segment ∈ segments, segment.isValid = true)
    (hnext : ∀ n rest, segments ≠ index n :: rest) : fractionOf (textsOf segments) = [] := by
  cases segments with
  | nil => rfl
  | cons segment rest =>
    cases segment with
    | index n => exact absurd rfl (hnext n rest)
    | name s =>
      have hname : isIdentifier s = true := hvalid _ List.mem_cons_self
      unfold isIdentifier at hname
      split at hname
      · cases hname
      · next c tail hchars =>
        rw [Bool.and_eq_true] at hname
        simp [textsOf, text, hchars, fractionOf, isDigit_of_isIdentStart hname.1]

/-- a segment ends in front of others, unless both are indices -/
theorem word_endsBefore (hvalid : ∀ segment ∈ segments, segment.isValid = true)
    (hnext : ∀ m n rest, segment = index m → segments ≠ index n :: rest) :
    segment.word.EndsBefore (textsOf segments) := by
  cases segment with
  | name s =>
    intro c hc
    rw [head?_textsOf hc]
    decide
  | index m =>
    refine ⟨fun c hc => ?_, fractionOf_textsOf hvalid fun n rest => hnext m n rest rfl⟩
    rw [head?_textsOf hc]
    decide

/-- **The words of written segments.** -/
theorem tokens_textsOf (hvalid : ∀ segment ∈ segments, segment.isValid = true) :
    tokens (textsOf segments) = .ok (wordsOf segments) := by
  have hdot : ∀ text, tokens ('.' :: text) = (tokens text).map ([.symbol .dot] ++ ·) :=
    fun text => tokens_spelling (.symbol .dot) trivial
  fun_induction wordsOf segments with
  | case1 m n rest ih =>
    obtain ⟨-, -, hrest⟩ : _ ∧ _ ∧ _ := by simpa only [List.forall_mem_cons] using hvalid
    have hpoint : ∀ c ∈ (textsOf rest).head?, c.isDigit = false := fun c hc => by rw [head?_textsOf hc]; decide
    have hnumber := tokens_fraction (text_index m).1 (text_index m).2 (text_index n).2 (text_index n).1 hpoint
    rw [textsOf, textsOf, hdot, hnumber, ih hrest]
    rfl
  | case2 segment rest hother ih =>
    obtain ⟨hsegment, hrest⟩ := List.forall_mem_cons.1 hvalid
    have hends : segment.word.EndsBefore (textsOf rest) :=
      word_endsBefore hrest fun m n more hm hn => hother m n more hm hn
    rw [textsOf, hdot, tokens_spelling (spelling hsegment) hends, ih hrest]
    rfl
  | case3 => rfl

/-! ## What paths are read as -/

theorem memberName_word (h : segment.isValid = true) (rest : List Token) :
    memberName.read (segment.word :: rest) = (.ok segment.key, rest) := by
  cases segment with
  | name s =>
    rw [key, text, String.ofList_toList]
    rfl
  | index n =>
    have hlt : n < 2 ^ 63 := Nat.lt_succ_of_le (of_decide_eq_true h)
    have hint : (Int64.ofNat n).toInt = n := Int64.toInt_ofNat_of_lt hlt
    have hkey : toString (Int64.ofNat n).toInt = (index n).key := by
      rw [hint, key, text]
      rfl
    rw [← hkey]
    rfl

/-- one segment is read in front of words that do not make a call of it -/
theorem partsOf_segment (h : segment.isValid = true) (hrest : (acceptSymbol .openParen).read rest = (.ok false, rest))
    (fuel : Nat) (e : Expr) :
    (partsOf nested (fuel + 1) e).read (.symbol .dot :: segment.word :: rest) =
      (partsOf nested fuel (member e segment.key)).read rest := by
  rw [partsOf, read_bind_ok (acceptSymbol_read .dot _), if_pos rfl, read_bind_ok (memberName_word h rest),
    read_bind_ok hrest, if_neg Bool.false_ne_true]

theorem head_wordsOf (segments : List Segment) :
    (acceptSymbol .openParen).read (wordsOf segments) = (.ok false, wordsOf segments) := by
  fun_cases wordsOf segments <;> rfl

/-- segments without neighbouring indices have one word each -/
theorem wordsOf_eq (h : neighbours segments = false) :
    wordsOf segments = segments.flatMap fun segment => [.symbol .dot, segment.word] := by
  fun_induction wordsOf segments with
  | case1 m n rest => cases h
  | case2 segment rest hother ih =>
    rw [neighbours] at h
    · rw [ih h]
      rfl
    · exact hother
  | case3 => rfl

theorem length_le_wordsOf (segments : List Segment) : segments.length ≤ (wordsOf segments).length := by
  fun_induction wordsOf segments <;>
  · simp only [List.length_cons, List.length_nil] at *
    omega

/-- two indices next to each other are no names of parts -/
theorem partsOf_neighbours (hvalid : ∀ segment ∈ segments, segment.isValid = true) (h : neighbours segments = true)
    {fuel : Nat} (hfuel : segments.length ≤ fuel) (e : Expr) :
    ∃ left, (partsOf nested fuel e).read (wordsOf segments) = (.error .memberNameMissing, left) := by
  fun_induction wordsOf segments generalizing fuel e with
  | case1 m n rest =>
    obtain ⟨fuel, rfl⟩ := Nat.exists_eq_add_of_le' (Nat.lt_of_lt_of_le (by simp) hfuel : 1 ≤ fuel)
    rw [partsOf, read_bind_ok (acceptSymbol_read .dot _), if_pos rfl]
    -- behind the point is a number with a fraction
    exact ⟨_, read_bind_error rfl _⟩
  | case2 segment rest hother ih =>
    obtain ⟨hsegment, hrest⟩ := List.forall_mem_cons.1 hvalid
    obtain ⟨fuel, rfl⟩ := Nat.exists_eq_add_of_le' (Nat.lt_of_lt_of_le (by simp) hfuel : 1 ≤ fuel)
    rw [partsOf_segment hsegment (head_wordsOf rest)]
    rw [neighbours] at h
    · exact ih hrest h (Nat.le_of_succ_le_succ hfuel) _
    · exact hother
  | case3 => cases h

end Segment

open Segment

theorem readAt_segment (h : ReadAt nested 7 ws e) (hsegment : segment.isValid = true) :
    ReadAt nested 7 (ws ++ [.symbol .dot, segment.word]) (member e segment.key) := by
  refine ⟨h.starts.append _, fun rest hrest => ?_⟩
  obtain ⟨fuel, hfuel, hread⟩ := h.reads (.symbol .dot :: segment.word :: rest) (stops_cons.2 (by decide))
  obtain ⟨fuel, rfl⟩ := Nat.exists_eq_succ_of_ne_zero (Nat.ne_zero_of_lt hfuel)
  refine ⟨fuel, by simp only [List.length_cons] at hfuel; omega, ?_⟩
  rw [List.append_assoc, List.cons_append, List.singleton_append, hread,
    partsOf_segment hsegment (hrest.acceptSymbol (by decide))]

/-- **Segments are read one by one** behind an expression. -/
theorem ReadAt.path (h : ReadAt nested 7 ws e) (hvalid : ∀ segment ∈ segments, segment.isValid = true) :
    ReadAt nested 7 (ws ++ segments.flatMap fun segment => [.symbol .dot, segment.word]) (withSegments e segments) := by
  induction segments generalizing ws e with
  | nil => simpa [withSegments] using h
  | cons segment rest ih =>
    obtain ⟨hsegment, hrest⟩ := List.forall_mem_cons.1 hvalid
    have hpath := ih (readAt_segment h hsegment) hrest
    simpa [withSegments] using hpath

theorem withParts_neighbours (hvalid : ∀ segment ∈ segments, segment.isValid = true)
    (h : neighbours segments = true) :
    ∃ left, (withParts nested).read (.ident name :: wordsOf segments) = (.error .memberNameMissing, left) := by
  have hname : (primary nested).read (.ident name :: wordsOf segments) = (.ok (ofIdent name), wordsOf segments) := rfl
  rw [withParts, read_bind_ok hname, read_bind_ok (wordsLeft_read _)]
  exact partsOf_neighbours hvalid h (length_le_wordsOf segments) _

/-- words that are an operand are a whole expression -/
theorem expression_read (h : ∀ nested, ReadAt nested 7 ws e) : expression.read ws = (.ok e, []) := by
  have hwhole := ((h (expressionWithin ws.length)).descend (Nat.le_refl 1) (by decide)).disjunction [] (by simp [Stops])
  rw [List.append_nil] at hwhole
  rw [expression, read_bind_ok (wordsLeft_read _)]
  exact hwhole

/-- **What is wrong in the first operand** is told for the whole expression. -/
theorem expression_error (hword : 7 ≤ word.opens)
    (h : ∀ nested, ∃ left, (withParts nested).read (word :: ws) = (.error fault, left)) :
    ∃ left, expression.read (word :: ws) = (.error fault, left) := by
  have hminus : word ≠ .symbol .minus := by
    rintro rfl
    exact absurd hword (by decide)
  have hnot : word ≠ .ident "not" := by
    rintro rfl
    exact absurd hword (by decide)
  obtain ⟨left, hread⟩ := h (expressionWithin (word :: ws).length)
  have hsigned : (signed (expressionWithin (word :: ws).length)).read (word :: ws) = (.error fault, left) := by
    rw [signed, read_bind_ok (acceptSymbol_other hminus ws), if_neg Bool.false_ne_true, hread]
  have hcomparison : (comparison (expressionWithin (word :: ws).length)).read (word :: ws) = (.error fault, left) := by
    rw [comparison, read_bind_error]
    rw [withFilters, read_bind_error hsigned]
  have hnegation : (negation (expressionWithin (word :: ws).length) (ws.length + 1)).read (word :: ws) =
      (.error fault, left) := by
    rw [negation, read_bind_ok (acceptKeyword_other hnot ws), if_neg Bool.false_ne_true, hcomparison]
  refine ⟨left, ?_⟩
  rw [expression, read_bind_ok (wordsLeft_read _), expressionWithin, disjunction, read_bind_error]
  rw [conjunction, read_bind_ok (wordsLeft_read _)]
  exact read_bind_error hnegation _

namespace Segment

/-- an index is the place that its key stands for -/
theorem listIndex?_key {n : Nat} (h : n ≤ maxLiteral) : Value.listIndex? (Segment.index n).key = some n := by
  obtain ⟨hne, hdigits⟩ := text_index n
  have hplus : ∀ rest, (Segment.index n).text ≠ '+' :: rest := by
    intro rest htext
    have hplus := hdigits '+' (by simp [htext])
    exact absurd hplus (by decide)
  have hmax : n ≤ Value.maxIndex := h.trans (by decide)
  have hall : (Segment.index n).text.all Char.isDigit = true := List.all_eq_true.2 hdigits
  have hvalue : Decimal.natOfDigits (Segment.index n).text = n := natOfDigits_toDigits n
  unfold Value.listIndex?
  rw [key, String.toList_ofList]
  split
  · next rest htext => exact absurd htext (hplus rest)
  · simp [hne, hall, hvalue, hmax]

/-- a part that a segment names is the member under its key -/
theorem part_eq (h : segment.isValid = true) (v : Value) : segment.part v = v.member segment.key := by
  cases segment with
  | name s => rfl
  | index n =>
    cases v with
    | list items => rw [part, Value.member, listIndex?_key (of_decide_eq_true h), Option.bind_some]
    | _ => rfl

end Segment

/-- **A path is looked up** part by part. -/
theorem eval_withSegments (hvalid : ∀ segment ∈ segments, segment.isValid = true) {scope : Scope} {v : Value}
    (h : e.eval scope = .ok v) :
    (withSegments e segments).eval scope = .ok (segments.foldl (fun v segment => segment.part v) v) := by
  induction segments generalizing e v with
  | nil => exact h
  | cons segment rest ih =>
    obtain ⟨hsegment, hrest⟩ := List.forall_mem_cons.1 hvalid
    have hmember : (member e segment.key).eval scope = .ok (segment.part v) := by
      rw [part_eq hsegment, eval, h]
      rfl
    exact ih hrest hmember

/-- **Dotted paths.** A path, which is a variable and names and indices behind points, is read to its end as the chain
of its segments, when no two indices stand next to each other. When two do, it is refused, because what stands behind a
point is no name. The chain evaluates to what is found by going from the value of the variable from part to part, where
an index is a place in a list. -/
theorem dotted_path (site : Site) (hname : isIdentifier name = true) (hkeyword : name ∉ keywords)
    (hvalid : ∀ segment ∈ segments, segment.isValid = true) :
    ∃ a, Arguments.ofText site (String.ofList (pathText name segments)) = .ok a ∧
      (neighbours segments = false →
        a.read expression = (.ok (withSegments (var name) segments), { a with pos := a.count })) ∧
      (neighbours segments = true →
        ∃ pos, a.read expression = (.error (.malformed site .memberNameMissing), { a with pos := pos })) ∧
      ∀ scope, (withSegments (var name) segments).eval scope =
        .ok (segments.foldl (fun v segment => segment.part v) ((scope.get? name).getD .null)) := by
  have hends : (Token.ident name).EndsBefore (textsOf segments) := by
    intro c hc
    rw [head?_textsOf hc]
    decide
  have htokens : tokens (pathText name segments) = .ok (.ident name :: wordsOf segments) := by
    rw [pathText, tokens_spelling (.ident hname) hends, tokens_textsOf hvalid]
    rfl
  refine ⟨⟨.start (.ident name :: wordsOf segments), site⟩, ?_, fun h => ?_, fun h => ?_,
    fun scope => eval_withSegments hvalid rfl⟩
  · rw [Arguments.ofText, String.toList_ofList, htokens]
  · have hread : expression.read (.ident name :: wordsOf segments) = (.ok (withSegments (var name) segments), []) := by
      rw [wordsOf_eq h]
      exact expression_read fun nested => (readAt_var hkeyword).path hvalid
    have hall : Token.ident name :: wordsOf segments = (.ident name :: wordsOf segments) ++ [] :=
      (List.append_nil _).symm
    rw [hall] at hread ⊢
    rw [expression_careful.read_start hread, List.append_nil]
    rfl
  · have hopens : 7 ≤ (Token.ident name).opens := by
      have hnot : name ≠ "not" := by
        rintro rfl
        exact absurd hkeyword (by decide)
      rw [opens_ident hnot]
    obtain ⟨left, hread⟩ := expression_error hopens fun nested => withParts_neighbours hvalid h
    exact ⟨_, by rw [Arguments.read_eq, Cursor.words_start, hread]; rfl⟩

theorem dotted_path_row : ∃ a, Arguments.ofText ⟨"page", .start⟩ "rows.0.in.12" = .ok a ∧
    a.read expression = (.ok (member (member (member (var "rows") "0") "in") "12"), { a with pos := 7 }) := by
  have hname : isIdentifier "rows" = true := by decide
  have hvalid : ∀ segment ∈ [Segment.index 0, .name "in", .index 12], segment.isValid = true := by decide
  obtain ⟨a, ha, hread, -, -⟩ := dotted_path ⟨"page", .start⟩ hname (by decide) hvalid
  have hcount : a.count = 7 := by
    cases ha
    rfl
  exact ⟨a, ha, hcount ▸ hread rfl⟩

/-- **Two indices next to each other** are read as a number with a fraction, which is no name of a part. -/
theorem neighbouring_indices_refused : ∃ a, Arguments.ofText ⟨"page", .start⟩ "m.0.1" = .ok a ∧
    (a.read expression).1 = .error (.malformed ⟨"page", .start⟩ .memberNameMissing) :=
  ⟨_, rfl, rfl⟩

end Expr

end Templating
