/-
What an error report underlines.

A report shows the line in which the error is, and carets below it from the column of the error on. How many carets
there are is a search in the rest of the line: up to the first tag end, else up to the first output end, else to the
end of the line. A token ends where the reading of the source says, outside of quotes and with its own kind of
delimiter; so the carets end with the token exactly when the search comes to that place (`TokenLine.Clear`).

- `sourceLine?_lines`: the line behind so many line ends, without its own end.
- `length_of_cutAt?_iff`: where a search in a text comes to the end of a part of it.
- `underlineLength_eq_iff`: so for the search of the report.
- `TokenLine.nonempty`: every output and every tag starts in a line.
- `report_underlines`: the report shows this line and underlines from the first brace of the token on, and it ends with
  the token or with the line exactly when the search does.
-/
import Templating.Proofs.LineIndex
import Templating.Proofs.TokenPlaces
import Templating.Report

namespace Templating

variable {line text rest below mark visible tail before behind : List Char} {number : Nat}

/-! ## Lines -/

/-- what follows a line: nothing, or its line end -/
inductive LineEnd (line : List Char) : List Char → Prop where
  | last : LineEnd line []
  | feed (rest : List Char) : line.getLast? ≠ some '\r' → LineEnd line ('\n' :: rest)
  | returnFeed (rest : List Char) : LineEnd line ('\r' :: '\n' :: rest)

/-- a text that goes on behind a line starts with a line end -/
theorem LineEnd.feed_mem {more behind : List Char} (h : LineEnd line (more ++ behind)) (hne : more ≠ [])
    (hreturn : more.getLast? ≠ some '\r') : '\n' ∈ more := by
  obtain ⟨c, more, rfl⟩ := List.exists_cons_of_ne_nil hne
  rw [List.cons_append] at h
  generalize hbelow : more ++ behind = below at h
  cases h with
  | feed => exact List.mem_cons_self
  | returnFeed rest =>
    cases more with
    | nil => exact absurd rfl hreturn
    | cons d more =>
      obtain ⟨rfl, -⟩ := List.cons.inj hbelow
      simp

/-- a text in front of which a line has started goes on to the end of the line -/
theorem exists_lineEnd {c : Char} (hfeed : c ≠ '\n') (left rest : List Char) :
    ∃ right below, c :: rest = right ++ below ∧ '\n' ∉ right ∧ LineEnd (left ++ right) below := by
  by_cases hmem : '\n' ∈ c :: rest
  · obtain ⟨line, more, hsplit, hline⟩ := List.eq_append_cons_of_mem hmem
    rcases List.eq_nil_or_concat line with rfl | ⟨init, d, rfl⟩
    · exact absurd (List.cons.inj hsplit).1 hfeed
    · rw [List.concat_eq_append] at hsplit hline
      by_cases hd : d = '\r'
      · subst hd
        refine ⟨init, '\r' :: '\n' :: more, by rw [hsplit, List.append_assoc]; rfl, ?_, .returnFeed more⟩
        exact fun h => hline (List.mem_append_left _ h)
      · refine ⟨init ++ [d], '\n' :: more, hsplit, hline, .feed more ?_⟩
        rw [← List.append_assoc, List.getLast?_concat]
        simpa using hd
  · exact ⟨c :: rest, [], (List.append_nil _).symm, hmem, .last⟩

theorem firstLine_last (h : '\n' ∉ line) : firstLine line = (line, none) := by
  induction line with
  | nil => rfl
  | cons c line ih =>
    obtain ⟨hc, hline⟩ := not_or.1 (h ∘ List.mem_cons.2)
    rw [firstLine, if_neg (Ne.symm hc), ih hline]

theorem firstLine_feed (h : '\n' ∉ line) (rest : List Char) : firstLine (line ++ '\n' :: rest) = (line, some rest) := by
  induction line with
  | nil => rfl
  | cons c line ih =>
    obtain ⟨hc, hline⟩ := not_or.1 (h ∘ List.mem_cons.2)
    rw [List.cons_append, firstLine, if_neg (Ne.symm hc), ih hline]

theorem dropReturn_return (line : List Char) : dropReturn (line ++ ['\r']) = line := by
  simp [dropReturn]

theorem dropReturn_eq (h : line.getLast? ≠ some '\r') : dropReturn line = line := by
  unfold dropReturn
  split
  · next init hreverse =>
    rw [← List.head?_reverse, hreverse] at h
    exact absurd rfl h
  · rfl

theorem sourceLine?_first {more : Option (List Char)} (hne : text ≠ []) (h : firstLine text = (line, more)) :
    sourceLine? 0 text = some (if more.isSome then dropReturn line else line) := by
  obtain ⟨c, rest, rfl⟩ := List.exists_cons_of_ne_nil hne
  simp only [sourceLine?, h]

theorem sourceLine?_succ (h : '\n' ∉ line) (number : Nat) (rest : List Char) :
    sourceLine? (number + 1) (line ++ '\n' :: rest) = sourceLine? number rest := by
  have hfirst := firstLine_feed h rest
  cases line with
  | nil => simp only [List.nil_append, sourceLine?, firstLine, if_true]
  | cons c line =>
    rw [List.cons_append] at hfirst ⊢
    simp only [sourceLine?, hfirst]

/-- the line at the start of a text -/
theorem sourceLine?_zero (hline : '\n' ∉ line) (hne : line ≠ []) (hend : LineEnd line below) :
    sourceLine? 0 (line ++ below) = some line := by
  have hsome : line ++ below ≠ [] := by simp [hne]
  cases hend with
  | last =>
    rw [List.append_nil] at hsome ⊢
    exact sourceLine?_first hsome (firstLine_last hline)
  | feed rest hlast =>
    rw [sourceLine?_first hsome (firstLine_feed hline rest)]
    exact congrArg some (dropReturn_eq hlast)
  | returnFeed rest =>
    have hreturn : '\n' ∉ line ++ ['\r'] := by simp [hline]
    have hfirst := firstLine_feed hreturn rest
    rw [List.append_assoc, List.singleton_append] at hfirst
    rw [sourceLine?_first hsome hfirst]
    exact congrArg some (dropReturn_return line)

/-- **The line behind so many line ends.** -/
theorem sourceLine?_lines (h : IsLines text) (rest : List Char) :
    sourceLine? (text.count '\n') (text ++ rest) = sourceLine? 0 rest := by
  induction hlength : text.length using Nat.strongRecOn generalizing text with
  | ind n ih =>
    subst hlength
    by_cases hfeed : '\n' ∈ text
    · obtain ⟨line, more, rfl, hline⟩ := List.eq_append_cons_of_mem hfeed
      have hmore : IsLines more := by
        intro c hc
        refine h c ?_
        rw [Option.mem_def] at hc ⊢
        rw [List.getLast?_append, List.getLast?_cons, hc]
        rfl
      have hcount : (line ++ '\n' :: more).count '\n' = more.count '\n' + 1 := by
        rw [List.count_append, List.count_eq_zero.2 hline, List.count_cons_self, Nat.zero_add]
      rw [hcount, List.append_assoc, List.cons_append, sourceLine?_succ hline]
      refine ih _ ?_ hmore rfl
      rw [List.length_append, List.length_cons]
      omega
    · -- lines without a line end are none
      have hnone : text = [] := by
        rcases List.eq_nil_or_concat text with rfl | ⟨init, c, rfl⟩
        · rfl
        · obtain rfl : c = '\n' := h c (by simp)
          exact absurd (by simp) hfeed
      rw [hnone]
      rfl

/-! ## The search for the end -/

/-- a mark that is found in a text, but nowhere before its end, is its end -/
theorem suffix_of_infix (h : mark <:+: text) (hbefore : ¬ mark <:+: text.dropLast) : mark <:+ text := by
  obtain ⟨front, back, rfl⟩ := h
  rcases List.eq_nil_or_concat back with rfl | ⟨init, c, rfl⟩
  · exact ⟨front, by rw [List.append_nil]⟩
  · refine absurd ⟨front, init, ?_⟩ hbefore
    rw [List.concat_eq_append, ← List.append_assoc, List.dropLast_concat]

/-- **A search comes to the end of a part** of the text when the part ends with the mark and has it nowhere before. -/
theorem length_of_cutAt?_iff (h : Text.cutAt? mark (visible ++ tail) = some (before, behind)) (hmark : mark ≠ []) :
    before.length + mark.length = visible.length ↔ mark <:+ visible ∧ ¬ mark <:+: visible.dropLast := by
  obtain ⟨hsplit, hfirst⟩ := Text.cutAt?_eq_some_iff.1 h
  constructor
  · intro hlength
    have hfound : (before ++ mark).length = visible.length := by rw [List.length_append, hlength]
    obtain ⟨rfl, rfl⟩ := List.append_inj hsplit hfound.symm
    refine ⟨⟨before, rfl⟩, fun hinfix => ?_⟩
    obtain ⟨front, back, hback⟩ := hinfix
    have hshort := congrArg List.length hback
    have hle := hfirst front (back ++ [(before ++ mark).getLast (by simp [hmark])] ++ tail) (by
      rw [← List.append_assoc, ← List.append_assoc, hback, List.dropLast_append_getLast])
    simp only [List.length_append, List.length_dropLast] at hshort
    have hpos := List.length_pos_iff.2 hmark
    omega
  · rintro ⟨⟨front, rfl⟩, hbefore⟩
    have hle := hfirst front tail rfl
    rw [List.length_append]
    by_contra hne
    refine hbefore ?_
    have hprefix : before ++ mark <+: front ++ mark := by
      refine List.prefix_of_prefix_length_le ⟨behind, hsplit.symm⟩ ⟨tail, rfl⟩ ?_
      simp only [List.length_append]
      omega
    obtain ⟨more, hmore⟩ := hprefix
    rcases List.eq_nil_or_concat more with rfl | ⟨init, c, rfl⟩
    · have hlength := congrArg List.length hmore
      simp only [List.length_append, List.append_nil] at hlength
      omega
    · refine ⟨before, init, ?_⟩
      rw [← hmore, List.concat_eq_append, ← List.append_assoc, List.dropLast_concat]

/-- the end of a tag -/
def tagEnd : List Char := ['%', '\x7d']

/-- the end of an output -/
def outputEnd : List Char := ['\x7d', '\x7d']

/-- the search for the end of a tag or an output in a line comes to the end of this part of it, from where it starts -/
def EndFound (visible line : List Char) : Prop :=
  if tagEnd <:+ visible then ¬ tagEnd <:+: visible.dropLast
  else ¬ tagEnd <:+: line ∧ ¬ outputEnd <:+: visible.dropLast

instance (visible line : List Char) : Decidable (EndFound visible line) :=
  inferInstanceAs (Decidable (if tagEnd <:+ visible then _ else _))

/-- **What is underlined** is a part of the line that ends like a tag or an output, or that is all of it, exactly when
the search comes to its end. -/
theorem underlineLength_eq_iff (hne : visible ≠ [])
    (hend : tail = [] ∨ tagEnd <:+ visible ∨ outputEnd <:+ visible) :
    underlineLength (visible ++ tail) = visible.length ↔ EndFound visible (visible ++ tail) := by
  have hlength : tagEnd.length = 2 ∧ outputEnd.length = 2 := ⟨rfl, rfl⟩
  unfold underlineLength EndFound
  rw [← tagEnd, ← outputEnd]
  cases htag : Text.cutAt? tagEnd (visible ++ tail) with
  | some cut =>
    have hinfix : tagEnd <:+: visible ++ tail := Text.cutAt?_isSome_iff.1 (by rw [htag]; rfl)
    have hiff := length_of_cutAt?_iff htag (by simp [tagEnd])
    rw [hlength.1] at hiff
    split_ifs with hsuffix
    · simpa [hsuffix] using hiff
    · simpa [hsuffix, hinfix] using hiff
  | none =>
    have hnone := Text.cutAt?_eq_none_iff.1 htag
    have hsuffix : ¬ tagEnd <:+ visible := fun h => hnone (h.isInfix.trans (List.prefix_append _ _).isInfix)
    rw [if_neg hsuffix]
    cases houtput : Text.cutAt? outputEnd (visible ++ tail) with
    | some cut =>
      have hinfix : outputEnd <:+: visible ++ tail := Text.cutAt?_isSome_iff.1 (by rw [houtput]; rfl)
      have hiff := length_of_cutAt?_iff houtput (by simp [outputEnd])
      rw [hlength.2] at hiff
      have hlast : ¬ outputEnd <:+: visible.dropLast → outputEnd <:+ visible := by
        intro hbefore
        rcases hend with rfl | hend | hend
        · exact suffix_of_infix (by rwa [List.append_nil] at hinfix) hbefore
        · exact absurd hend hsuffix
        · exact hend
      dsimp only
      rw [hiff, and_iff_right hnone, and_iff_right_of_imp hlast]
    | none =>
      have houtputNone := Text.cutAt?_eq_none_iff.1 houtput
      have hinside : ∀ part, part <:+: visible → ¬ outputEnd <:+: part := fun part hpart h =>
        houtputNone ((h.trans hpart).trans (List.prefix_append _ _).isInfix)
      -- nothing is found, so the part is all of the line
      obtain rfl : tail = [] := by
        rcases hend with rfl | hend | hend
        · rfl
        · exact absurd hend hsuffix
        · exact absurd hend.isInfix (hinside visible (List.infix_refl _))
      have hpos := List.length_pos_iff.2 hne
      rw [List.append_nil] at hnone ⊢
      refine iff_of_true (by dsimp only; omega) ⟨hnone, hinside _ (List.dropLast_prefix visible).isInfix⟩

/-! ## The parts of a report -/

theorem blanks_add (m n : Nat) : blanks (m + n) = blanks m ++ blanks n := by
  rw [blanks, List.replicate_add, String.ofList_append]
  rfl

/-- what a report says above the line -/
def TemplateError.heading (palette : Palette) (e : TemplateError) (position : Position) : String :=
  "\n file: " ++ e.template ++ ":" ++ position.text ++ "\n" ++ palette.alarm ++ "error:" ++ palette.reset ++ " " ++
    e.detail ++ "\n"

/-- what it says below it -/
def TemplateError.ending (e : TemplateError) : String :=
  (match e.cause? with
    | some cause => "\n caused by: " ++ cause ++ "\n"
    | none => "") ++ "\n"

/-- a line with its number, between two rows with a margin of the same width; in the row below, so many carets stand
behind as many blanks as characters of the line -/
def underlined (palette : Palette) (number : Nat) (line : List Char) (column carets : Nat) : String :=
  let label := toString (number + 1)
  let pad := palette.faint ++ blanks (2 - label.length)
  let margin := pad ++ blanks label.length ++ " |" ++ palette.reset
  margin ++ "\n" ++ pad ++ label ++ " |" ++ palette.reset ++ " " ++ String.ofList line ++ "\n" ++
    margin ++ " " ++ blanks column ++ palette.alarm ++ String.ofList (List.replicate carets '^') ++ palette.reset ++
    "\n"

/-- the report of an error in a line -/
theorem report_eq {palette : Palette} {e : TemplateError} {source : String} {position : Position}
    (hposition : e.position? = some position) (hline : sourceLine? position.line source.toList = some line) :
    e.report palette source = e.heading palette position ++
      underlined palette position.line line position.col (underlineLength (line.drop position.col)) ++ e.ending := by
  have hwidth : blanks (max 2 (toString (position.line + 1)).length) =
      blanks (2 - (toString (position.line + 1)).length) ++ blanks (toString (position.line + 1)).length := by
    rw [← blanks_add]
    congr 1
    omega
  have hpad : max 2 (toString (position.line + 1)).length - (toString (position.line + 1)).length =
      2 - (toString (position.line + 1)).length := by
    omega
  unfold TemplateError.report TemplateError.heading TemplateError.ending underlined excerpt
  cases e.cause? <;>
    simp only [hposition, hline, hwidth, hpad, String.length_empty, Nat.sub_zero, String.empty_append,
      String.append_empty, String.append_assoc]

namespace Template

variable {source : String} {all : List Token} {token : Token} {code : Position × List Char} {position : Position}

/-! ## Tokens in their lines -/

/-- the text of the token, with the first closing delimiter of its kind outside of quotes -/
def Token.IsText (token : Token) (piece : List Char) : Prop :=
  ∃ opening close inner, token.delimiters? = some (opening, close) ∧
    piece = '\x7b' :: opening :: (inner ++ [close, '\x7d']) ∧ Quotes.outside.Closes close inner

/-- the line in which a token starts, at a position: the lines above it, what is left and right of the position, and
what follows the line; the text of the token starts at the position, and may go on behind the line -/
structure TokenLine (source : String) (token : Token) (position : Position) where
  above : List Char
  left : List Char
  right : List Char
  below : List Char
  piece : List Char
  behind : List Char
  source_eq : source.toList = above ++ (left ++ (right ++ below))
  position_eq : position = Position.start.after (above ++ left)
  isLines_above : IsLines above
  isLine : '\n' ∉ left ++ right
  lineEnd : LineEnd (left ++ right) below
  piece_eq : right ++ below = piece ++ behind
  isText : token.IsText piece

/-- **Every output and every tag** starts in a line. -/
theorem TokenLine.nonempty (h : tokens source = .ok all) (hmem : token ∈ all) (hcode : token.code? = some code) :
    Nonempty (TokenLine source token code.1) := by
  obtain ⟨front, opening, close, inner, back, hdelimiters, hsource, hposition, hcloses⟩ :=
    exists_delimited h hmem hcode
  obtain ⟨above, hfront, habove, hleft⟩ := exists_lines front
  obtain ⟨right, below, hrest, hright, hend⟩ := exists_lineEnd (show '\x7b' ≠ '\n' by decide)
    (lastLine front) (opening :: (inner ++ close :: '\x7d' :: back))
  exact ⟨{
    above, right, below
    left := lastLine front
    piece := '\x7b' :: opening :: (inner ++ [close, '\x7d'])
    behind := back
    source_eq := by rw [hsource, hrest, ← List.append_assoc above, ← hfront]
    position_eq := by rw [hposition, ← hfront]
    isLines_above := habove
    isLine := by simp [hleft, hright]
    lineEnd := hend
    piece_eq := by rw [← hrest]; simp
    isText := ⟨opening, close, inner, hdelimiters, rfl, hcloses⟩ }⟩

namespace TokenLine

variable (line : TokenLine source token position)

/-- how much of the line belongs to the token: its text, or all that is right of its start when it goes on behind the
line -/
def covered : List Char :=
  if '\n' ∈ line.piece then line.right else line.piece

/-- the search of the report ends where the token ends in the line -/
def Clear : Prop :=
  EndFound line.covered line.right

theorem right_ne_nil : line.right ≠ [] := by
  intro hnil
  obtain ⟨opening, close, inner, -, hpiece, -⟩ := line.isText
  have hsplit := line.piece_eq
  rw [hnil, hpiece, List.nil_append] at hsplit
  have hend := line.lineEnd
  rw [hsplit] at hend
  cases hend

theorem position_line : position.line = line.above.count '\n' := by
  have hleft : '\n' ∉ line.left := fun h => line.isLine (List.mem_append_left _ h)
  have hcount := congrArg Position.line line.position_eq
  rwa [Position.line_after, Position.start, Nat.zero_add, List.count_append, List.count_eq_zero.2 hleft,
    Nat.add_zero] at hcount

theorem position_col : position.col = line.left.length := by
  have hleft : '\n' ∉ line.left := fun h => line.isLine (List.mem_append_left _ h)
  have hcol := congrArg Position.col line.position_eq
  rwa [Position.after_append, Position.col_after _ hleft, line.isLines_above.col, Nat.zero_add] at hcol

theorem covered_ne_nil : line.covered ≠ [] := by
  unfold covered
  split_ifs
  · exact line.right_ne_nil
  · obtain ⟨opening, close, inner, -, hpiece, -⟩ := line.isText
    simp [hpiece]

/-- the line of the report -/
theorem sourceLine?_eq : sourceLine? position.line source.toList = some (line.left ++ line.right) := by
  have hne : line.left ++ line.right ≠ [] := by simp [line.right_ne_nil]
  calc sourceLine? position.line source.toList
      = sourceLine? (line.above.count '\n') (line.above ++ (line.left ++ (line.right ++ line.below))) := by
        rw [← line.source_eq, line.position_line]
    _ = sourceLine? 0 ((line.left ++ line.right) ++ line.below) := by
        rw [sourceLine?_lines line.isLines_above, List.append_assoc]
    _ = some (line.left ++ line.right) := sourceLine?_zero line.isLine hne line.lineEnd

/-- what belongs to the token ends the line, or ends like a tag or an output -/
theorem exists_tail : ∃ tail, line.right = line.covered ++ tail ∧
    (tail = [] ∨ tagEnd <:+ line.covered ∨ outputEnd <:+ line.covered) := by
  unfold covered
  split_ifs with hfeed
  · exact ⟨[], (List.append_nil _).symm, .inl rfl⟩
  obtain ⟨opening, close, inner, hdelimiters, hpiece, -⟩ := line.isText
  have hsplit : '\x7b' :: opening :: inner ++ [close, '\x7d'] = line.piece := hpiece.symm
  have hends : [close, '\x7d'] <:+ line.piece := ⟨_, hsplit⟩
  have hclose : tagEnd <:+ line.piece ∨ outputEnd <:+ line.piece := by
    cases token <;> cases hdelimiters
    · exact .inr hends
    · exact .inl hends
  rcases List.append_eq_append_iff.1 line.piece_eq with ⟨more, hmore, hbelow⟩ | ⟨tail, hright, -⟩
  · by_cases hmoreNil : more = []
    · exact ⟨[], by rw [hmore, hmoreNil, List.append_nil, List.append_nil], .inr hclose⟩
    · -- the token would go on with the line end
      have hend := line.lineEnd
      rw [hbelow] at hend
      refine absurd (hend.feed_mem hmoreNil fun hreturn => ?_) fun h => hfeed (by simp [hmore, h])
      have hlast := congrArg List.getLast? (hsplit.trans hmore)
      rw [List.getLast?_append, List.getLast?_append, hreturn] at hlast
      exact absurd hlast (by simp)
  · exact ⟨tail, hright, .inr hclose⟩

end TokenLine

/-- **What an error report underlines.** Every output and every tag of a source starts in a line. The report of an error
at its position shows this line, and underlines it from the first brace of the token on; what is underlined ends with
the token, or with the line when the token goes on behind it, exactly when the search for the end of the token does. -/
theorem report_underlines (h : tokens source = .ok all) (hmem : token ∈ all) (hcode : token.code? = some code) :
    Nonempty (TokenLine source token code.1) ∧ ∀ line : TokenLine source token code.1,
      (∀ (palette : Palette) (e : TemplateError), e.position? = some code.1 →
        e.report palette source = e.heading palette code.1 ++
          underlined palette code.1.line (line.left ++ line.right) line.left.length (underlineLength line.right) ++
          e.ending) ∧
      (underlineLength line.right = line.covered.length ↔ line.Clear) := by
  refine ⟨TokenLine.nonempty h hmem hcode, fun line => ⟨fun palette e hposition => ?_, ?_⟩⟩
  · rw [report_eq hposition line.sourceLine?_eq, line.position_col, List.drop_left]
  · obtain ⟨tail, hright, hend⟩ := line.exists_tail
    have hne : line.covered ≠ [] := line.covered_ne_nil
    rw [TokenLine.Clear, hright]
    exact underlineLength_eq_iff hne hend

/-- an output in the second line that cannot be read, with letters on both sides of it -/
def outputInLine : String := "a\r\né\x7b\x7b m.\"%\" \x7d\x7d!\r\n"

def lineOfOutput : TokenLine outputInLine (.output "m.\"%\"" ⟨5, 1, 1⟩) ⟨5, 1, 1⟩ where
  above := "a\r\n".toList
  left := "é".toList
  right := "\x7b\x7b m.\"%\" \x7d\x7d!".toList
  below := "\r\n".toList
  piece := "\x7b\x7b m.\"%\" \x7d\x7d".toList
  behind := "!\r\n".toList
  source_eq := by decide
  position_eq := by decide
  isLines_above := by simp [IsLines]
  isLine := by decide
  lineEnd := .returnFeed []
  piece_eq := by decide
  isText := by
    have hcut : cutClose? '\x7d' none " m.\"%\" \x7d\x7d".toList = some (" m.\"%\" ".toList, []) := by decide +kernel
    exact ⟨'\x7b', '\x7d', " m.\"%\" ".toList, rfl, by decide, (cutClose?_eq_some_iff.1 hcut).2⟩

theorem report_underlines_output :
    let e : TemplateError := .malformed ⟨"page.html", ⟨5, 1, 1⟩⟩ .memberNameMissing
    e.report .plain outputInLine = "\n file: page.html:2:2\nerror: Expected an identifier after '.'.\n   |\n" ++
      " 2 | é\x7b\x7b m.\"%\" \x7d\x7d!\n   |  ^^^^^^^^^^^\n\n" := by
  intro e
  have htokens : tokens outputInLine = .ok [.text "a\r\né", .output "m.\"%\"" ⟨5, 1, 1⟩, .text "!\r\n"] := by
    decide +kernel
  have hmem : Token.output "m.\"%\"" ⟨5, 1, 1⟩ ∈
      [Token.text "a\r\né", .output "m.\"%\"" ⟨5, 1, 1⟩, .text "!\r\n"] := by simp
  obtain ⟨hreport, hlength⟩ := (report_underlines htokens hmem rfl).2 lineOfOutput
  rw [hreport .plain e rfl, hlength.2 (by unfold TokenLine.Clear; decide +kernel)]
  decide +kernel

/-- an output that cannot be read, and a tag behind it -/
def outputBeforeTag : String := "\x7b\x7b m. \x7d\x7d\x7b% set x = 1 %\x7d"

def lineBeforeTag : TokenLine outputBeforeTag (.output "m." .start) .start where
  above := []
  left := []
  right := outputBeforeTag.toList
  below := []
  piece := "\x7b\x7b m. \x7d\x7d".toList
  behind := "\x7b% set x = 1 %\x7d".toList
  source_eq := by decide
  position_eq := rfl
  isLines_above := by simp [IsLines]
  isLine := by decide
  lineEnd := .last
  piece_eq := by decide
  isText := by
    have hcut : cutClose? '\x7d' none " m. \x7d\x7d".toList = some (" m. ".toList, []) := by decide +kernel
    exact ⟨'\x7b', '\x7d', " m. ".toList, rfl, by decide, (cutClose?_eq_some_iff.1 hcut).2⟩

/-- **The carets may go on behind the token**: the search prefers the end of a tag, also behind an output. -/
theorem report_passes_output :
    tokens outputBeforeTag = .ok [.output "m." .start, .tag "set" "x = 1" ⟨8, 0, 8⟩] ∧
      lineBeforeTag.covered.length = 8 ∧ underlineLength lineBeforeTag.right = 23 ∧
      TemplateError.report .plain (.malformed ⟨"page.html", .start⟩ .memberNameMissing) outputBeforeTag =
        "\n file: page.html:1:1\nerror: Expected an identifier after '.'.\n   |\n" ++
        " 1 | \x7b\x7b m. \x7d\x7d\x7b% set x = 1 %\x7d\n   | ^^^^^^^^^^^^^^^^^^^^^^^\n\n" := by
  decide +kernel

end Template

end Templating
