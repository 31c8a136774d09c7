/-
Printed expressions.

An expression is printed as its words, in any spelling and with or without white space wherever words stay apart
without it. `Expr.printed` is one such text, with a space between all words. The words are cut out of the text again
(`Layout.tokens`) and read back (`expression_words`). What follows may be nothing, or starts with a quoted text, a
closing bracket or a comma: none of these goes on with a word, or with an expression.

- `Printable.writable`: every word of a printable expression has a spelling.
- `expression_printed`: the reader of expressions gives a printed expression back and stops right behind it.
-/
import Templating.Proofs.Cursor
import Templating.Proofs.ExpressionLevels
import Templating.Proofs.TokenReading

namespace Templating

namespace Expr

variable {e : Expr} {text behind : List Char} {ws rest : List Token}

/-! ## the words of an expression -/

theorem isIdentifier_keyword {name : String} (h : name ∈ keywords) : isIdentifier name = true := by
  have hall : keywords.all isIdentifier = true := by decide
  exact List.all_eq_true.1 hall name h

theorem writable_literalWords {v : Value} (h : isWritable v = true) : Writable (literalWords v) := by
  cases v with
  | null => simp [literalWords, isIdentifier_keyword (show "none" ∈ keywords by decide)]
  | bool b =>
    cases b
    · simp [literalWords, isIdentifier_keyword (show "false" ∈ keywords by decide)]
    · simp [literalWords, isIdentifier_keyword (show "true" ∈ keywords by decide)]
  | int i => exact writable_cons.2 ⟨h, writable_nil⟩
  | str s => simp [literalWords]
  | _ => cases h

@[simp] theorem writable_wrapped {place level : Nat} : Writable (wrapped place level ws) ↔ Writable ws := by
  unfold wrapped
  split_ifs <;> simp

@[simp] theorem isWritable_word (op : Comparison) : op.word.isWritable = true := by
  cases op <;> rfl

@[simp] theorem isIdentifier_name (f : Filter) : isIdentifier f.name = true := by
  cases f <;> decide

theorem writable_itemWords {items : List Expr} (h : Writable (itemTail items)) : Writable (itemWords items) := by
  cases items with
  | nil => simp [itemWords]
  | cons e items => simpa [itemWords, itemTail] using h

mutual

/-- **Every word of a printable expression** has a spelling. -/
theorem Printable.writable (e : Expr) (he : e.Printable) : Writable e.words := by
  match e with
  | literal v => exact writable_literalWords (printable_literal.1 he)
  | var name => simp [words, (printable_var.1 he).1]
  | member target key =>
    obtain ⟨hkey, htarget⟩ := printable_member.1 he
    simp [words, hkey, htarget.writable target]
  | call target method args =>
    obtain ⟨⟨hmethod, htarget⟩, hargs⟩ := printable_call.1 he
    simp [words, hmethod, htarget.writable target, writable_itemWords (hargs.writable args)]
  | list items => simp [words, writable_itemWords ((printable_list.1 he).writable items)]
  | neg e => simp [words, (printable_neg.1 he).writable e]
  | not e => simp [words, (printable_not.1 he).writable e, isIdentifier_keyword (show "not" ∈ keywords by decide)]
  | filter f e none => simp [words, (printable_filter_none.1 he).writable e]
  | index left right =>
    obtain ⟨hleft, hright⟩ := printable_index.1 he
    simp [words, hleft.writable left, hright.writable right]
  | and left right =>
    obtain ⟨hleft, hright⟩ := printable_and.1 he
    simp [words, hleft.writable left, hright.writable right, isIdentifier_keyword (show "and" ∈ keywords by decide)]
  | or left right =>
    obtain ⟨hleft, hright⟩ := printable_or.1 he
    simp [words, hleft.writable left, hright.writable right, isIdentifier_keyword (show "or" ∈ keywords by decide)]
  | compare op left right =>
    obtain ⟨hleft, hright⟩ := printable_compare.1 he
    simp [words, hleft.writable left, hright.writable right]
  | filter f left (some right) =>
    obtain ⟨hleft, hright⟩ := printable_filter_some.1 he
    simp [words, hleft.writable left, hright.writable right]

theorem PrintableItems.writable (items : List Expr) (h : PrintableItems items) : Writable (itemTail items) := by
  match items with
  | [] => simp [itemTail]
  | e :: rest =>
    obtain ⟨he, hrest⟩ := printableItems_cons.1 h
    simp [itemTail, he.writable e, hrest.writable rest]

end

/-! ## printing and reading back -/

/-- the text of an expression: its words in their shortest spelling, with a space between them -/
def printed (e : Expr) : List Char :=
  spaced e.words

/-- the text of a printable expression has its words -/
theorem layout_printed (he : e.Printable) : Layout e.words e.printed :=
  layout_spaced (he.writable e)

/-- an expression ends in front of the word, whatever the expression is -/
def Token.endsExpression : Token → Bool
  | .str _ | .symbol .closeParen | .symbol .closeBracket | .symbol .comma => true
  | _ => false

theorem Token.isParting_of_endsExpression {word : Token} (h : word.endsExpression = true) : word.isParting = true := by
  unfold Token.endsExpression at h
  split at h <;> first | rfl | cases h

theorem Token.binds_of_endsExpression {word : Token} (h : word.endsExpression = true) : word.binds < 1 := by
  unfold Token.endsExpression at h
  split at h <;> first | exact Nat.zero_lt_one | cases h

/-- a careful reader that leaves some of the words in front of it has taken the cursor on over the others -/
theorem Reader.Careful.read_start {α : Type} {r : Reader α} (h : r.Careful) {front rest : List Token} {a : α}
    (hread : r.read (front ++ rest) = (.ok a, rest)) (site : Site) :
    Arguments.read ⟨.start (front ++ rest), site⟩ r = (.ok a, ⟨⟨front ++ rest, front.length⟩, site⟩) := by
  have hsteps : r.steps (front ++ rest) = front.length := by
    rw [h.steps_eq, hread, List.length_append, Nat.add_sub_cancel]
  rw [Arguments.read_eq, Cursor.words_start, hread, hsteps, Arguments.move, Cursor.start]
  simp only [Except.mapError, Nat.zero_add]

/-- **The reader of expressions undoes printing.** The text of a printable expression, with parentheses only where a
part binds looser than its place demands, is read as that expression, and the reader stops at the first word behind
it. Nothing may follow, or words that start with a quoted text, a closing bracket or a comma. -/
theorem expression_printed (site : Site) (he : e.Printable) (htext : Layout e.words text)
    (hbehind : tokens behind = .ok rest) (hrest : ∀ word ∈ rest.head?, word.endsExpression = true) :
    ∃ a, Arguments.ofText site (String.ofList (text ++ behind)) = .ok a ∧ a.tokens = e.words ++ rest ∧
      a.read expression = (.ok e, { a with pos := e.words.length }) := by
  have hparted : Parted behind := parted_of_tokens hbehind fun word hword =>
    Token.isParting_of_endsExpression (hrest word hword)
  have hstops : Stops 1 rest := fun word hword => Token.binds_of_endsExpression (hrest word hword)
  have hwords : tokens (text ++ behind) = .ok (e.words ++ rest) := by
    rw [htext.tokens hparted, hbehind]
    rfl
  refine ⟨⟨.start (e.words ++ rest), site⟩, ?_, rfl, ?_⟩
  · rw [Arguments.ofText, String.toList_ofList, hwords]
  · exact expression_careful.read_start (expression_words he hstops) site

/-- `not (a or b) and -n|default:"x" in [c.in(1), d]`, with a space between its words -/
def mixed : Expr :=
  and (not (or (var "a") (var "b")))
    (compare .isIn (filter .default (neg (var "n")) (some (literal (.str "x"))))
      (list [call (var "c") "in" [literal (.int 1)], var "d"]))

theorem expression_printed_mixed : ∃ a, Arguments.ofText ⟨"page", .start⟩
      "not ( a or b ) and - n | default : \"x\" in [ c . in ( 1 ) , d ] \"key\"=value" = .ok a ∧
    a.read expression = (.ok mixed, { a with pos := 24 }) ∧
    a.tokens.drop 24 = [.str "key", .symbol .assign, .ident "value"] := by
  have he : mixed.Printable := by decide
  have hbehind : tokens " \"key\"=value".toList = .ok [.str "key", .symbol .assign, .ident "value"] := by rfl
  have hrest : ∀ word ∈ [Token.str "key", .symbol .assign, .ident "value"].head?, word.endsExpression = true := by
    intro word hword
    cases hword
    rfl
  have hlength : mixed.words.length = 24 := by decide
  obtain ⟨a, ha, htokens, hread⟩ := expression_printed ⟨"page", .start⟩ he (layout_printed he) hbehind hrest
  rw [hlength] at hread
  exact ⟨a, ha, hread, htokens ▸ hlength ▸ List.drop_left⟩

end Expr

end Templating
