/-
Dynamic attributes of component markup, from the markup to the arguments that the compiler reads.

The expansion pastes an expression behind its key as it stands, without quotes, so nothing but the reading of the
expression says where the next key starts. An expression that is read alone up to its end is read up to the same place
in front of a key, for a key is a quoted text and no expression goes on with one (`Expr.expression_carries`); and the
end of the tag is not found in it, whatever stands in its quoted texts (`Expr.passes_tokens`).

- `tokens_dynamicArguments`: the arguments as words, and the pairs that are read from them.
- `dynamic_attributes`: what reaches the component.
-/
import Templating.Proofs.ExpressionText
import Templating.Proofs.StaticAttributes

namespace Templating

open Templating.Expr (Quiet Quotable StartsBlank)
open Markup (Attribute IsComponentName quoted argument)
open Expr.Reader (read_bind_ok)

/-! ## expressions as values -/

namespace Markup

/-- a key, the text of an expression, and the expression -/
structure Binding where
  key : List Char
  text : List Char
  expr : Expr

/-- the text is the value of a dynamic attribute, and on its own it is the expression up to its end -/
structure Binding.Written (site : Site) (b : Binding) : Prop where
  ne_nil : b.key ≠ []
  chars : ∀ c ∈ b.key, isAttributeNameChar c = true
  value : ∀ c ∈ b.text, c ≠ '"' ∧ c ≠ '<' ∧ c ≠ '\n'
  alone : ∃ all behind, Arguments.ofText site (String.ofList b.text) = .ok all ∧
    all.read Expr.expression = (.ok b.expr, behind) ∧ behind.remaining = 0

/-- the dynamic attribute -/
def Binding.attribute (b : Binding) : Attribute :=
  ⟨':' :: b.key, b.text⟩

/-- what is given to a component -/
def Binding.pair (b : Binding) : String × Expr :=
  (String.ofList b.key, b.expr)

variable {site : Site} {b : Binding} {bindings : List Binding}

theorem argument_dynamic (b : Binding) : argument b.attribute = ' ' :: quoted b.key ++ '=' :: b.text := rfl

theorem Binding.ne_slotData (b : Binding) : b.attribute.name ≠ slotDataName := by
  intro heq
  have hhead : some ':' = slotDataName.head? := congrArg List.head? heq
  exact absurd hhead (by decide)

namespace Binding.Written

theorem legible (h : b.Written site) : b.attribute.Legible where
  ne_nil := List.cons_ne_nil _ _
  chars := List.forall_mem_cons.2 ⟨by decide, h.chars⟩
  value := h.value

theorem quotable (h : b.Written site) : Quotable b.key where
  quote := fun hmem => absurd (h.chars _ hmem) (by decide)
  backslash := fun hmem => absurd (h.chars _ hmem) (by decide)

/-- the words of the expression -/
theorem words (h : b.Written site) :
    ∃ words, Expr.tokens b.text = .ok words ∧ Expr.expression.read words = (.ok b.expr, []) := by
  obtain ⟨all, behind, hall, hread, hend⟩ := h.alone
  have htokens := Template.ofText_words hall
  rw [String.toList_ofList] at htokens
  have hexpression := Arguments.read_words hread
  rw [Expr.Cursor.remaining_eq] at hend
  rw [List.eq_nil_of_length_eq_zero hend] at hexpression
  exact ⟨all.words, htokens, hexpression⟩

/-- the same, from the words -/
theorem of_words {words : List Expr.Token} (hne : b.key ≠ []) (hchars : ∀ c ∈ b.key, isAttributeNameChar c = true)
    (hvalue : ∀ c ∈ b.text, c ≠ '"' ∧ c ≠ '<' ∧ c ≠ '\n') (hwords : Expr.tokens b.text = .ok words)
    (hread : Expr.expression.read words = (.ok b.expr, [])) : b.Written site := by
  have hall : Arguments.ofText site (String.ofList b.text) = .ok ⟨.start words, site⟩ := by
    rw [Arguments.ofText, String.toList_ofList, hwords]
  obtain ⟨behind, hbehind, hend⟩ := Arguments.read_of_words (a := ⟨.start words, site⟩) hread
  refine ⟨hne, hchars, hvalue, _, behind, hall, hbehind, ?_⟩
  rw [Expr.Cursor.remaining_eq, hend, List.length_nil]

end Binding.Written

end Markup

namespace Expr

/-- one equals sign is a word, unless another one follows -/
theorem readToken_assign {text : List Char} (h : text.head? ≠ some '=') :
    readToken '=' text = .ok (.symbol .assign, text) := by
  have hequal : Text.afterMark? Symbol.equal.chars ('=' :: text) = none := by
    cases text with
    | nil => rfl
    | cons c text =>
      have hc : '=' ≠ c := by
        rintro rfl
        exact h rfl
      simp [Symbol.chars, Text.afterMark?, hc]
  have hsymbol : readSymbol ('=' :: text) = some (.assign, text) := by
    rw [readSymbol, Symbol.all, List.findSome?_cons, hequal]
    rfl
  have hdigit : ¬ '='.isDigit = true := by decide
  have hident : ¬ isIdentStart '=' = true := by decide
  rw [readToken, if_neg (by decide), if_neg hdigit, if_neg hident, hsymbol]

/-- an expression does not start with an equals sign, so one in front of it is a word of its own -/
theorem tokens_assign_expression {text : List Char} {words : List Token} {e : Expr}
    (hwords : tokens text = .ok words) (he : expression.read words = (.ok e, [])) (rest : List Char) :
    tokens ('=' :: (text ++ rest)) = (tokens (text ++ rest)).map ([.symbol .assign] ++ ·) := by
  have hhead : (text ++ rest).head? ≠ some '=' := by
    intro hhead
    cases text with
    | nil =>
      cases hwords
      cases he
    | cons c text =>
      obtain rfl : c = '=' := Option.some.inj hhead
      rw [tokens, tokensAfter, if_neg (by decide)] at hwords
      have hsymbol : ∃ symbol left, (symbol = .equal ∨ symbol = .assign) ∧
          readToken '=' text = .ok (.symbol symbol, left) := by
        by_cases hmore : text.head? = some '='
        · obtain ⟨left, rfl⟩ := List.head?_eq_some_iff.1 hmore
          exact ⟨.equal, left, Or.inl rfl, rfl⟩
        · exact ⟨.assign, text, Or.inr rfl, readToken_assign hmore⟩
      obtain ⟨symbol, left, hsymbol, hread⟩ := hsymbol
      rw [hread] at hwords
      obtain ⟨behind, -, rfl⟩ := map_eq_ok.1 hwords
      rcases hsymbol with rfl | rfl <;> cases he
  have hread : readToken '=' ([] ++ (text ++ rest)) = .ok (.symbol .assign, text ++ rest) := readToken_assign hhead
  exact tokens_word (by decide) hread

/-- the keyword in front of attributes is one word -/
theorem tokens_withAttrs {rest : List Char} (hrest : StartsBlank rest) :
    tokens (" withAttrs".toList ++ rest) = (tokens rest).map ([.ident "withAttrs"] ++ ·) := by
  have hword : tokens " withAttrs".toList = .ok [.ident "withAttrs"] := rfl
  exact tokens_append hrest hword

end Expr

/-! ## the arguments as words -/

namespace Markup

variable {site : Site} {bindings : List Binding} {name : List Char}

/-- dynamic attributes as arguments of a component tag -/
def dynamicArguments (bindings : List Binding) : List Char :=
  (bindings.map Binding.attribute).flatMap argument

theorem dynamicArguments_cons (b : Binding) (bindings : List Binding) :
    dynamicArguments (b :: bindings) = ' ' :: quoted b.key ++ '=' :: (b.text ++ dynamicArguments bindings) := by
  simp [dynamicArguments, argument_dynamic]

theorem startsBlank_dynamicArguments (bindings : List Binding) : StartsBlank (dynamicArguments bindings) := by
  cases bindings with
  | nil => exact Expr.startsBlank_nil
  | cons b bindings =>
    rw [dynamicArguments_cons]
    exact Expr.startsBlank_cons (by decide) _

/-- **The arguments as words**, and the pairs that are read from them. -/
theorem tokens_dynamicArguments (h : ∀ b ∈ bindings, b.Written site) :
    ∃ words, Expr.tokens (dynamicArguments bindings) = .ok words ∧ Quiet words ∧ bindings.length ≤ words.length ∧
      ∀ fuel, bindings.length ≤ fuel → (Template.pairs fuel).read words = (.ok (bindings.map Binding.pair), []) := by
  induction bindings with
  | nil => exact ⟨[], rfl, Expr.quiet_nil, Nat.le_refl _, fun fuel _ => Template.pairs_nil fuel⟩
  | cons b bindings ih =>
    obtain ⟨hb, hbindings⟩ := List.forall_mem_cons.1 h
    obtain ⟨rest, hrest, hquiet, hcount, hpairs⟩ := ih hbindings
    obtain ⟨words, hwords, hexpression⟩ := hb.words
    have hkey : Expr.tokens (' ' :: quoted b.key ++ '=' :: (b.text ++ dynamicArguments bindings)) =
        (Expr.tokens ('=' :: (b.text ++ dynamicArguments bindings))).map ([.str (String.ofList b.key)] ++ ·) :=
      Expr.spells_space.append hb.quotable.spells _
    have htext : Expr.tokens (b.text ++ dynamicArguments bindings) = .ok (words ++ rest) := by
      rw [Expr.tokens_append (startsBlank_dynamicArguments bindings) hwords, hrest]
      rfl
    refine ⟨.str (String.ofList b.key) :: .symbol .assign :: (words ++ rest), ?_, Expr.quiet_str _ _, ?_, ?_⟩
    · rw [dynamicArguments_cons, hkey, Expr.tokens_assign_expression hwords hexpression, htext]
      rfl
    · simp only [List.length_cons, List.length_append]
      omega
    · intro fuel hfuel
      obtain ⟨fuel, rfl⟩ := Nat.exists_eq_add_one.2 (Nat.zero_lt_of_lt hfuel)
      have halone := Expr.expression_carries hquiet words _ _ hexpression
      rw [List.nil_append] at halone
      rw [Template.pairs_cons, read_bind_ok halone, read_bind_ok (hpairs fuel (Nat.le_of_succ_le_succ hfuel))]
      rfl

theorem passes_dynamicArguments (h : ∀ b ∈ bindings, b.Written site) :
    Template.Passes (dynamicArguments bindings) := by
  induction bindings with
  | nil => exact Template.passes_nil
  | cons b bindings ih =>
    obtain ⟨hb, hbindings⟩ := List.forall_mem_cons.1 h
    obtain ⟨words, hwords, -⟩ := hb.words
    have hspace : Template.Passes [' '] := Template.passes_plain (by decide)
    have hassign : Template.Passes ['='] := Template.passes_plain (by decide)
    have hkey := Template.passes_quotable hb.quotable
    have htext := Expr.passes_tokens hwords
    rw [dynamicArguments_cons]
    simpa using (((hspace.append hkey).append hassign).append htext).append (ih hbindings)

/-- what stands behind the name of a component with dynamic attributes -/
def behindName (bindings : List Binding) : List Char :=
  if bindings.isEmpty then [] else " withAttrs".toList ++ dynamicArguments bindings

/-- what is read behind the name -/
theorem tokens_behindName (h : ∀ b ∈ bindings, b.Written site) :
    ∃ words, Expr.tokens (behindName bindings) = .ok words ∧
      Template.componentArguments.read words = (.ok (.nothing, bindings.map Binding.pair), []) := by
  cases bindings with
  | nil => exact ⟨[], rfl, rfl⟩
  | cons b bindings =>
    obtain ⟨words, hwords, -, hcount, hpairs⟩ := tokens_dynamicArguments h
    refine ⟨.ident "withAttrs" :: words, ?_, ?_⟩
    · have hbehind : behindName (b :: bindings) = " withAttrs".toList ++ dynamicArguments (b :: bindings) := rfl
      rw [hbehind, Expr.tokens_withAttrs (startsBlank_dynamicArguments _), hwords]
      rfl
    · exact Template.componentArguments_withAttrs.2 ⟨rfl, hpairs _ hcount, rfl⟩

theorem passes_behindName (h : ∀ b ∈ bindings, b.Written site) : Template.Passes (behindName bindings) := by
  have hkeyword : Template.Passes " withAttrs".toList := Template.passes_plain (by decide)
  unfold behindName
  split
  · exact Template.passes_nil
  · exact hkeyword.append (passes_dynamicArguments h)

theorem expand_dynamic {tagPrefix : List Char} (hslash : tagPrefix.head? ≠ some '/') (hname : IsComponentName name)
    (h : ∀ b ∈ bindings, b.Written site) :
    (expand (String.ofList tagPrefix)
        (String.ofList (writtenTag tagPrefix name (bindings.map Binding.attribute)))).code =
      String.ofList ("\x7b% component ".toList ++ (quoted name ++ behindName bindings) ++ " %\x7d".toList ++
        componentEnd) := by
  have hlegible : ∀ a ∈ bindings.map Binding.attribute, a.Legible := by
    intro a ha
    obtain ⟨b, hb, rfl⟩ := List.mem_map.1 ha
    exact (h b hb).legible
  have hslot : ∀ a ∈ bindings.map Binding.attribute, a.name ≠ slotDataName := by
    intro a ha
    obtain ⟨b, hb, rfl⟩ := List.mem_map.1 ha
    exact Binding.ne_slotData b
  have hempty : (bindings.map Binding.attribute).isEmpty = bindings.isEmpty := by
    cases bindings <;> rfl
  rw [← String.toList_inj, String.toList_ofList, expand_legible hslash hname hlegible hslot, hempty,
    List.append_assoc "\x7b% component ".toList]
  rfl

/-- **Dynamic attributes.** For a component tag that closes itself, with any name and any dynamic attributes whose texts
are expressions on their own: the component is given exactly these expressions, in order and under their keys, and the
arguments end there. -/
theorem dynamic_attributes (site : Site) {tagPrefix : List Char} (hslash : tagPrefix.head? ≠ some '/')
    (hname : IsComponentName name) (h : ∀ b ∈ bindings, b.Written site) :
    Template.Gives site
      (expand (String.ofList tagPrefix)
        (String.ofList (writtenTag tagPrefix name (bindings.map Binding.attribute)))).code
      (String.ofList name) (bindings.map fun b => (String.ofList b.key, b.expr)) := by
  obtain ⟨words, hwords, hgiven⟩ := tokens_behindName h
  have hpasses : Template.Passes (quoted name ++ behindName bindings) :=
    (Template.passes_quotable hname.quotable).append (passes_behindName h)
  obtain ⟨last, htokens⟩ := Template.tokens_arguments hpasses
  have hargs : Expr.tokens (quoted name ++ behindName bindings) = .ok (.str (String.ofList name) :: words) := by
    rw [hname.quotable.spells, hwords]
    rfl
  rw [expand_dynamic hslash hname h]
  refine Template.gives_iff.2 ⟨_, last, words, [], htokens, ?_, hgiven⟩
  rw [String.toList_ofList]
  exact Expr.tokens_trimEnd hargs

/-- a text with the ends of a tag, of an output and of markup in it, and a comparison -/
def labelAndFlag : List Binding :=
  [⟨"label".toList, "'5 %\x7d \x7d\x7d /> it\\'s >'".toList, .literal (.str "5 %\x7d \x7d\x7d /> it's >")⟩,
    ⟨":on.1".toList, " user.name|upper == 'A' ".toList,
      .compare .equal (.filter .upper (.member (.var "user") "name") none) (.literal (.str "A"))⟩]

theorem labelAndFlag_written (site : Site) : ∀ b ∈ labelAndFlag, b.Written site := by
  have hlabel : Expr.tokens "'5 %\x7d \x7d\x7d /> it\\'s >'".toList = .ok [.str "5 %\x7d \x7d\x7d /> it's >"] := rfl
  have hflag : Expr.tokens " user.name|upper == 'A' ".toList =
      .ok [.ident "user", .symbol .dot, .ident "name", .symbol .bar, .ident "upper", .symbol .equal, .str "A"] := rfl
  refine List.forall_mem_cons.2 ⟨?_, List.forall_mem_singleton.2 ?_⟩
  · exact .of_words (by decide) (List.all_eq_true.1 (by decide)) (by simp) hlabel rfl
  · exact .of_words (by decide) (List.all_eq_true.1 (by decide)) (by simp) hflag rfl

/-- both expressions reach the component -/
theorem dynamic_attributes_labelAndFlag :
    Template.Gives ⟨"page", .start⟩
      (expand defaultTagPrefix
        "<x-show :label=\"'5 %\x7d \x7d\x7d /> it\\'s >'\" ::on.1=\" user.name|upper == 'A' \" />").code "show"
      [("label", .literal (.str "5 %\x7d \x7d\x7d /> it's >")),
        (":on.1", .compare .equal (.filter .upper (.member (.var "user") "name") none) (.literal (.str "A")))] := by
  have hslash : "x-".toList.head? ≠ some '/' := by decide
  have hgives := dynamic_attributes ⟨"page", .start⟩ hslash isComponentName_show (labelAndFlag_written ⟨"page", .start⟩)
  exact hgives

end Markup

end Templating
