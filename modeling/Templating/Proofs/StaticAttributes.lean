/-
Static attributes of component markup, from the markup to the arguments that the compiler reads.

The expansion pastes a value between quotes as it stands, and the words of a tag know a backslash in quotes. So a value
reaches the component as it is written exactly when it has no backslash (`Gives`, `static_attributes`); otherwise each
backslash goes and hides the character behind it, which makes a line feed of `\n`, and at the end of a value it hides
the closing quote itself.

- `spells_tagArguments`, `passes_tagArguments`: the arguments as words, and the end of the tag behind them.
- `gives_unescaped`: what reaches the component when every backslash has a character to hide.
- `not_mem_of_gives`: a value that reaches the component as it is written has no backslash, whatever stands behind it.
- `static_attributes`: both.
-/
import Templating.Proofs.TagArguments
import Templating.Proofs.TagText

namespace Templating

open Templating.Expr (Quotable Spells paired unescaped)
open Markup (Attribute IsComponentName quoted staticArguments)

/-! ## what reaches a component -/

namespace Template

/-- the code is one component tag that ends at once, and its arguments are read as the name of the component and what
is given to it, without slot data -/
def Gives (site : Site) (code name : String) (given : List (String × Expr)) : Prop :=
  ∃ args last all behind,
    tokens code = .ok [.tag "component" args .start, .tag "endcomponent" "" last] ∧
      Arguments.ofText site args = .ok all ∧ all.read Expr.acceptString = (.ok (some name), behind) ∧
      behind.readAll componentArguments = .ok (.nothing, given)

theorem gives_iff {site : Site} {code name : String} {given : List (String × Expr)} :
    Gives site code name given ↔ ∃ args last words left,
      tokens code = .ok [.tag "component" args .start, .tag "endcomponent" "" last] ∧
        Expr.tokens args.toList = .ok (.str name :: words) ∧
        componentArguments.read words = (.ok (.nothing, given), left) := by
  constructor
  · rintro ⟨args, last, all, behind, hcode, hargs, hname, hgiven⟩
    have htokens := ofText_words hargs
    obtain ⟨left, hleft⟩ := Arguments.readAll_eq_ok.1 hgiven
    refine ⟨args, last, behind.words, left, hcode, ?_, hleft⟩
    rw [htokens, acceptString_some (Arguments.read_words hname)]
  · rintro ⟨args, last, words, left, hcode, hargs, hgiven⟩
    have hall : Arguments.ofText site args = .ok ⟨.start (.str name :: words), site⟩ := by
      rw [Arguments.ofText, hargs]
    have hname : (Arguments.mk (.start (.str name :: words)) site).read Expr.acceptString =
        (.ok (some name), ⟨(Expr.Cursor.start (.str name :: words)).move 1, site⟩) := rfl
    exact ⟨args, last, _, _, hcode, hall, hname, Arguments.readAll_eq_ok.2 ⟨left, hgiven⟩⟩

end Template

/-! ## the arguments as text -/

namespace Markup

variable {name : List Char} {attributes : List Attribute}

theorem IsComponentName.quotable (h : IsComponentName name) : Quotable name where
  quote := fun hmem => absurd (h.chars _ hmem) (by decide)
  backslash := fun hmem => absurd (h.chars _ hmem) (by decide)

theorem Attribute.Static.quotable {a : Attribute} (h : a.Static) : Quotable a.name where
  quote := fun hmem => absurd (h.chars _ hmem) (by decide)
  backslash := fun hmem => absurd (h.chars _ hmem) (by decide)

theorem Attribute.Static.quote {a : Attribute} (h : a.Static) : '"' ∉ a.value :=
  fun hmem => (h.value _ hmem).1 rfl

/-- the name of an attribute, and its value as it is written -/
def Attribute.text (a : Attribute) : String × String :=
  (String.ofList a.name, String.ofList a.value)

/-- the name of an attribute, and its value without the backslashes -/
def Attribute.read (a : Attribute) : String × String :=
  (String.ofList a.name, String.ofList (unescaped a.value))

theorem map_read_eq (h : ∀ a ∈ attributes, '\\' ∉ a.value) :
    attributes.map Attribute.read = attributes.map Attribute.text := by
  refine List.map_congr_left fun a ha => ?_
  have hself := (Expr.unescaped_eq_self (Expr.paired_of_not_mem (h a ha))).2 (h a ha)
  rw [Attribute.read, Attribute.text, hself]

/-- the arguments of the component tag that a tag with static attributes is expanded to -/
def tagArguments (name : List Char) (attributes : List Attribute) : List Char :=
  quoted name ++ (if attributes.isEmpty then [] else " withAttrs".toList ++ staticArguments attributes)

theorem staticArguments_space (h : attributes ≠ []) : ∃ tail, staticArguments attributes = ' ' :: tail := by
  obtain ⟨a, rest, rfl⟩ := List.exists_cons_of_ne_nil h
  exact ⟨_, rfl⟩

theorem spells_staticArguments (h : ∀ a ∈ attributes, a.Static) (hpaired : ∀ a ∈ attributes, paired a.value = true) :
    Spells (staticArguments attributes) (Template.textWords (attributes.map Attribute.read)) := by
  rw [Template.textWords, List.flatMap_map]
  exact Spells.flatMap fun a ha => (h a ha).quotable.spells_pair (h a ha).quote (hpaired a ha)

/-- **The arguments as words.** -/
theorem spells_tagArguments (hname : IsComponentName name) (h : ∀ a ∈ attributes, a.Static)
    (hpaired : ∀ a ∈ attributes, paired a.value = true) :
    Spells (tagArguments name attributes)
      (.str (String.ofList name) :: Template.attributeWords (attributes.map Attribute.read)) := by
  refine hname.quotable.spells.append ?_
  cases attributes with
  | nil => exact Expr.spells_nil
  | cons a rest => exact (spells_staticArguments h hpaired).withAttrs (staticArguments_space (List.cons_ne_nil a rest))

theorem passes_staticArguments (h : ∀ a ∈ attributes, a.Static) (hpaired : ∀ a ∈ attributes, paired a.value = true) :
    Template.Passes (staticArguments attributes) := by
  refine Template.Passes.flatMap fun a ha => ?_
  have hspace : Template.Passes [' '] := Template.passes_plain (by decide)
  have hassign : Template.Passes ['='] := Template.passes_plain (by decide)
  have hkey := Template.passes_quotable (h a ha).quotable
  have hvalue := Template.passes_quoted (h a ha).quote (hpaired a ha)
  simpa using ((hspace.append hkey).append hassign).append hvalue

/-- the end of the tag is not found in the arguments -/
theorem passes_tagArguments (hname : IsComponentName name) (h : ∀ a ∈ attributes, a.Static)
    (hpaired : ∀ a ∈ attributes, paired a.value = true) : Template.Passes (tagArguments name attributes) := by
  have hkeyword : Template.Passes " withAttrs".toList := Template.passes_plain (by decide)
  refine (Template.passes_quotable hname.quotable).append ?_
  split
  · exact Template.passes_nil
  · exact hkeyword.append (passes_staticArguments h hpaired)

theorem quotedEnds_tagArguments (name : List Char) (attributes : List Attribute) :
    Template.QuotedEnds (tagArguments name attributes) := by
  refine ⟨⟨_, rfl⟩, ?_⟩
  rcases List.eq_nil_or_concat attributes with rfl | ⟨front, a, rfl⟩
  · exact ⟨'"' :: name, List.append_nil _⟩
  · refine ⟨quoted name ++ (" withAttrs".toList ++ (staticArguments front ++
      (' ' :: quoted a.name ++ '=' :: '"' :: a.value))), ?_⟩
    have hne : (front ++ [a]).isEmpty = false := by simp
    have hlast : staticArguments (front ++ [a]) =
        staticArguments front ++ (' ' :: quoted a.name ++ '=' :: '"' :: a.value) ++ ['"'] := by
      simp [staticArguments, quoted]
    rw [List.concat_eq_append, tagArguments, hne, hlast]
    simp only [Bool.false_eq_true, if_false, List.append_assoc]

/-- the expansion as the arguments between the ends of its tags -/
theorem expand_tagArguments {tagPrefix : List Char} (hslash : tagPrefix.head? ≠ some '/')
    (hname : IsComponentName name) (h : ∀ a ∈ attributes, a.Static) :
    (expand (String.ofList tagPrefix) (String.ofList (writtenTag tagPrefix name attributes))).code =
      String.ofList ("\x7b% component ".toList ++ tagArguments name attributes ++ " %\x7d".toList ++ componentEnd) := by
  rw [← String.toList_inj, String.toList_ofList, expand_writtenTag hslash hname h, tagArguments,
    List.append_assoc "\x7b% component ".toList]

variable {tagPrefix : List Char} {site : Site}

/-- **What reaches the component** when every backslash has a character to hide. -/
theorem gives_unescaped (site : Site) (hslash : tagPrefix.head? ≠ some '/') (hname : IsComponentName name)
    (h : ∀ a ∈ attributes, a.Static) (hpaired : ∀ a ∈ attributes, paired a.value = true) :
    Template.Gives site (expand (String.ofList tagPrefix) (String.ofList (writtenTag tagPrefix name attributes))).code
      (String.ofList name) (Template.textPairs (attributes.map Attribute.read)) := by
  obtain ⟨last, htokens⟩ := Template.tokens_component (quotedEnds_tagArguments name attributes)
    (passes_tagArguments hname h hpaired)
  rw [expand_tagArguments hslash hname h]
  refine Template.gives_iff.2 ⟨_, last, _, [], htokens, ?_, Template.componentArguments_texts _⟩
  rw [String.toList_ofList]
  exact (spells_tagArguments hname h hpaired).tokens

/-- the arguments in front of the value of an attribute -/
def argumentsUpTo (name : List Char) (front : List Attribute) (key : List Char) : List Char :=
  quoted name ++ (" withAttrs".toList ++ (staticArguments front ++ ' ' :: quoted key)) ++ ['=']

theorem tagArguments_split (name : List Char) (front : List Attribute) (a : Attribute) (rest : List Attribute) :
    tagArguments name (front ++ a :: rest) =
      argumentsUpTo name front a.name ++ '"' :: (a.value ++ '"' :: staticArguments rest) := by
  have hne : (front ++ a :: rest).isEmpty = false := by simp
  have hsplit : staticArguments (front ++ a :: rest) =
      staticArguments front ++ ' ' :: quoted a.name ++ ['='] ++ '"' :: (a.value ++ '"' :: staticArguments rest) := by
    simp [staticArguments, quoted]
  rw [tagArguments, argumentsUpTo, hne, hsplit]
  simp only [Bool.false_eq_true, if_false, List.append_assoc, List.cons_append]

section

variable {front : List Attribute} {key : List Char}

theorem passes_argumentsUpTo (hname : IsComponentName name) (h : ∀ a ∈ front, a.Static)
    (hpaired : ∀ a ∈ front, paired a.value = true) (hkey : Quotable key) :
    Template.Passes (argumentsUpTo name front key) := by
  have hkeyword : Template.Passes " withAttrs".toList := Template.passes_plain (by decide)
  have hspace : Template.Passes [' '] := Template.passes_plain (by decide)
  have hassign : Template.Passes ['='] := Template.passes_plain (by decide)
  have hlast : Template.Passes (' ' :: quoted key) := hspace.append (Template.passes_quotable hkey)
  refine ((Template.passes_quotable hname.quotable).append (hkeyword.append ?_)).append hassign
  exact (passes_staticArguments h hpaired).append hlast

theorem tokens_argumentsUpTo (hname : IsComponentName name) (h : ∀ a ∈ front, a.Static)
    (hpaired : ∀ a ∈ front, paired a.value = true) (hkey : Quotable key) {text : List Char} {words : List Expr.Token}
    (hwords : Expr.tokens (argumentsUpTo name front key ++ '"' :: text) = .ok words) :
    ∃ read left rest, Expr.readQuoted '"' text = .ok (read, left) ∧
      words = .str (String.ofList name) :: .ident "withAttrs" :: (Template.textWords (front.map Attribute.read) ++
        .str (String.ofList key) :: .symbol .assign :: .str (String.ofList read) :: rest) := by
  have hspace : ∃ tail, staticArguments front ++ ' ' :: quoted key = ' ' :: tail := by
    cases front with
    | nil => exact ⟨_, rfl⟩
    | cons a front => exact ⟨_, rfl⟩
  have hspells := hname.quotable.spells.append
    (((spells_staticArguments h hpaired).append (Expr.spells_space.append hkey.spells)).withAttrs hspace)
  have hassign : Expr.tokens (['='] ++ '"' :: text) = (Expr.tokens ('"' :: text)).map ([.symbol .assign] ++ ·) :=
    Expr.tokens_assign text
  rw [argumentsUpTo, List.append_assoc _ ['='], hspells, hassign] at hwords
  obtain ⟨behind, hbehind, rfl⟩ := map_eq_ok.1 hwords
  obtain ⟨words, hquoted, rfl⟩ := map_eq_ok.1 hbehind
  obtain ⟨read, left, rest, hread, rfl⟩ := Expr.tokens_quote hquoted
  exact ⟨read, left, rest, hread, by simp⟩

end

/-- **A value that reaches the component as it is written** has no backslash, whatever stands behind it. -/
theorem not_mem_of_gives (hslash : tagPrefix.head? ≠ some '/') (hname : IsComponentName name)
    {front rest : List Attribute} {a : Attribute} (hstatic : ∀ b ∈ front ++ a :: rest, b.Static)
    (hfront : ∀ b ∈ front, '\\' ∉ b.value)
    (h : Template.Gives site
      (expand (String.ofList tagPrefix) (String.ofList (writtenTag tagPrefix name (front ++ a :: rest)))).code
      (String.ofList name) (Template.textPairs ((front ++ a :: rest).map Attribute.text))) : '\\' ∉ a.value := by
  have ha : a.Static := hstatic a (by simp)
  have hbefore : ∀ b ∈ front, b.Static := fun b hb => hstatic b (by simp [hb])
  have hpaired : ∀ b ∈ front, paired b.value = true := fun b hb => Expr.paired_of_not_mem (hfront b hb)
  rw [expand_tagArguments hslash hname hstatic, tagArguments_split] at h
  obtain ⟨args, last, words, left, htokens, hwords, hgiven⟩ := Template.gives_iff.1 h
  have hpasses := passes_argumentsUpTo hname hbefore hpaired ha.quotable
  have hsource : "\x7b% component ".toList ++
      (argumentsUpTo name front a.name ++ '"' :: (a.value ++ '"' :: staticArguments rest)) ++ " %\x7d".toList ++
      componentEnd = "\x7b% component ".toList ++ (argumentsUpTo name front a.name ++
        '"' :: (a.value ++ '"' :: (staticArguments rest ++ " %\x7d".toList ++ componentEnd))) := by
    generalize "\x7b% component ".toList = opening
    generalize " %\x7d".toList = ending
    simp only [List.append_assoc, List.cons_append]
  rw [hsource] at htokens
  obtain ⟨more, hargs⟩ := Template.tokens_kept ⟨_, rfl⟩ hpasses ha.quote htokens
  cases hargs
  rw [String.toList_ofList] at hwords
  obtain ⟨value, behind, last', hvalue, hwords⟩ := tokens_argumentsUpTo hname hbefore hpaired ha.quotable hwords
  rw [map_read_eq hfront] at hwords
  cases hwords
  obtain ⟨e, given, hall, he⟩ := Template.componentArguments_kept hgiven
  have hvalue' : value = a.value := by
    simp only [Template.textPairs, List.map_append, List.map_cons, List.append_cancel_left_eq, List.cons.injEq,
      Prod.mk.injEq] at hall
    have htext := he _ hall.1.2.symm
    rw [Value.str.injEq, Attribute.text] at htext
    exact (String.ofList_injective htext).symm
  rw [hvalue'] at hvalue
  exact Expr.not_mem_of_readQuoted ha.quote hvalue

/-- one value after the other -/
theorem values_of_gives (hslash : tagPrefix.head? ≠ some '/') (hname : IsComponentName name)
    (front : List Attribute) {rest : List Attribute} (hstatic : ∀ b ∈ front ++ rest, b.Static)
    (hfront : ∀ b ∈ front, '\\' ∉ b.value)
    (h : Template.Gives site
      (expand (String.ofList tagPrefix) (String.ofList (writtenTag tagPrefix name (front ++ rest)))).code
      (String.ofList name) (Template.textPairs ((front ++ rest).map Attribute.text))) :
    ∀ b ∈ rest, '\\' ∉ b.value := by
  induction rest generalizing front with
  | nil => simp
  | cons a rest ih =>
    have ha := not_mem_of_gives hslash hname hstatic hfront h
    rw [List.append_cons] at h hstatic
    have hrest := ih _ hstatic (List.forall_mem_append.2 ⟨hfront, List.forall_mem_singleton.2 ha⟩) h
    exact List.forall_mem_cons.2 ⟨ha, hrest⟩

/-- **Static attributes.** For a component tag that closes itself, with any name and any static attributes: the
component is given the values as they are written if and only if no value has a backslash. When every backslash has a
character to hide, it is given each value as a quoted text means it, in order and under its name. -/
theorem static_attributes (site : Site) (hslash : tagPrefix.head? ≠ some '/') (hname : IsComponentName name)
    (h : ∀ a ∈ attributes, a.Static) :
    (Template.Gives site (expand (String.ofList tagPrefix) (String.ofList (writtenTag tagPrefix name attributes))).code
        (String.ofList name)
        (attributes.map fun a => (String.ofList a.name, .literal (.str (String.ofList a.value)))) ↔
      ∀ a ∈ attributes, '\\' ∉ a.value) ∧
    ((∀ a ∈ attributes, paired a.value = true) →
      Template.Gives site (expand (String.ofList tagPrefix) (String.ofList (writtenTag tagPrefix name attributes))).code
        (String.ofList name)
        (attributes.map fun a => (String.ofList a.name, .literal (.str (String.ofList (unescaped a.value)))))) := by
  have htext : Template.textPairs (attributes.map Attribute.text) =
      attributes.map fun a => (String.ofList a.name, .literal (.str (String.ofList a.value))) := List.map_map
  have hread : Template.textPairs (attributes.map Attribute.read) =
      attributes.map fun a => (String.ofList a.name, .literal (.str (String.ofList (unescaped a.value)))) :=
    List.map_map
  have hgives := gives_unescaped site hslash hname h
  rw [← htext, ← hread]
  refine ⟨⟨values_of_gives hslash hname [] h (by simp), fun hnot => ?_⟩, hgives⟩
  have hpaired : ∀ a ∈ attributes, paired a.value = true := fun a ha => Expr.paired_of_not_mem (hnot a ha)
  rw [← map_read_eq hnot]
  exact hgives hpaired

/-- a price with the end of a tag and a single quote in it, and a path with a backslash -/
def priceAndPath : List Attribute :=
  [⟨"price".toList, "5 %\x7d 'off'".toList⟩, ⟨"path".toList, "C:\\new".toList⟩]

theorem isComponentName_show : IsComponentName "show".toList where
  ne_nil := by decide
  chars := List.all_eq_true.1 (by decide)
  ne_slot := by decide

theorem priceAndPath_static : ∀ a ∈ priceAndPath, a.Static := by
  have hprice : Attribute.Static ⟨"price".toList, "5 %\x7d 'off'".toList⟩ :=
    ⟨by decide, List.all_eq_true.1 (by decide), by decide, by decide, by simp⟩
  have hpath : Attribute.Static ⟨"path".toList, "C:\\new".toList⟩ :=
    ⟨by decide, List.all_eq_true.1 (by decide), by decide, by decide, by simp⟩
  exact List.forall_mem_cons.2 ⟨hprice, List.forall_mem_singleton.2 hpath⟩

/-- the price reaches the component as it is written, the path does not: its backslash and the letter behind it are a
line feed -/
theorem static_attributes_priceAndPath :
    Template.Gives ⟨"page", .start⟩
      (expand defaultTagPrefix "<x-show price=\"5 %\x7d 'off'\" path=\"C:\\new\" />").code "show"
      [("price", .literal (.str "5 %\x7d 'off'")), ("path", .literal (.str "C:\new"))] := by
  have hslash : "x-".toList.head? ≠ some '/' := by decide
  have hgives := (static_attributes ⟨"page", .start⟩ hslash isComponentName_show priceAndPath_static).2 (by decide)
  exact hgives

/-- **A static value with a backslash** does not reach the component as it is written. -/
theorem static_backslash_lost :
    IsComponentName "show".toList ∧ (∀ a ∈ priceAndPath, a.Static) ∧
      ¬ Template.Gives ⟨"page", .start⟩
        (expand defaultTagPrefix "<x-show price=\"5 %\x7d 'off'\" path=\"C:\\new\" />").code "show"
        [("price", .literal (.str "5 %\x7d 'off'")), ("path", .literal (.str "C:\\new"))] := by
  refine ⟨isComponentName_show, priceAndPath_static, fun h => ?_⟩
  have hslash : "x-".toList.head? ≠ some '/' := by decide
  have hnot := values_of_gives hslash isComponentName_show [] priceAndPath_static (by simp) h
  exact absurd hnot (by decide)

end Markup

end Templating
