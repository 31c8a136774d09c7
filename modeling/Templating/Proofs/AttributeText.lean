/-
The attributes of a tag among everything else that is written in it.

Only names with a value in double quotes count. A single word, a value without quotes and one in single quotes have no
double quote of their own, and the reader gives up on each of their characters: whatever it takes for a name there is
not followed by an equals sign and a double quote, because the next item starts with a name (`readAttribute?_plain`).
So it comes to the start of the next item each time, whatever came before.

- `readAttribute?_spaced`: an attribute is read with white space around its equals sign.
- `attributesAfter_plain`: a text without double quotes is passed over to the item behind it.
- `attribute_text`: the attributes of a text of items, in order.
-/
import Templating.Proofs.MarkupTag

namespace Templating

namespace Markup

/-! ## Items -/

/-- a word in the characters of attribute names -/
def IsWord (word : List Char) : Prop :=
  word ≠ [] ∧ ∀ c ∈ word, isAttributeNameChar c = true

-- the characters of the word are gone through, not all characters that there are
instance (word : List Char) : Decidable (IsWord word) :=
  decidable_of_iff (word ≠ [] ∧ word.all isAttributeNameChar = true) (and_congr_right fun _ => List.all_eq_true)

/-- what is written between the white space of a tag -/
inductive Item where
  /-- an attribute, with white space in front of its equals sign and behind it -/
  | quoted (a : Attribute) (before behind : List Char)
  | bare (word : List Char)
  | unquoted (name word : List Char)
  | singleQuoted (name value : List Char)
  deriving DecidableEq, Repr

namespace Item

/-- how the item is written -/
def text : Item → List Char
  | quoted a before behind => a.name ++ (before ++ '=' :: (behind ++ Markup.quoted a.value))
  | bare word => word
  | unquoted name word => name ++ '=' :: word
  | singleQuoted name value => name ++ '=' :: '\'' :: (value ++ ['\''])

/-- the attribute that it counts as -/
def attribute? : Item → Option Attribute
  | quoted a _ _ => some a
  | _ => none

/-- the item is written in the characters of its kind: no double quote and no line feed in a value that counts, and no
double quote in any other -/
def Valid : Item → Prop
  | quoted a before behind => IsWord a.name ∧ (∀ c ∈ before, Text.isBlank c = true) ∧
      (∀ c ∈ behind, Text.isBlank c = true) ∧ ∀ c ∈ a.value, c ≠ '"' ∧ c ≠ '\n'
  | bare word => IsWord word
  | unquoted name word => IsWord name ∧ IsWord word
  | singleQuoted name value => IsWord name ∧ '"' ∉ value

instance : (item : Item) → Decidable item.Valid
  | quoted a before behind =>
    decidable_of_iff (IsWord a.name ∧ before.all Text.isBlank = true ∧ behind.all Text.isBlank = true ∧
      a.value.all (fun c => c ≠ '"' ∧ c ≠ '\n') = true) (by simp only [Valid, List.all_eq_true, decide_eq_true_iff])
  | bare word => inferInstanceAs (Decidable (IsWord word))
  | unquoted .. => inferInstanceAs (Decidable (_ ∧ _))
  | singleQuoted .. => inferInstanceAs (Decidable (_ ∧ _))

end Item

theorem isAttributeNameChar_of_isBlank {c : Char} (h : Text.isBlank c = true) : isAttributeNameChar c = false := by
  cases hname : isAttributeNameChar c with
  | false => rfl
  | true => rw [isBlank_of_isAttributeNameChar hname] at h; cases h

theorem IsWord.not_mem_quote {word : List Char} (h : IsWord word) : '"' ∉ word :=
  fun hmem => (isAttributeNameChar_plain (h.2 _ hmem)).1 rfl

/-! ## Attributes -/

/-- **An attribute is read** from the start of a text, with white space around its equals sign. -/
theorem readAttribute?_spaced {a : Attribute} {before behind : List Char} (h : (Item.quoted a before behind).Valid)
    (rest : List Char) : readAttribute? ((Item.quoted a before behind).text ++ rest) = some (a, rest) := by
  obtain ⟨⟨hne, hchars⟩, hbefore, hbehind, hvalue⟩ := h
  have htext : (Item.quoted a before behind).text ++ rest =
      a.name ++ (before ++ '=' :: (behind ++ '"' :: (a.value ++ '"' :: rest))) := by
    simp [Item.text, Markup.quoted]
  have hstop : ∀ c ∈ (before ++ '=' :: (behind ++ '"' :: (a.value ++ '"' :: rest))).head?,
      isAttributeNameChar c = false := by
    cases before with
    | nil => exact Text.stops_cons (by decide) _
    | cons c before => exact Text.stops_cons (isAttributeNameChar_of_isBlank (hbefore c List.mem_cons_self)) _
  obtain ⟨htake, hdrop⟩ := Text.takeWhile_front hchars hstop
  have hassign : Text.trimStart (before ++ '=' :: (behind ++ '"' :: (a.value ++ '"' :: rest))) =
      '=' :: (behind ++ '"' :: (a.value ++ '"' :: rest)) := by
    rw [Text.trimStart_blanks hbefore, Text.trimStart_cons (by decide)]
  have hquote : Text.trimStart (behind ++ '"' :: (a.value ++ '"' :: rest)) = '"' :: (a.value ++ '"' :: rest) := by
    rw [Text.trimStart_blanks hbehind, Text.trimStart_cons (by decide)]
  unfold readAttribute?
  rw [htext, htake, hdrop, hassign]
  split
  · next hnil => exact absurd hnil hne
  · simp only [hquote, readValue?_quoted hvalue, Option.map_some]

/-! ## What does not count -/

/-- a text that completes no attribute in front of it: it does not go on with a name, an equals sign or a double
quote -/
structure Apart (text : List Char) : Prop where
  name : ∀ c ∈ text.head?, isAttributeNameChar c = false
  sign : ∀ c ∈ (Text.trimStart text).head?, c ≠ '=' ∧ c ≠ '"'

/-- no double quote follows the white space behind a text without them -/
theorem Apart.trimStart_ne {text rest left : List Char} (h : Apart rest) (htext : '"' ∉ text) :
    Text.trimStart (text ++ rest) ≠ '"' :: left := by
  intro hquote
  rcases Text.trimStart_append_eq_cons hquote with ⟨tail, htail, -⟩ | hrest
  · exact htext (Text.mem_of_mem_trimStart (by rw [htail]; exact List.mem_cons_self))
  · exact (h.sign '"' (by rw [hrest]; rfl)).2 rfl

/-- **No attribute starts** at a text without double quotes in front of such a text. -/
theorem readAttribute?_plain {front rest : List Char} (hfront : '"' ∉ front) (hrest : Apart rest) :
    readAttribute? (front ++ rest) = none := by
  obtain ⟨-, hdrop⟩ := Text.takeWhile_append_stop hrest.name front
  have hplain : '"' ∉ Text.trimStart (front.dropWhile isAttributeNameChar) := fun hmem =>
    hfront ((List.dropWhile_sublist _).mem (Text.mem_of_mem_trimStart hmem))
  unfold readAttribute?
  rw [hdrop]
  split
  · rfl
  · split
    · next left hassign =>
      -- an equals sign in the front has a front of its own behind it, and one behind the front is none
      rcases Text.trimStart_append_eq_cons hassign with ⟨tail, htail, rfl⟩ | hsign
      · rw [htail] at hplain
        split
        · next hquote => exact absurd hquote (hrest.trimStart_ne (List.not_mem_of_not_mem_cons hplain))
        · rfl
      · exact absurd rfl (hrest.sign '=' (by rw [hsign]; rfl)).1
    · rfl

/-- **A text without double quotes is passed over**, whatever words and signs are in it. -/
theorem attributesAfter_plain {front rest : List Char} (hfront : '"' ∉ front) (hrest : Apart rest) :
    attributesAfter 0 (front ++ rest) = attributesAfter 0 rest := by
  induction front with
  | nil => rfl
  | cons c front ih =>
    have hnone := readAttribute?_plain hfront hrest
    rw [List.cons_append] at hnone ⊢
    rw [attributesAfter, hnone]
    exact ih (List.not_mem_of_not_mem_cons hfront)

theorem attributesAfter_blanks {blanks : List Char} (h : ∀ c ∈ blanks, Text.isBlank c = true) (rest : List Char) :
    attributesAfter 0 (blanks ++ rest) = attributesAfter 0 rest := by
  induction blanks with
  | nil => rfl
  | cons c blanks ih =>
    obtain ⟨hc, hblanks⟩ := List.forall_mem_cons.1 h
    have hnone : readAttribute? (c :: (blanks ++ rest)) = none := by
      simp [readAttribute?, isAttributeNameChar_of_isBlank hc]
    rw [List.cons_append, attributesAfter, hnone]
    exact ih hblanks

/-! ## Texts of items -/

/-- items as they are written, each behind its white space -/
def itemsText (items : List (List Char × Item)) : List Char :=
  items.flatMap fun (blanks, item) => blanks ++ item.text

namespace Item

variable {item : Item}

/-- an item starts with the first character of a name -/
theorem Valid.exists_start (h : item.Valid) : ∃ c rest, item.text = c :: rest ∧ isAttributeNameChar c = true := by
  have hword : ∀ {word : List Char}, IsWord word → ∀ behind, ∃ c rest,
      word ++ behind = c :: rest ∧ isAttributeNameChar c = true := by
    rintro word ⟨hne, hchars⟩ behind
    obtain ⟨c, rest, rfl⟩ := List.exists_cons_of_ne_nil hne
    exact ⟨c, rest ++ behind, rfl, hchars c List.mem_cons_self⟩
  cases item with
  | quoted a before behind => exact hword h.1 _
  | bare word => simpa [text] using hword h []
  | unquoted name word => exact hword h.1 _
  | singleQuoted name value => exact hword h.1 _

theorem Valid.not_mem_quote (h : item.Valid) (hnone : item.attribute? = none) : '"' ∉ item.text := by
  cases item with
  | quoted a before behind => cases hnone
  | bare word => exact h.not_mem_quote
  | unquoted name word => simp [text, h.1.not_mem_quote, h.2.not_mem_quote]
  | singleQuoted name value => simp [text, h.1.not_mem_quote, h.2]

end Item

variable {items : List (List Char × Item)} {behind : List Char}

theorem apart_blanks {blanks : List Char} (h : ∀ c ∈ blanks, Text.isBlank c = true) : Apart blanks where
  name c hc := isAttributeNameChar_of_isBlank (h c (List.mem_of_mem_head? hc))
  sign := by
    have hnone : Text.trimStart blanks = [] := List.dropWhile_eq_nil_iff.2 h
    rw [hnone]
    simp

/-- items behind white space complete nothing in front of them -/
theorem apart_itemsText (hvalid : ∀ item ∈ items, item.2.Valid)
    (hblank : ∀ item ∈ items, ∀ c ∈ item.1, Text.isBlank c = true) (hapart : ∀ item ∈ items, item.1 ≠ [])
    (hbehind : ∀ c ∈ behind, Text.isBlank c = true) : Apart (itemsText items ++ behind) := by
  cases items with
  | nil => exact apart_blanks hbehind
  | cons first rest =>
    obtain ⟨blanks, item⟩ := first
    have hblanks : ∀ c ∈ blanks, Text.isBlank c = true := hblank _ List.mem_cons_self
    obtain ⟨c, tail, htext, hc⟩ := (hvalid _ List.mem_cons_self).exists_start
    have hsplit : itemsText ((blanks, item) :: rest) ++ behind =
        blanks ++ c :: (tail ++ (itemsText rest ++ behind)) := by
      have htext' : item.text = c :: tail := htext
      simp [itemsText, htext']
    rw [hsplit]
    refine ⟨?_, ?_⟩
    · obtain ⟨b, blanks', rfl⟩ := List.exists_cons_of_ne_nil (hapart _ List.mem_cons_self)
      exact Text.stops_cons (isAttributeNameChar_of_isBlank (hblanks b List.mem_cons_self)) _
    · rw [Text.trimStart_blanks hblanks, Text.trimStart_cons (isBlank_of_isAttributeNameChar hc)]
      rintro d hd
      cases hd
      refine ⟨?_, (isAttributeNameChar_plain hc).1⟩
      rintro rfl
      exact absurd hc (by decide)

/-- **Attribute text.** Items with white space between them are read as the attributes among them, names and values as
they are written and in order: those in double quotes, with any white space around the equals sign. Words, values
without quotes and values in single quotes are passed over, and none of their names is paired with a value that belongs
to another. -/
theorem attribute_text (hvalid : ∀ item ∈ items, item.2.Valid)
    (hblank : ∀ item ∈ items, ∀ c ∈ item.1, Text.isBlank c = true) (hapart : ∀ item ∈ items.tail, item.1 ≠ [])
    (hbehind : ∀ c ∈ behind, Text.isBlank c = true) :
    readAttributes (itemsText items ++ behind) = items.filterMap fun item => item.2.attribute? := by
  unfold readAttributes
  induction items with
  | nil => simpa [itemsText, attributesAfter] using attributesAfter_blanks hbehind []
  | cons first rest ih =>
    obtain ⟨blanks, item⟩ := first
    obtain ⟨hitem, hvalid⟩ := List.forall_mem_cons.1 hvalid
    obtain ⟨hblanks, hblank⟩ := List.forall_mem_cons.1 hblank
    have hrest := ih hvalid hblank fun item hitem => hapart item (List.mem_of_mem_tail hitem)
    have hsplit : itemsText ((blanks, item) :: rest) ++ behind =
        blanks ++ (item.text ++ (itemsText rest ++ behind)) := by
      simp [itemsText]
    rw [hsplit, attributesAfter_blanks hblanks]
    cases hattribute : item.attribute? with
    | some a =>
      obtain ⟨before, after, rfl⟩ : ∃ before after, item = .quoted a before after := by
        cases item with
        | quoted a' before after => cases hattribute; exact ⟨before, after, rfl⟩
        | bare | unquoted | singleQuoted => cases hattribute
      obtain ⟨c, tail, htext, -⟩ := hitem.exists_start
      have hne : (Item.quoted a before after).text ≠ [] := by
        rw [htext]
        exact List.cons_ne_nil c tail
      rw [attributesAfter_found hne (readAttribute?_spaced hitem _), hrest]
      rfl
    | none =>
      have hplain := attributesAfter_plain (hitem.not_mem_quote hattribute)
        (apart_itemsText hvalid hblank hapart hbehind)
      rw [hplain, hrest, List.filterMap_cons_none (by exact hattribute)]

/-- a word, a value without quotes, one in single quotes that ends in an equals sign, and two attributes -/
def mixedItems : List (List Char × Item) :=
  [([], .bare "disabled".toList), (" ".toList, .unquoted "id".toList "main".toList),
    ("\n".toList, .singleQuoted "title".toList "x id =".toList),
    ("  ".toList, .quoted ⟨":class".toList, "a='b'".toList⟩ " ".toList "\n".toList),
    ("\t".toList, .quoted ⟨"alt".toList, []⟩ [] [])]

theorem attribute_text_mixed :
    readAttributes "disabled id=main\ntitle='x id ='  :class =\n\"a='b'\"\talt=\"\" ".toList =
      [⟨":class".toList, "a='b'".toList⟩, ⟨"alt".toList, []⟩] := by
  have hblank : ∀ item ∈ mixedItems, item.1.all Text.isBlank = true := by decide
  have hread : readAttributes (itemsText mixedItems ++ [' ']) = mixedItems.filterMap fun item => item.2.attribute? :=
    attribute_text (by decide) (fun item hitem => List.all_eq_true.1 (hblank item hitem)) (by decide)
      (List.all_eq_true.1 (by decide))
  exact hread

end Markup

end Templating
