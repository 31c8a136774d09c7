/-
Attribute sets, read back from their markup.

A reader that knows nothing but quotes gets the attributes back: the text up to a quote is a key and an equals sign,
the text up to the next quote is a value, and a space or the end follows. No key and no value holds a quote once its
characters are escaped, so neither of them ends before its own quote, whatever is in it.

- `readItem?_renderItem`: one attribute is read back, whatever follows it.
- `readItems?_render`: so are all of them, in order.
- `attributes_read_back`: and thus a rendered set tells its items, and no value leaves its quotes.
-/
import Templating.Attributes
import Templating.Proofs.Entities

namespace Templating

namespace Text

/-- a text is cut at the first of a character -/
theorem cutAt?_char {c : Char} {front : List Char} (h : c ∉ front) (back : List Char) :
    cutAt? [c] (front ++ c :: back) = some (front, back) := by
  induction front with
  | nil => simp [cutAt?, afterMark?]
  | cons d front ih =>
    have hne := List.ne_of_not_mem_cons h
    simp [cutAt?, afterMark?, hne, ih (List.not_mem_of_not_mem_cons h)]

end Text

namespace Attributes

/-! ## The reader -/

/-- the text in front of an equals sign at its end -/
def beforeAssign? (text : List Char) : Option (List Char) :=
  if text.getLast? = some '=' then some text.dropLast else none

/-- the attribute at the start of a text, with the characters that its entities stand for, and what follows its
closing quote -/
def readItem? (text : List Char) : Option ((String × String) × List Char) := do
  let (named, rest) ← Text.cutAt? ['"'] text
  let key ← beforeAssign? named
  let (value, rest) ← Text.cutAt? ['"'] rest
  some ((String.ofList (Text.unescapeChars key), String.ofList (Text.unescapeChars value)), rest)

theorem readItem?_length {text rest : List Char} {item : String × String} (h : readItem? text = some (item, rest)) :
    rest.length < text.length := by
  obtain ⟨⟨named, behind⟩, hnamed, h⟩ := Option.bind_eq_some_iff.1 h
  obtain ⟨key, -, h⟩ := Option.bind_eq_some_iff.1 h
  obtain ⟨⟨value, behind'⟩, hvalue, h⟩ := Option.bind_eq_some_iff.1 h
  cases h
  have hfirst := congrArg List.length (Text.cutAt?_eq_some hnamed)
  have hsecond := congrArg List.length (Text.cutAt?_eq_some hvalue)
  simp only [List.length_append, List.length_singleton] at hfirst hsecond
  omega

/-- attributes with a space between them up to the end of the text, at least one -/
def readSome? (text : List Char) : Option (List (String × String)) :=
  match _h : readItem? text with
  | some (item, []) => some [item]
  | some (item, ' ' :: rest) => (readSome? rest).map (item :: ·)
  | _ => none
termination_by text.length
decreasing_by
  have hlength := readItem?_length _h
  rw [List.length_cons] at hlength
  omega

/-- the attributes of a text -/
def readItems? (text : List Char) : Option (List (String × String)) :=
  if text.isEmpty then some [] else readSome? text

/-! ## What is rendered is read -/

theorem toList_renderItem (key value : String) :
    (renderItem key value).toList =
      (Text.escapeChars key.toList ++ ['=']) ++ '"' :: (Text.escapeChars value.toList ++ ['"']) := by
  simp [renderItem, Text.escapeHtml]

/-- **One attribute is read back**, whatever follows it. -/
theorem readItem?_renderItem (key value : String) (rest : List Char) :
    readItem? ((renderItem key value).toList ++ rest) = some ((key, value), rest) := by
  have hquote : ∀ text, '"' ∉ Text.escapeChars text := Text.not_mem_escapeChars (by decide)
  have hnamed : '"' ∉ Text.escapeChars key.toList ++ ['='] := by simp [hquote]
  have htext : (renderItem key value).toList ++ rest =
      (Text.escapeChars key.toList ++ ['=']) ++ '"' :: (Text.escapeChars value.toList ++ '"' :: rest) := by
    simp [toList_renderItem]
  rw [htext, readItem?, Text.cutAt?_char hnamed]
  simp only [bind, Option.bind, beforeAssign?, List.getLast?_concat, List.dropLast_concat, if_true,
    Text.cutAt?_char (hquote _), Text.unescapeChars_escapeChars, String.ofList_toList]

theorem readSome?_last {text : List Char} {item : String × String} (h : readItem? text = some (item, [])) :
    readSome? text = some [item] := by
  rw [readSome?]
  split <;> simp_all

theorem readSome?_more {text rest : List Char} {item : String × String}
    (h : readItem? text = some (item, ' ' :: rest)) : readSome? text = (readSome? rest).map (item :: ·) := by
  rw [readSome?]
  split <;> simp_all

/-- attributes with a space between them are read one after the other -/
theorem readSome?_rendered (item : String × String) (items : List (String × String)) :
    readSome? (" ".intercalate ((item :: items).map fun (key, value) => renderItem key value)).toList =
      some (item :: items) := by
  induction items generalizing item with
  | nil =>
    have hitem := readItem?_renderItem item.1 item.2 []
    rw [List.append_nil] at hitem
    simpa using readSome?_last hitem
  | cons next items ih =>
    have hitem := readItem?_renderItem item.1 item.2
      (' ' :: (" ".intercalate ((next :: items).map fun (key, value) => renderItem key value)).toList)
    have hmore := readSome?_more hitem
    rw [ih next] at hmore
    simpa [String.intercalate_cons_cons] using hmore

theorem readSome?_nil : readSome? [] = none := by
  rw [readSome?]
  rfl

/-- **A rendered set is read back**: all its items, in order. -/
theorem readItems?_render (a : Attributes) : readItems? a.render.toList = some a.items := by
  unfold readItems? render
  cases a.items with
  | nil => rfl
  | cons item items =>
    have hread := readSome?_rendered item items
    rw [if_neg, hread]
    intro hempty
    rw [List.isEmpty_iff.1 hempty, readSome?_nil] at hread
    cases hread

end Attributes

open Text in
/-- **A rendered attribute set can be read back, and no value leaves its quotes.** Escaping is undone by one pass over
the text, so no two texts are escaped alike; an escaped text holds none of the characters of markup, and an ampersand
only at the start of an entity. A reader that cuts at quotes gets the keys and values of every set back, in order, so no
two sets with different items are rendered alike. -/
theorem attributes_read_back :
    (∀ text, unescapeHtml (escapeHtml text) = text) ∧ Function.Injective escapeHtml ∧
      (∀ text, ∀ c ∈ markupChars, c ∉ (escapeHtml text).toList) ∧
      (∀ text front rest, (escapeHtml text).toList = front ++ '&' :: rest →
        ∃ entity ∈ entities, entity <+: '&' :: rest) ∧
      (∀ a : Attributes, Attributes.readItems? a.render.toList = some a.items) ∧
      ∀ a b : Attributes, a.items ≠ b.items → a.render ≠ b.render := by
  refine ⟨unescapeHtml_escapeHtml, ?_, fun text c hc => ?_, fun text front rest h => ?_, Attributes.readItems?_render,
    fun a b hitems hrender => ?_⟩
  · exact Function.LeftInverse.injective unescapeHtml_escapeHtml
  · rw [escapeHtml, String.toList_ofList]
    exact not_mem_escapeChars hc text.toList
  · rw [escapeHtml, String.toList_ofList] at h
    exact entity_of_ampersand h
  · have ha := a.readItems?_render
    rw [hrender, b.readItems?_render] at ha
    exact hitems (Option.some.inj ha).symm

/-- a set with a quote and an equals sign in a key, an empty key, and a value that looks escaped -/
def oddAttributes : Attributes :=
  .ofList [("a=\" b", "1\" c=\"2"), ("", "&lt;")]

/-- what it would be if the quotes ended the value -/
def torn : Attributes :=
  .ofList [("a=\" b", "1"), ("c", "2"), ("", "&lt;")]

open Text in
theorem attributes_read_back_odd :
    oddAttributes.render = "a=&#34; b=\"1&#34; c=&#34;2\" =\"&amp;lt;\"" ∧
      Attributes.readItems? oddAttributes.render.toList = some [("a=\" b", "1\" c=\"2"), ("", "&lt;")] ∧
      oddAttributes.render ≠ torn.render ∧ '"' ∉ (escapeHtml "1\" c=\"2").toList ∧
      ∃ entity ∈ entities, entity <+: "&amp;lt;".toList := by
  obtain ⟨-, -, hfree, hampersand, hread, hapart⟩ := attributes_read_back
  have hitems : oddAttributes.items = [("a=\" b", "1\" c=\"2"), ("", "&lt;")] := by decide +kernel
  refine ⟨by decide +kernel, ?_, hapart _ _ (by decide +kernel), hfree _ '"' (by decide), ?_⟩
  · rw [hread, hitems]
  · exact hampersand "&lt;" [] "amp;lt;".toList (by decide +kernel)

end Templating
