/-
A component tag of markup, and what it is expanded to.

A tag is written with one space in front of each `name="value"`. The four stages that read it back look for different
ends: the tag ends at a bracket outside of quotes, the attribute text at white space, a name at a character that is in
no name, and a value at its quote. `Attribute.Legible` is what makes all of them find the end that was meant;
`Attribute.Static` is more, an attribute whose value is no expression.

- `pieces_writtenTag`: the tag is one piece.
- `attributesAfter_written`: the attributes are read back, in order.
- `expand_legible`, `expand_writtenTag`: what the tag is expanded to, with attributes of any kind and with static ones.
-/
import Templating.Markup.Expansion
import Templating.Proofs.Trimming

namespace Templating

namespace Markup

/-- the name of a component that is no slot -/
structure IsComponentName (name : List Char) : Prop where
  ne_nil : name ≠ []
  chars : ∀ c ∈ name, isNameChar c = true
  ne_slot : name ≠ slotName

/-- an attribute whose value stands for itself in markup -/
structure Attribute.Static (a : Attribute) : Prop where
  ne_nil : a.name ≠ []
  chars : ∀ c ∈ a.name, isAttributeNameChar c = true
  not_dynamic : a.name.head? ≠ some ':'
  ne_slotData : a.name ≠ slotDataName
  value : ∀ c ∈ a.value, c ≠ '"' ∧ c ≠ '<' ∧ c ≠ '\n'

/-- an attribute that is read back as it is written -/
structure Attribute.Legible (a : Attribute) : Prop where
  ne_nil : a.name ≠ []
  chars : ∀ c ∈ a.name, isAttributeNameChar c = true
  value : ∀ c ∈ a.value, c ≠ '"' ∧ c ≠ '<' ∧ c ≠ '\n'

theorem Attribute.Static.legible {a : Attribute} (h : a.Static) : a.Legible :=
  ⟨h.ne_nil, h.chars, h.value⟩

/-- an attribute as it is written -/
def Attribute.written (a : Attribute) : List Char :=
  a.name ++ '=' :: quoted a.value

/-- attributes as they are written, a space in front of each -/
def writtenAttributes (attributes : List Attribute) : List Char :=
  attributes.flatMap fun a => ' ' :: a.written

/-- a component tag that closes itself, as it is written -/
def writtenTag (tagPrefix name : List Char) (attributes : List Attribute) : List Char :=
  '<' :: tagPrefix ++ (name ++ (writtenAttributes attributes ++ [' ', '/', '>']))

/-! ## attributes -/

theorem readValue?_quoted {value : List Char} (h : ∀ c ∈ value, c ≠ '"' ∧ c ≠ '\n') (rest : List Char) :
    readValue? (value ++ '"' :: rest) = some (value, rest) := by
  induction value with
  | nil => rfl
  | cons c value ih =>
    obtain ⟨⟨hquote, hline⟩, hvalue⟩ := List.forall_mem_cons.1 h
    rw [List.cons_append, readValue?, if_neg hquote, if_neg hline, ih hvalue]
    rfl

/-- an attribute is read back from the start of a text -/
theorem readAttribute?_written {a : Attribute} (ha : a.Legible) (rest : List Char) :
    readAttribute? (a.written ++ rest) = some (a, rest) := by
  have hvalue : readValue? (a.value ++ '"' :: rest) = some (a.value, rest) :=
    readValue?_quoted (fun c hc => ⟨(ha.value c hc).1, (ha.value c hc).2.2⟩) rest
  have htext : a.written ++ rest = a.name ++ '=' :: '"' :: (a.value ++ '"' :: rest) := by
    simp [Attribute.written, quoted]
  obtain ⟨htake, hdrop⟩ := Text.takeWhile_front ha.chars
    (Text.stops_cons (show isAttributeNameChar '=' = false by decide) ('"' :: (a.value ++ '"' :: rest)))
  unfold readAttribute?
  rw [htext, htake, hdrop, Text.trimStart_cons (by decide)]
  split
  · next hnil => exact absurd hnil ha.ne_nil
  · simp only [Text.trimStart_cons (show Text.isBlank '"' = false by decide), hvalue, Option.map_some]

theorem attributesAfter_drop (skip : Nat) (text : List Char) :
    attributesAfter skip text = attributesAfter 0 (text.drop skip) := by
  induction text generalizing skip with
  | nil => cases skip <;> rfl
  | cons c text ih =>
    cases skip with
    | zero => rfl
    | succ skip => exact ih skip

theorem attributesAfter_space (text : List Char) : attributesAfter 0 (' ' :: text) = attributesAfter 0 text := by
  have hnone : readAttribute? (' ' :: text) = none := by
    have hstop : isAttributeNameChar ' ' = false := by decide
    simp [readAttribute?, hstop]
  rw [attributesAfter, hnone]

/-- behind an attribute the reading goes on -/
theorem attributesAfter_found {front rest : List Char} {a : Attribute} (hfront : front ≠ [])
    (h : readAttribute? (front ++ rest) = some (a, rest)) :
    attributesAfter 0 (front ++ rest) = a :: attributesAfter 0 rest := by
  cases front with
  | nil => exact absurd rfl hfront
  | cons c front =>
    rw [List.cons_append] at h ⊢
    rw [attributesAfter, h]
    dsimp only
    rw [attributesAfter_drop, List.length_append, Nat.add_sub_cancel, List.drop_left]

/-- **Written attributes** are read back, in order. -/
theorem attributesAfter_written {attributes : List Attribute} (h : ∀ a ∈ attributes, a.Legible) :
    attributesAfter 0 (writtenAttributes attributes) = attributes := by
  induction attributes with
  | nil => rfl
  | cons a rest ih =>
    obtain ⟨ha, hrest⟩ := List.forall_mem_cons.1 h
    have hread := readAttribute?_written ha (writtenAttributes rest)
    have hne : a.written ≠ [] := by simp [Attribute.written]
    calc attributesAfter 0 (writtenAttributes (a :: rest))
      _ = attributesAfter 0 (' ' :: (a.written ++ writtenAttributes rest)) := rfl
      _ = attributesAfter 0 (a.written ++ writtenAttributes rest) := attributesAfter_space _
      _ = a :: attributesAfter 0 (writtenAttributes rest) := attributesAfter_found hne hread
      _ = a :: rest := by rw [ih hrest]

/-! ## the tag -/

theorem tagBody?_quoted {value : List Char} (h : ∀ c ∈ value, c ≠ '"' ∧ c ≠ '<') (rest : List Char) :
    tagBody? true (value ++ '"' :: rest) = (tagBody? false rest).map fun body => value ++ '"' :: body := by
  induction value with
  | nil => simp [tagBody?]
  | cons c value ih =>
    obtain ⟨⟨hquote, hbracket⟩, hvalue⟩ := List.forall_mem_cons.1 h
    simp [tagBody?, hquote, hbracket, ih hvalue, Function.comp_def]

theorem tagBody?_plain {text : List Char} (h : ∀ c ∈ text, c ≠ '"' ∧ c ≠ '<' ∧ c ≠ '>') (rest : List Char) :
    tagBody? false (text ++ rest) = (tagBody? false rest).map (text ++ ·) := by
  induction text with
  | nil => simp
  | cons c text ih =>
    obtain ⟨⟨hquote, hbracket, hend⟩, htext⟩ := List.forall_mem_cons.1 h
    simp [tagBody?, hquote, hbracket, hend, ih htext, Function.comp_def]

theorem isAttributeNameChar_plain {c : Char} (h : isAttributeNameChar c = true) : c ≠ '"' ∧ c ≠ '<' ∧ c ≠ '>' := by
  refine ⟨?_, ?_, ?_⟩ <;> rintro rfl <;> revert h <;> decide

theorem tagBody?_written {a : Attribute} (ha : a.Legible) (rest : List Char) :
    tagBody? false (' ' :: a.written ++ rest) = (tagBody? false rest).map (' ' :: a.written ++ ·) := by
  have hname : ∀ c ∈ ' ' :: (a.name ++ ['=']), c ≠ '"' ∧ c ≠ '<' ∧ c ≠ '>' := by
    intro c hc
    simp only [List.mem_cons, List.mem_append, List.not_mem_nil, or_false] at hc
    rcases hc with rfl | hc | rfl
    · decide
    · exact isAttributeNameChar_plain (ha.chars c hc)
    · decide
  have hvalue := tagBody?_quoted (fun c hc => ⟨(ha.value c hc).1, (ha.value c hc).2.1⟩) rest
  have htext : ' ' :: a.written ++ rest = ' ' :: (a.name ++ ['=']) ++ '"' :: (a.value ++ '"' :: rest) := by
    simp [Attribute.written, quoted]
  have hquote : tagBody? false ('"' :: (a.value ++ '"' :: rest)) =
      (tagBody? true (a.value ++ '"' :: rest)).map ('"' :: ·) := by simp [tagBody?]
  rw [htext, tagBody?_plain hname, hquote, hvalue]
  simp [Attribute.written, quoted, Function.comp_def]

theorem tagBody?_attributes {attributes : List Attribute} (h : ∀ a ∈ attributes, a.Legible) :
    tagBody? false (writtenAttributes attributes ++ [' ', '/', '>']) =
      some (writtenAttributes attributes ++ [' ', '/']) := by
  induction attributes with
  | nil => decide
  | cons a rest ih =>
    obtain ⟨ha, hrest⟩ := List.forall_mem_cons.1 h
    have hsplit : ∀ behind : List Char, writtenAttributes (a :: rest) ++ behind =
        ' ' :: a.written ++ (writtenAttributes rest ++ behind) := by simp [writtenAttributes]
    rw [hsplit, hsplit, tagBody?_written ha, ih hrest]
    rfl

/-- no character of a name is white space -/
theorem isBlank_of_isAttributeNameChar {c : Char} (h : isAttributeNameChar c = true) : Text.isBlank c = false := by
  simp only [isAttributeNameChar, Bool.or_eq_true, beq_iff_eq] at h
  rcases h with (((h | rfl) | rfl) | rfl) | rfl
  · exact Text.isBlank_of_isAlphanum h
  all_goals decide

/-- attributes end at a quote -/
theorem written_ends (a : Attribute) (rest : List Attribute) :
    ∃ front, a.written ++ writtenAttributes rest = front ++ ['"'] := by
  induction rest generalizing a with
  | nil => exact ⟨a.name ++ '=' :: '"' :: a.value, by simp [Attribute.written, quoted, writtenAttributes]⟩
  | cons b rest ih =>
    obtain ⟨front, hfront⟩ := ih b
    refine ⟨a.written ++ ' ' :: front, ?_⟩
    calc a.written ++ writtenAttributes (b :: rest)
      _ = a.written ++ ' ' :: (b.written ++ writtenAttributes rest) := rfl
      _ = a.written ++ ' ' :: front ++ ['"'] := by simp [hfront]

/-- the attribute text of the tag is read back as the attributes -/
theorem bodyAttributes_written {attributes : List Attribute} (h : ∀ a ∈ attributes, a.Legible) :
    ∃ text, bodyAttributes (writtenAttributes attributes ++ [' ', '/']) = (text, true) ∧
      readAttributes text = attributes := by
  have hbody : bodyAttributes (writtenAttributes attributes ++ [' ', '/']) =
      (Text.trim (writtenAttributes attributes ++ [' ']), true) := by
    have hend : Text.trimEnd (writtenAttributes attributes ++ [' '] ++ ['/']) =
        writtenAttributes attributes ++ [' '] ++ ['/'] := Text.trimEnd_concat (by decide) _
    have hsplit : writtenAttributes attributes ++ [' ', '/'] = writtenAttributes attributes ++ [' '] ++ ['/'] := by simp
    rw [bodyAttributes, hsplit, hend, List.reverse_append]
    simp
  refine ⟨_, hbody, ?_⟩
  cases attributes with
  | nil => decide
  | cons a rest =>
    obtain ⟨ha, -⟩ := List.forall_mem_cons.1 h
    obtain ⟨c, name, hname⟩ := List.exists_cons_of_ne_nil ha.ne_nil
    have hc : Text.isBlank c = false := isBlank_of_isAttributeNameChar (ha.chars c (by simp [hname]))
    obtain ⟨front, hfront⟩ := written_ends a rest
    have hstart : Text.trimStart (' ' :: (a.written ++ writtenAttributes rest ++ [' '])) =
        a.written ++ writtenAttributes rest ++ [' '] := by
      rw [Text.trimStart_cons_blank (by decide), Attribute.written, hname]
      exact Text.trimStart_cons hc _
    have htrim : Text.trim (writtenAttributes (a :: rest) ++ [' ']) = a.written ++ writtenAttributes rest := by
      calc Text.trim (writtenAttributes (a :: rest) ++ [' '])
        _ = Text.trimEnd (Text.trimStart (' ' :: (a.written ++ writtenAttributes rest ++ [' ']))) := rfl
        _ = Text.trimEnd (front ++ ['"'] ++ [' ']) := by rw [hstart, hfront]
        _ = front ++ ['"'] := by rw [Text.trimEnd_concat_blank (by decide), Text.trimEnd_concat (by decide)]
        _ = a.written ++ writtenAttributes rest := hfront.symm
    rw [htrim, readAttributes, ← attributesAfter_space]
    exact attributesAfter_written h

variable {tagPrefix name : List Char} {attributes : List Attribute}

theorem piecesAfter_beyond {skip : Nat} {text : List Char} (h : text.length ≤ skip) :
    piecesAfter tagPrefix skip text = [] := by
  induction text generalizing skip with
  | nil => cases skip <;> rfl
  | cons c text ih =>
    cases skip with
    | zero => simp at h
    | succ skip => exact ih (by simpa using h)

theorem openingTag?_writtenTag (hname : IsComponentName name) (h : ∀ a ∈ attributes, a.Legible) {text : List Char}
    (hbody : bodyAttributes (writtenAttributes attributes ++ [' ', '/']) = (text, true)) :
    openingTag? ('<' :: tagPrefix) (name ++ (writtenAttributes attributes ++ [' ', '/', '>'])) =
      some ⟨writtenTag tagPrefix name attributes, .selfClosing name text⟩ := by
  obtain ⟨tail, htail⟩ : ∃ tail, writtenAttributes attributes ++ [' ', '/', '>'] = ' ' :: tail := by
    cases attributes with
    | nil => exact ⟨['/', '>'], rfl⟩
    | cons a rest => exact ⟨_, rfl⟩
  have hstop : ∀ c ∈ (writtenAttributes attributes ++ [' ', '/', '>']).head?, isNameChar c = false := by
    rw [htail]
    exact Text.stops_cons (by decide) tail
  obtain ⟨htake, hdrop⟩ := Text.takeWhile_front hname.chars hstop
  have hempty : name.isEmpty = false := by simpa using hname.ne_nil
  simp [openingTag?, htake, hdrop, hempty, tagBody?_attributes h, hbody, hname.ne_slot, writtenTag]

/-- the marks of a closing tag do not stand at the start of an opening one -/
theorem afterMark?_closing (hslash : tagPrefix.head? ≠ some '/') (hname : IsComponentName name) (rest : List Char) :
    Text.afterMark? ('<' :: '/' :: tagPrefix) ('<' :: tagPrefix ++ (name ++ rest)) = none := by
  cases tagPrefix with
  | nil =>
    obtain ⟨c, name, rfl⟩ := List.exists_cons_of_ne_nil hname.ne_nil
    have hc : '/' ≠ c := by
      rintro rfl
      exact absurd (hname.chars '/' (by simp)) (by decide)
    simp [Text.afterMark?, hc]
  | cons c tagPrefix =>
    have hc : '/' ≠ c := by
      rintro rfl
      exact hslash rfl
    simp [Text.afterMark?, hc]

/-- **The tag is one piece**, whose attribute text is read back as the attributes. -/
theorem pieces_writtenTag (hslash : tagPrefix.head? ≠ some '/') (hname : IsComponentName name)
    (h : ∀ a ∈ attributes, a.Legible) :
    ∃ text, pieces tagPrefix (writtenTag tagPrefix name attributes) =
        [⟨writtenTag tagPrefix name attributes, .selfClosing name text⟩] ∧ readAttributes text = attributes := by
  obtain ⟨text, hbody, hread⟩ := bodyAttributes_written h
  refine ⟨text, ?_, hread⟩
  have hverbatim : Text.afterMark? verbatimStart (writtenTag tagPrefix name attributes) = none := by
    have hhead : verbatimStart.head? = some '\x7b' := by decide
    cases hmark : verbatimStart with
    | nil => exact absurd hmark verbatimStart_ne_nil
    | cons c tail =>
      rw [hmark, List.head?_cons, Option.some.injEq] at hhead
      subst hhead
      rfl
  have hclosing : Text.afterMark? ('<' :: '/' :: tagPrefix) (writtenTag tagPrefix name attributes) = none :=
    afterMark?_closing hslash hname _
  have hopening : Text.afterMark? ('<' :: tagPrefix) (writtenTag tagPrefix name attributes) =
      some (name ++ (writtenAttributes attributes ++ [' ', '/', '>'])) :=
    Text.afterMark?_eq_some.2 (by rw [writtenTag])
  have hpiece : pieceAt? tagPrefix (writtenTag tagPrefix name attributes) =
      some ⟨writtenTag tagPrefix name attributes, .selfClosing name text⟩ := by
    simp only [pieceAt?, hverbatim, hclosing, hopening, openingTag?_writtenTag hname h hbody]
  obtain ⟨rest, hrest⟩ : ∃ rest, writtenTag tagPrefix name attributes = '<' :: rest := ⟨_, rfl⟩
  rw [hrest] at hpiece ⊢
  rw [pieces, piecesAfter, hpiece]
  dsimp only
  rw [piecesAfter_beyond (by simp)]

/-- an argument starts with a space -/
theorem argument_space (a : Attribute) : ∃ tail, argument a = ' ' :: tail := by
  unfold argument
  split <;> exact ⟨_, rfl⟩

/-- what a tag with attributes is written as, when none of them binds slot data -/
theorem componentStart_written {text : List Char} (hread : readAttributes text = attributes)
    (h : ∀ a ∈ attributes, a.name ≠ slotDataName) :
    componentStart name text = "\x7b% component ".toList ++ quoted name ++
      (if attributes.isEmpty then [] else " withAttrs".toList ++ attributes.flatMap argument) ++ " %\x7d".toList := by
  have hbinding : attributes.filter (fun a => a.name = slotDataName) = [] :=
    List.filter_eq_nil_iff.2 fun a ha => by simpa using h a ha
  have hall : attributes.filter (fun a => a.name ≠ slotDataName) = attributes :=
    List.filter_eq_self.2 fun a ha => by simpa using h a ha
  have hempty : (attributes.flatMap argument).isEmpty = attributes.isEmpty := by
    cases attributes with
    | nil => rfl
    | cons a rest =>
      obtain ⟨tail, htail⟩ := argument_space a
      simp [htail]
  unfold componentStart
  rw [hread]
  dsimp only
  rw [hbinding, hall, hempty, List.getLast?_nil]
  simp only [List.append_nil]

/-- **What the tag is expanded to**, with attributes of any kind but slot data. -/
theorem expand_legible (hslash : tagPrefix.head? ≠ some '/') (hname : IsComponentName name)
    (h : ∀ a ∈ attributes, a.Legible) (hslot : ∀ a ∈ attributes, a.name ≠ slotDataName) :
    (expand (String.ofList tagPrefix) (String.ofList (writtenTag tagPrefix name attributes))).code.toList =
      "\x7b% component ".toList ++ quoted name ++
        (if attributes.isEmpty then [] else " withAttrs".toList ++ attributes.flatMap argument) ++
        " %\x7d".toList ++ componentEnd := by
  obtain ⟨text, hpieces, hread⟩ := pieces_writtenTag hslash hname h
  simp only [expand, String.toList_ofList, hpieces, List.flatMap_cons, List.flatMap_nil, Piece.expand,
    componentStart_written hread hslot, List.append_nil]

theorem argument_static {a : Attribute} (ha : a.Static) :
    argument a = ' ' :: quoted a.name ++ '=' :: quoted a.value := by
  unfold argument
  split
  · next key hkey => exact absurd (by simp [hkey]) ha.not_dynamic
  · rfl

/-- the arguments of a static tag, each behind a space -/
def staticArguments (attributes : List Attribute) : List Char :=
  attributes.flatMap fun a => ' ' :: quoted a.name ++ '=' :: quoted a.value

/-- **What the tag is expanded to.** -/
theorem expand_writtenTag (hslash : tagPrefix.head? ≠ some '/') (hname : IsComponentName name)
    (h : ∀ a ∈ attributes, a.Static) :
    (expand (String.ofList tagPrefix) (String.ofList (writtenTag tagPrefix name attributes))).code.toList =
      "\x7b% component ".toList ++ quoted name ++
        (if attributes.isEmpty then [] else " withAttrs".toList ++ staticArguments attributes) ++ " %\x7d".toList ++
        componentEnd := by
  have harguments : attributes.flatMap argument = staticArguments attributes :=
    List.flatMap_congr fun a ha => argument_static (h a ha)
  rw [expand_legible hslash hname (fun a ha => (h a ha).legible) (fun a ha => (h a ha).ne_slotData), harguments]

end Markup

end Templating
