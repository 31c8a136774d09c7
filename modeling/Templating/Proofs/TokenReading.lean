/-
What a token means.

A tag ends or continues the innermost block, or the table of tags says what it does; only a component tag waits for
something else. Without tags of the host, what a token means depends neither on how deep the template is nor on the
limit.

- `readTag_cases`: everything that one more tag can be.
- `read_component`: a token that waits for a template names a registered component.
- `read_depth`: the depth and the limit do not matter.
-/
import Templating.Proofs.Outcome
import Templating.Proofs.WordReaders

namespace Templating

/-! ## Tags of the host -/

/-- no tag of the table is one of the host -/
def TemplateSet.NoHostTags (s : TemplateSet) : Prop :=
  ∀ name tag, s.tags.get? name ≠ some (.custom tag)

theorem noHostTags_of_builtin {s : TemplateSet} (h : s.tags = Template.builtinTags) : s.NoHostTags := by
  intro name tag
  rw [h]
  simp only [Template.builtinTags, Dict.ofList, List.foldl_cons, List.foldl_nil, Dict.get?_insert, Dict.get?_empty]
  split_ifs <;> simp

/-! ## Readers of arguments -/

namespace Arguments

variable {α : Type} {a behind : Arguments} {reader : Expr.Reader α} {result : α}

/-- the arguments with the cursor further on -/
def move (a : Arguments) (steps : Nat) : Arguments :=
  { a with pos := a.pos + steps }

theorem words_move (a : Arguments) (steps : Nat) : (a.move steps).words = a.words.drop steps :=
  Expr.Cursor.words_move a.toCursor steps

/-- a reader answers what it answers in front of the words that are left, and takes the cursor on -/
theorem read_eq (a : Arguments) (reader : Expr.Reader α) :
    a.read reader = ((reader.read a.words).1.mapError (.malformed a.site), a.move (reader.steps a.words)) := by
  unfold read
  rw [Expr.Reader.run_eq]
  cases (reader.read a.words).1 <;> rfl

/-- what a reader answers at the cursor, it answers in front of the words that are left, and leaves the same words -/
theorem read_words (h : a.read reader = (.ok result, behind)) : reader.read a.words = (.ok result, behind.words) := by
  rw [read_eq] at h
  rcases hread : reader.read a.words with ⟨fault | result', words⟩
  · rw [hread] at h
    cases h
  · rw [hread] at h
    cases h
    rw [words_move, ← Expr.Reader.left_of_read hread]

/-- what a reader answers in front of the words that are left, it answers at the cursor -/
theorem read_of_words {words : List Expr.Token} (h : reader.read a.words = (.ok result, words)) :
    ∃ behind, a.read reader = (.ok result, behind) ∧ behind.words = words := by
  refine ⟨a.move (reader.steps a.words), ?_, ?_⟩
  · rw [read_eq, h]
    rfl
  · rw [words_move, ← Expr.Reader.left_of_read h]

theorem readAll_eq_ok : a.readAll reader = .ok result ↔ ∃ words, reader.read a.words = (.ok result, words) := by
  rw [readAll, read_eq]
  rcases reader.read a.words with ⟨fault | result', words⟩ <;> simp [Except.mapError]

end Arguments

namespace Template

theorem openTag_depth {c d : Context} (hr : c.registry = d.registry) (b : Blocks) {tag : Tag}
    (htag : ∀ host, tag ≠ .custom host) (position : Position) (arguments : Arguments) :
    c.openTag b tag position arguments = d.openTag b tag position arguments := by
  cases tag with
  | custom host => exact absurd rfl (htag host)
  | component => simp only [Context.openTag, Context.componentTag, hr]
  | _ => rfl

theorem startTag_depth {c d : Context} (hr : c.registry = d.registry) (htags : c.tags = d.tags)
    (hhost : ∀ name tag, c.tags.get? name ≠ some (.custom tag)) (b : Blocks) (name : String) (position : Position)
    (arguments : Arguments) : c.startTag b name position arguments = d.startTag b name position arguments := by
  unfold Context.startTag
  rw [← htags]
  cases hget : c.tags.get? name with
  | none => rfl
  | some tag => exact openTag_depth hr b (fun host h => hhost name host (by rw [hget, h])) position arguments

/-- **What a token means** does not depend on how deep the template is, unless a tag of the host is in the table. -/
theorem read_depth {c d : Context} (ht : c.template = d.template) (hr : c.registry = d.registry)
    (htags : c.tags = d.tags) (hhost : ∀ name tag, c.tags.get? name ≠ some (.custom tag)) (b : Blocks)
    (token : Token) : c.read b token = d.read b token := by
  cases token with
  | text s => rfl
  | output expr position => simp only [Context.read, ht]
  | tag name args position =>
    simp only [Context.read, Context.readTag, ht, startTag_depth hr htags hhost]

/-- everything that one more tag can be: the innermost block ends or goes on at it, or the table of tags knows it -/
theorem readTag_cases {c : Context} {b : Blocks} {name : String} {position : Position} {arguments : Arguments}
    {reading : Reading} (h : c.readTag b name position arguments = .ok reading) :
    (∃ frame outer b', b.frames = frame :: outer ∧ name ∈ frame.block.ends ∧
        b.close frame outer name arguments = .ok b' ∧ reading = .ready b') ∨
      ∃ tag, c.tags.get? name = some tag ∧ c.openTag b tag position arguments = .ok reading := by
  have hstart : c.startTag b name position arguments = .ok reading →
      ∃ tag, c.tags.get? name = some tag ∧ c.openTag b tag position arguments = .ok reading := by
    intro hstart
    unfold Context.startTag at hstart
    cases hget : c.tags.get? name with
    | none => simp [hget] at hstart
    | some tag => exact ⟨tag, rfl, by simpa [hget] using hstart⟩
  unfold Context.readTag at h
  cases hframes : b.frames with
  | nil => exact Or.inr (hstart (by simpa [hframes] using h))
  | cons frame outer =>
    rw [hframes] at h
    dsimp only at h
    split_ifs at h with hends
    · obtain ⟨b', hclose, rfl⟩ := map_eq_ok.1 h
      exact Or.inl ⟨frame, outer, b', rfl, hends, hclose, rfl⟩
    · exact Or.inr (hstart h)

/-- no other tag waits for the template of a component -/
theorem openTag_component {c : Context} {b : Blocks} {opening : Tag} {position : Position} {arguments : Arguments}
    {tag : ComponentTag} (h : c.openTag b opening position arguments = .ok (.component tag)) :
    opening = .component ∧ c.componentTag position arguments = .ok tag := by
  cases opening with
  | component =>
    obtain ⟨_, htag, h⟩ := map_eq_ok.1 h
    cases h
    exact ⟨rfl, htag⟩
  | custom host =>
    obtain ⟨_, -, h⟩ := map_eq_ok.1 h
    cases h
  | fragment =>
    obtain ⟨name, -, h⟩ := bind_eq_ok.1 h
    cases name <;> cases h
  | conditional | loop | assign | props | outlet =>
    obtain ⟨x, -, h⟩ := bind_eq_ok.1 h
    cases h

theorem acceptString_read (words : List Expr.Token) :
    Expr.acceptString.read words =
      match words with
      | .str s :: rest => (.ok (some s), rest)
      | _ => (.ok none, words) := by
  rcases words with _ | ⟨word, rest⟩
  · rfl
  · cases word <;> rfl

theorem acceptString_some {words rest : List Expr.Token} {s : String}
    (h : Expr.acceptString.read words = (.ok (some s), rest)) : words = .str s :: rest := by
  rw [acceptString_read] at h
  rcases words with _ | ⟨word, words⟩
  · cases h
  · cases word <;> cases h
    rfl

/-- a component tag starts with the quoted name of a component -/
theorem componentTag_eq_ok {c : Context} {position : Position} {arguments : Arguments} {tag : ComponentTag}
    (h : c.componentTag position arguments = .ok tag) :
    arguments.words = .str tag.name :: tag.arguments.words ∧ tag.position = position ∧
      c.registry.get? tag.name = some tag.component := by
  rcases hread : arguments.read Expr.acceptString with ⟨named, behind⟩
  rw [Context.componentTag, hread] at h
  obtain ⟨name?, rfl, htag⟩ := bind_eq_ok.1 h
  have hstring := Arguments.read_words hread
  cases name? with
  | none => cases htag
  | some name =>
    dsimp only at htag
    cases hget : c.registry.get? name with
    | none => simp [hget] at htag
    | some component =>
      simp only [hget, pure, Except.pure, Except.ok.injEq] at htag
      subst htag
      exact ⟨acceptString_some hstring, rfl, hget⟩

theorem ofText_words {site : Site} {text : String} {arguments : Arguments}
    (h : Arguments.ofText site text = .ok arguments) : Expr.tokens text.toList = .ok arguments.words := by
  unfold Arguments.ofText at h
  cases hwords : Expr.tokens text.toList with
  | error fault => rw [hwords] at h; cases h
  | ok words => rw [hwords] at h; cases h; rfl

/-- a token that waits for the template of a component is a tag that starts with the component's registered name -/
theorem read_component {c : Context} {b : Blocks} {token : Token} {tag : ComponentTag}
    (h : c.read b token = .ok (.component tag)) :
    ∃ name args, token = .tag name args tag.position ∧ c.tags.get? name = some .component ∧
      Expr.tokens args.toList = .ok (.str tag.name :: tag.arguments.words) ∧
      c.registry.get? tag.name = some tag.component := by
  cases token with
  | text text => cases h
  | output expr position =>
    obtain ⟨arguments, -, h⟩ := bind_eq_ok.1 h
    obtain ⟨e, -, h⟩ := bind_eq_ok.1 h
    cases h
  | tag name args position =>
    obtain ⟨arguments, harguments, h⟩ := bind_eq_ok.1 h
    have hwords := ofText_words harguments
    rcases readTag_cases h with ⟨frame, outer, b', -, -, -, hb'⟩ | ⟨opening, hget, h⟩
    · cases hb'
    · obtain ⟨rfl, htag⟩ := openTag_component h
      obtain ⟨hnamed, rfl, hregistry⟩ := componentTag_eq_ok htag
      rw [hnamed] at hwords
      exact ⟨name, args, rfl, hget, hwords, hregistry⟩

end Template

end Templating
