/-
Which tokens are a template.

`Context.terminal` makes a terminal of a token by itself: its arguments are read, and a component tag gets the template
of its component, whose compilation may add to the cache. When every token gives a terminal, only the order of the
blocks decides whether the tokens are a template.

- `step_outcome_iff`: one token does what its terminal does, with the same cache behind it.
- `fold_outcome_iff`: so do several, by induction.
- `document_iff_derives`: tokens compile exactly when their terminals derive from the grammar, and to these nodes.
-/
import Templating.Proofs.TokenTerminals

namespace Templating

namespace Compile

variable {α β : Type} {cache cache' : Dict Template}

/-- a chain of two compilations succeeds when both do -/
theorem outcome_bind_eq_ok {x : Compile α} {f : α → Compile β} {b : β} :
    (x >>= f).outcome cache = (.ok b, cache') ↔
      ∃ a between, x.outcome cache = (.ok a, between) ∧ (f a).outcome between = (.ok b, cache') := by
  rcases hout : x.outcome cache with ⟨e | a, between⟩
  · simp [outcome_bind_error hout]
  · simp [outcome_bind_ok hout]

theorem outcome_ofExcept_eq_ok {e : Except TemplateError α} {a : α} :
    (ofExcept e).outcome cache = (.ok a, cache') ↔ e = .ok a ∧ cache = cache' := by
  simp

theorem outcome_pure_eq_ok {a a' : α} :
    (pure a : Compile α).outcome cache = (.ok a', cache') ↔ a = a' ∧ cache = cache' := by
  simp

theorem exists_outcome_of_isOk {x : Compile α} (h : (x.outcome cache).1.isOk = true) :
    ∃ a cache', x.outcome cache = (.ok a, cache') := by
  rcases hout : x.outcome cache with ⟨e | a, cache'⟩
  · rw [hout] at h
    cases h
  · exact ⟨a, cache', rfl⟩

end Compile

open Compile

namespace Template

/-! ## Terminals of tokens -/

/-- the template of the component that a tag names; there must be one, and it must not be too deep -/
def Context.templateOf (c : Context) (tag : ComponentTag) : Compile Template :=
  match c.componentTemplate with
  | none => throw (.malformed tag.arguments.site (.tooDeep tag.name c.limit))
  | some compile => do
    match ← compile tag.component with
    | none => throw (.malformed tag.arguments.site (.noTemplate tag.name))
    | some t => return t

/-- the terminal that a token is by itself -/
def Context.terminal (c : Context) (token : Token) : Compile Terminal := do
  match ← Compile.ofExcept (c.word token) with
  | .ready x => return x
  | .component tag =>
    let t ← c.templateOf tag
    Compile.ofExcept (tag.terminal t)

variable {c : Context} {b b' : Blocks} {cache cache' cache'' : Dict Template}

theorem openComponent_eq (c : Context) (b : Blocks) (tag : ComponentTag) :
    c.openComponent b tag = (do
      let t ← c.templateOf tag
      let block ← Compile.ofExcept (tag.block t)
      return b.opened block) := by
  unfold Context.openComponent Context.templateOf
  cases c.componentTemplate with
  | none => rfl
  | some compile =>
    simp only [bind_assoc]
    refine congrArg _ (funext fun found => ?_)
    cases found with
    | none => rfl
    | some t => simp

/-- a component tag whose terminal is there -/
theorem openComponent_outcome_iff {tag : ComponentTag} {x : Terminal}
    (h : (c.templateOf tag >>= fun t => Compile.ofExcept (tag.terminal t)).outcome cache = (.ok x, cache')) :
    (c.openComponent b tag).outcome cache = (.ok b', cache'') ↔ Takes b x b' ∧ cache' = cache'' := by
  obtain ⟨t, between, ht, hlast⟩ := outcome_bind_eq_ok.1 h
  obtain ⟨hx, rfl⟩ := outcome_ofExcept_eq_ok.1 hlast
  have hopen : (c.openComponent b tag).outcome cache = (.ok b', cache'') ↔
      (∃ block, tag.block t = .ok block ∧ b' = b.opened block) ∧ between = cache'' := by
    rw [openComponent_eq, outcome_bind_ok ht, outcome_bind_eq_ok]
    constructor
    · rintro ⟨block, cache₁, hblock, hopened⟩
      obtain ⟨hfound, rfl⟩ := outcome_ofExcept_eq_ok.1 hblock
      obtain ⟨rfl, rfl⟩ := outcome_pure_eq_ok.1 hopened
      exact ⟨⟨block, hfound, rfl⟩, rfl⟩
    · rintro ⟨⟨block, hblock, rfl⟩, rfl⟩
      exact ⟨block, between, outcome_ofExcept_eq_ok.2 ⟨hblock, rfl⟩, rfl⟩
  rw [hopen, block_iff, hx]
  simp

/-- **One token** does what its terminal does. -/
theorem step_outcome_iff (htags : c.tags = builtinTags) (hb : b.BuiltIn) {token : Token} {x : Terminal}
    (h : (c.terminal token).outcome cache = (.ok x, cache')) :
    (c.step b token).outcome cache = (.ok b', cache'') ↔ Takes b x b' ∧ cache' = cache'' := by
  obtain ⟨word, between, hfirst, hx⟩ := outcome_bind_eq_ok.1 h
  obtain ⟨hword, rfl⟩ := outcome_ofExcept_eq_ok.1 hfirst
  unfold Context.step
  cases word with
  | ready x' =>
    obtain ⟨rfl, rfl⟩ := outcome_pure_eq_ok.1 hx
    rw [outcome_bind_eq_ok]
    constructor
    · rintro ⟨reading, cache₁, hread, hrest⟩
      obtain ⟨hmeans, rfl⟩ := outcome_ofExcept_eq_ok.1 hread
      cases reading with
      | ready b₁ =>
        obtain ⟨x, hx, htakes⟩ := (read_ready_iff htags hb).1 hmeans
        obtain ⟨rfl, rfl⟩ := outcome_pure_eq_ok.1 hrest
        cases hword.symm.trans hx
        exact ⟨htakes, rfl⟩
      | component tag => cases hword.symm.trans ((read_component_iff htags hb).1 hmeans)
    · rintro ⟨htakes, rfl⟩
      have hread := (read_ready_iff htags hb).2 ⟨x', hword, htakes⟩
      exact ⟨_, cache, outcome_ofExcept_eq_ok.2 ⟨hread, rfl⟩, rfl⟩
  | component tag =>
    rw [outcome_bind_ok (outcome_ofExcept_eq_ok.2 ⟨(read_component_iff htags hb).2 hword, rfl⟩)]
    exact openComponent_outcome_iff hx

/-- **Several tokens** do what their terminals do. -/
theorem fold_outcome_iff (htags : c.tags = builtinTags) {tokens : List Token} {terminals : List Terminal}
    (hb : b.BuiltIn) (h : (tokens.mapM c.terminal).outcome cache = (.ok terminals, cache')) :
    (tokens.foldlM c.step b).outcome cache = (.ok b', cache'') ↔ Runs b terminals b' ∧ cache' = cache'' := by
  induction tokens generalizing b cache terminals with
  | nil =>
    rw [List.mapM_nil] at h
    obtain ⟨rfl, rfl⟩ := outcome_pure_eq_ok.1 h
    rw [List.foldlM_nil, outcome_pure_eq_ok]
    refine and_congr_left fun _ => ⟨fun h => h ▸ .nil, fun h => ?_⟩
    cases h
    rfl
  | cons token tokens ih =>
    rw [List.mapM_cons] at h
    obtain ⟨x, between, hx, h⟩ := outcome_bind_eq_ok.1 h
    obtain ⟨rest, last, hrest, h⟩ := outcome_bind_eq_ok.1 h
    obtain ⟨rfl, rfl⟩ := outcome_pure_eq_ok.1 h
    rw [List.foldlM_cons, outcome_bind_eq_ok]
    constructor
    · rintro ⟨b₁, between', hstep, hfold⟩
      obtain ⟨htakes, rfl⟩ := (step_outcome_iff htags hb hx).1 hstep
      obtain ⟨hruns, rfl⟩ := (ih (htakes.builtIn hb) hrest).1 hfold
      exact ⟨.cons htakes hruns, rfl⟩
    · rintro ⟨hruns, rfl⟩
      cases hruns with
      | cons htakes hruns =>
        exact ⟨_, between, (step_outcome_iff htags hb hx).2 ⟨htakes, rfl⟩,
          (ih (htakes.builtIn hb) hrest).2 ⟨hruns, rfl⟩⟩

/-- **Block structure is accepted exactly.** When every token, by itself, is a terminal over the built-in tags, the
tokens compile if and only if these terminals derive from the grammar of blocks, and the nodes are the derivation. -/
theorem document_iff_derives (c : Context) (htags : c.tags = builtinTags) (tokens : List Token) (position : Position)
    (terminals : List Terminal) (cache cache' : Dict Template)
    (h : (tokens.mapM c.terminal).outcome cache = (.ok terminals, cache')) (nodes : List Node) :
    (∃ b cache'', (c.document tokens position).outcome cache = (.ok b, cache'') ∧ b.nodes = nodes) ↔
      Derives terminals (.body false nodes) := by
  rw [derives_iff_runs]
  unfold Context.document
  constructor
  · rintro ⟨b, cache'', hdocument, rfl⟩
    obtain ⟨b₁, between, hfold, hfinish⟩ := outcome_bind_eq_ok.1 hdocument
    obtain ⟨hframes, rfl⟩ := finish_eq_ok.1 (outcome_ofExcept_eq_ok.1 hfinish).1
    exact ⟨b₁, ((fold_outcome_iff htags start_builtIn h).1 hfold).1, hframes, rfl⟩
  · rintro ⟨b, hruns, hframes, rfl⟩
    refine ⟨b, cache', outcome_bind_eq_ok.2 ⟨b, cache', ?_, ?_⟩, rfl⟩
    · exact (fold_outcome_iff htags start_builtIn h).2 ⟨hruns, rfl⟩
    · exact outcome_ofExcept_eq_ok.2 ⟨finish_eq_ok.2 ⟨hframes, rfl⟩, rfl⟩

/-- a set with a card that shows its head and its slot, without component markup -/
def cardSet : TemplateSet :=
  (TemplateSet.new (.memory .empty) { Options.standard with tagPrefix := none }).register
    ⟨"card", .inline "\x7b\x7b head \x7d\x7d\x7b\x7b slot \x7d\x7d", [], none⟩

/-- what a page of the set is compiled against, when its components use no others -/
def cardContext : Context :=
  cardSet.context "page.html" 0 (some (cardSet.compileComponent (cardSet.compileWithin 0)))

/-- blocks in blocks: a loop in an arm, and an outlet in a named slot of a card -/
def nestedTokens : List Token :=
  [.tag "if" "a" .start, .text "1", .tag "elif" "b" .start, .tag "for" "x in xs" .start, .tag "empty" "" .start,
    .tag "endfor" "" .start, .tag "else" "" .start, .tag "component" "\"card\"" .start,
    .tag "slot" "\"head\"" .start, .tag "slot" "" .start, .tag "endslot" "" .start, .tag "endslot" "" .start,
    .tag "endcomponent" "" .start, .tag "endif" "" .start]

/-- a conditional that ends in the loop that it started -/
def crossedTokens : List Token :=
  [.tag "if" "a" .start, .tag "for" "x in xs" .start, .tag "endif" "" .start, .tag "endfor" "" .start]

theorem document_iff_derives_nested :
    (∃ terminals cache nodes, (nestedTokens.mapM cardContext.terminal).outcome .empty = (.ok terminals, cache) ∧
      Derives terminals (.body false nodes)) ∧
    ∃ terminals cache, (crossedTokens.mapM cardContext.terminal).outcome .empty = (.ok terminals, cache) ∧
      ∀ nodes, ¬Derives terminals (.body false nodes) := by
  have htags : cardContext.tags = builtinTags := rfl
  constructor
  · have hread : ((nestedTokens.mapM cardContext.terminal).outcome .empty).1.isOk = true := by decide +kernel
    have hcompiled : ((cardContext.document nestedTokens .start).outcome .empty).1.isOk = true := by decide +kernel
    obtain ⟨terminals, cache, hterminals⟩ := exists_outcome_of_isOk hread
    obtain ⟨b, cache', hdocument⟩ := exists_outcome_of_isOk hcompiled
    refine ⟨terminals, cache, b.nodes, hterminals, ?_⟩
    exact (document_iff_derives _ htags _ .start _ _ _ hterminals _).1 ⟨b, cache', hdocument, rfl⟩
  · have hread : ((crossedTokens.mapM cardContext.terminal).outcome .empty).1.isOk = true := by decide +kernel
    have hrefused : ((cardContext.document crossedTokens .start).outcome .empty).1.isOk = false := by decide +kernel
    obtain ⟨terminals, cache, hterminals⟩ := exists_outcome_of_isOk hread
    refine ⟨terminals, cache, hterminals, fun nodes hderives => ?_⟩
    obtain ⟨b, cache', hok, -⟩ := (document_iff_derives _ htags _ .start _ _ _ hterminals nodes).2 hderives
    rw [hok] at hrefused
    cases hrefused

end Template

end Templating
