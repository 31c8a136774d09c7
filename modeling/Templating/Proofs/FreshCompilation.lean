/-
Compilation without a cache.

`TemplateSet.fresh` compiles a source by itself: the template of every component that the source uses is compiled on
the spot, up to a number of levels. It is what the cache is measured against.

- `stepFresh_eq_ok`: everything that one token can do.
- `fresh_mono`: more levels keep a result, so the levels only decide whether there is one (`fresh_unique`).
-/
import Templating.Proofs.TokenReading

namespace Templating

namespace Template

/-! ## Documents -/

/-- the template behind one more token, where `compile` gives the template of a component -/
def Context.stepFresh (c : Context) (compile : Component → Except TemplateError (Option Template)) (b : Blocks)
    (token : Token) : Except TemplateError Blocks := do
  match ← c.read b token with
  | .ready b => return b
  | .component tag =>
    match ← compile tag.component with
    | none => .error (.malformed tag.arguments.site (.noTemplate tag.name))
    | some template =>
      let block ← tag.block template
      return b.opened block

/-- the nodes, props and fragments of tokens, where `compile` gives the templates of components -/
def Context.documentFresh (c : Context) (compile : Component → Except TemplateError (Option Template))
    (all : List Token) (position : Position) : Except TemplateError Blocks := do
  let b ← all.foldlM (c.stepFresh compile) .start
  c.finish b position

/-- **Everything a token can do**: it is read at once, or it opens a component whose template is there. -/
theorem Context.stepFresh_eq_ok {c : Context} {compile : Component → Except TemplateError (Option Template)}
    {b b' : Blocks} {token : Token} :
    c.stepFresh compile b token = .ok b' ↔
      c.read b token = .ok (.ready b') ∨
        ∃ tag template block, c.read b token = .ok (.component tag) ∧
          compile tag.component = .ok (some template) ∧ tag.block template = .ok block ∧ b' = b.opened block := by
  unfold Context.stepFresh
  cases hread : c.read b token with
  | error e => simp [bind, Except.bind]
  | ok reading =>
    cases reading with
    | ready b₁ => simp [bind, Except.bind, pure, Except.pure]
    | component tag =>
      cases hcompile : compile tag.component with
      | error e => simp [bind, Except.bind, hcompile]
      | ok found =>
        cases found with
        | none => simp [bind, Except.bind, hcompile]
        | some template =>
          cases hblock : tag.block template with
          | error e => simp [bind, Except.bind, hcompile, hblock]
          | ok block => simp [bind, Except.bind, pure, Except.pure, hcompile, hblock, eq_comm]

theorem Context.stepFresh_mono {c : Context} {f g : Component → Except TemplateError (Option Template)}
    (h : ∀ k r, f k = .ok r → g k = .ok r) (b : Blocks) (token : Token) (b' : Blocks)
    (hb : c.stepFresh f b token = .ok b') : c.stepFresh g b token = .ok b' := by
  rcases stepFresh_eq_ok.1 hb with hready | ⟨tag, template, block, hread, hcompile, hblock, rfl⟩
  · exact stepFresh_eq_ok.2 (Or.inl hready)
  · exact stepFresh_eq_ok.2 (Or.inr ⟨tag, template, block, hread, h _ _ hcompile, hblock, rfl⟩)

end Template

namespace TemplateSet

/-- what tokens are read against; the levels of component templates are counted elsewhere -/
def reading (s : TemplateSet) (name : String) : Template.Context :=
  { template := name, depth := 0, limit := 0, tags := s.tags, registry := s.registry, componentTemplate := none }

/-- without tags of the host, tokens mean the same at every level -/
theorem context_read {s : TemplateSet} (hhost : s.NoHostTags) (name : String) (depth : Nat)
    (componentTemplate : Option (Component → Compile (Option Template))) (b : Template.Blocks)
    (token : Template.Token) :
    (s.context name depth componentTemplate).read b token = (s.reading name).read b token :=
  Template.read_depth (c := s.context name depth componentTemplate) (d := s.reading name) rfl rfl rfl hhost b token

/-- a source as a template of the given name, where `compile` gives the templates of components -/
def freshSource (s : TemplateSet) (name : String) (compile : Component → Except TemplateError (Option Template))
    (source : String) : Except TemplateError Template := do
  let source := s.preprocess source
  match Template.tokens source with
  | .error (position, fault) => .error (.malformed ⟨name, position⟩ fault)
  | .ok tokens =>
    let b ← (s.reading name).documentFresh compile tokens (Template.endOf source)
    return s.assemble name source b

/-- the template of a component, when it has one, where `compile` compiles the source of a name -/
def freshComponent (s : TemplateSet) (compile : (name source : String) → Except TemplateError Template)
    (c : Component) : Except TemplateError (Option Template) :=
  match c.source with
  | .file path =>
    if path = "" then .ok none
    else do
      let source ← s.loadSource (s.resolveName path)
      let template ← compile (s.resolveName path) source
      return some template
  | .inline source => if source = "" then .ok none else (compile (inlineTemplateName c.name) source).map some

/-- a source as a template of the given name, compiled without a cache, with so many levels of component templates -/
def fresh (s : TemplateSet) : (levels : Nat) → (name source : String) → Except TemplateError Template
  | 0, name, source =>
    s.freshSource name (fun c => .error (.malformed ⟨name, .start⟩ (.tooDeep c.name 0))) source
  | levels + 1, name, source => s.freshSource name (s.freshComponent (s.fresh levels)) source

/-- the component templates that `fresh` sees with so many levels -/
def below (s : TemplateSet) (name : String) : (levels : Nat) → Component → Except TemplateError (Option Template)
  | 0, c => .error (.malformed ⟨name, .start⟩ (.tooDeep c.name 0))
  | levels + 1, c => s.freshComponent (s.fresh levels) c

theorem fresh_eq (s : TemplateSet) (levels : Nat) (name source : String) :
    s.fresh levels name source = s.freshSource name (s.below name levels) source := by
  cases levels <;> rfl

/-- a source that compiles freshly: its tokens, and the blocks that they build -/
theorem freshSource_eq_ok {s : TemplateSet} {name source : String}
    {compile : Component → Except TemplateError (Option Template)} {t : Template} :
    s.freshSource name compile source = .ok t ↔
      ∃ tokens b b', Template.tokens (s.preprocess source) = .ok tokens ∧
        tokens.foldlM ((s.reading name).stepFresh compile) .start = .ok b ∧
        (s.reading name).finish b (Template.endOf (s.preprocess source)) = .ok b' ∧
        t = s.assemble name (s.preprocess source) b' := by
  unfold freshSource Template.Context.documentFresh
  dsimp only
  cases htokens : Template.tokens (s.preprocess source) with
  | error fault => simp
  | ok tokens => simp [bind_eq_ok, pure, Except.pure, eq_comm (a := t)]

theorem freshSource_mono {s : TemplateSet} {name source : String}
    {f g : Component → Except TemplateError (Option Template)} (h : ∀ k r, f k = .ok r → g k = .ok r) {t : Template}
    (ht : s.freshSource name f source = .ok t) : s.freshSource name g source = .ok t := by
  obtain ⟨tokens, b, b', htokens, hb, hb', rfl⟩ := freshSource_eq_ok.1 ht
  exact freshSource_eq_ok.2
    ⟨tokens, b, b', htokens, foldlM_mono (Template.Context.stepFresh_mono h) hb, hb', rfl⟩

/-- the template of a component that has one -/
theorem freshComponent_eq_ok {s : TemplateSet} {compile : (name source : String) → Except TemplateError Template}
    {c : Component} {t : Template} :
    s.freshComponent compile c = .ok (some t) ↔
      (∃ path source, c.source = .file path ∧ path ≠ "" ∧ s.loadSource (s.resolveName path) = .ok source ∧
        compile (s.resolveName path) source = .ok t) ∨
      ∃ source, c.source = .inline source ∧ source ≠ "" ∧ compile (inlineTemplateName c.name) source = .ok t := by
  unfold freshComponent
  cases hsource : c.source with
  | file path =>
    by_cases hpath : path = ""
    · simp [hpath]
    · simp [hpath, bind_eq_ok, pure, Except.pure]
  | inline source =>
    by_cases hempty : source = ""
    · simp [hempty]
    · simp [hempty, map_eq_ok]

theorem freshComponent_mono {s : TemplateSet} {f g : (name source : String) → Except TemplateError Template}
    (h : ∀ name source t, f name source = .ok t → g name source = .ok t) (c : Component) (r : Option Template)
    (hr : s.freshComponent f c = .ok r) : s.freshComponent g c = .ok r := by
  cases r with
  | none =>
    unfold freshComponent at hr ⊢
    cases hsource : c.source with
    | file path =>
      rw [hsource] at hr
      by_cases hpath : path = ""
      · simp [hpath]
      · simp [hpath, bind_eq_ok, pure, Except.pure] at hr
    | inline source =>
      rw [hsource] at hr
      by_cases hempty : source = ""
      · simp [hempty]
      · simp [hempty, map_eq_ok] at hr
  | some t =>
    rcases freshComponent_eq_ok.1 hr with ⟨path, source, hc, hpath, hload, ht⟩ | ⟨source, hc, hne, ht⟩
    · exact freshComponent_eq_ok.2 (Or.inl ⟨path, source, hc, hpath, hload, h _ _ _ ht⟩)
    · exact freshComponent_eq_ok.2 (Or.inr ⟨source, hc, hne, h _ _ _ ht⟩)

theorem fresh_succ {s : TemplateSet} {levels : Nat} {name source : String} {t : Template}
    (ht : s.fresh levels name source = .ok t) : s.fresh (levels + 1) name source = .ok t := by
  induction levels generalizing name source t with
  | zero => exact freshSource_mono (fun k r h => by simp at h) ht
  | succ levels ih => exact freshSource_mono (freshComponent_mono fun name source t => ih) ht

/-- neither the cache nor the limit of a set matters to a fresh compilation -/
theorem fresh_setCache (s : TemplateSet) (limit : Nat) (cache : Dict Template) (levels : Nat) :
    fresh { s with options := { s.options with maxDepth := limit }, cache } levels = s.fresh levels := by
  induction levels with
  | zero => rfl
  | succ levels ih =>
    funext name source
    simp only [fresh]
    rw [ih]
    rfl

/-- **More levels keep a result.** -/
theorem fresh_mono {s : TemplateSet} {levels more : Nat} (h : levels ≤ more) {name source : String} {t : Template}
    (ht : s.fresh levels name source = .ok t) : s.fresh more name source = .ok t := by
  induction h with
  | refl => exact ht
  | step _ ih => exact fresh_succ ih

/-- **The levels do not decide which template it is**, only whether there is one. -/
theorem fresh_unique {s : TemplateSet} {m n : Nat} {name source : String} {t u : Template}
    (ht : s.fresh m name source = .ok t) (hu : s.fresh n name source = .ok u) : t = u := by
  have hmax := fresh_mono (Nat.le_max_right m n) hu
  rw [fresh_mono (Nat.le_max_left m n) ht] at hmax
  exact Except.ok.inj hmax

end TemplateSet

end Templating
