/-
Compilation as rules.

`SourceEnds`, `TokensEnd` and `ComponentEnds` say how the compilation of a source, of the tokens that are left of it,
and of the template of a component comes to its end: with a result, and with the cache behind it. The rules count the
component templates around a source upwards and know no fuel: nothing but the depth limit of the set keeps a component
from being compiled inside itself. A derivation is finite, so a compilation that has one ends.

- `tokensEnd_iff`, `componentEnds_iff`: tokens and components come to the end that the functions for them compute,
  when the sources below them do.
- `sourceEnds_iff`: so does every source, by induction on the levels of component templates that are left.
- `existsUnique_sourceEnds`: a compilation comes to exactly one end.
-/
import Templating.Proofs.CacheCoherence

namespace Templating

open Compile

namespace Template

/-- what a token means depends on nothing of the context but the template, the depth, the tags and the registry -/
theorem read_congr {c d : Context} (ht : c.template = d.template) (hdepth : c.depth = d.depth)
    (hr : c.registry = d.registry) (htags : c.tags = d.tags) (b : Blocks) (token : Token) :
    c.read b token = d.read b token := by
  obtain ⟨template, depth, limit, tags, registry, compile⟩ := c
  obtain ⟨template', depth', limit', tags', registry', compile'⟩ := d
  dsimp only at ht hdepth hr htags
  subst ht hdepth hr htags
  cases token <;> rfl

end Template

namespace TemplateSet

variable {s : TemplateSet}

/-! ## Rules -/

/-- what the tokens of a template are read against, so many component templates deep -/
def readingAt (s : TemplateSet) (name : String) (depth : Nat) : Template.Context :=
  s.context name depth none

mutual

/-- the compilation of a source, so many component templates deep, ends with a result and a cache -/
inductive SourceEnds (s : TemplateSet) : (depth : Nat) → (name source : String) → Dict Template →
    Except TemplateError Template × Dict Template → Prop
  | unread {depth name source cache position fault}
    (htokens : Template.tokens (s.preprocess source) = .error (position, fault)) :
    SourceEnds s depth name source cache (.error (.malformed ⟨name, position⟩ fault), cache)
  | stopped {depth name source cache tokens e cache'}
    (htokens : Template.tokens (s.preprocess source) = .ok tokens)
    (hall : TokensEnd s depth name tokens .start cache (.error e, cache')) :
    SourceEnds s depth name source cache (.error e, cache')
  | finished {depth name source cache tokens b cache'}
    (htokens : Template.tokens (s.preprocess source) = .ok tokens)
    (hall : TokensEnd s depth name tokens .start cache (.ok b, cache')) :
    SourceEnds s depth name source cache
      (((s.readingAt name depth).finish b (Template.endOf (s.preprocess source))).map
        (s.assemble name (s.preprocess source)), cache')

/-- the compilation of the tokens that are left, behind what is there of a template, ends -/
inductive TokensEnd (s : TemplateSet) : (depth : Nat) → (name : String) → List Template.Token → Template.Blocks →
    Dict Template → Except TemplateError Template.Blocks × Dict Template → Prop
  | done {depth name b cache} : TokensEnd s depth name [] b cache (.ok b, cache)
  | refused {depth name token tokens b cache e} (hread : (s.readingAt name depth).read b token = .error e) :
    TokensEnd s depth name (token :: tokens) b cache (.error e, cache)
  | ready {depth name token tokens b cache b' out} (hread : (s.readingAt name depth).read b token = .ok (.ready b'))
    (hrest : TokensEnd s depth name tokens b' cache out) : TokensEnd s depth name (token :: tokens) b cache out
  | tooDeep {depth name token tokens b cache tag}
    (hread : (s.readingAt name depth).read b token = .ok (.component tag)) (hdepth : s.options.maxDepth ≤ depth) :
    TokensEnd s depth name (token :: tokens) b cache
      (.error (.malformed tag.arguments.site (.tooDeep tag.name s.options.maxDepth)), cache)
  | failed {depth name token tokens b cache tag e cache'}
    (hread : (s.readingAt name depth).read b token = .ok (.component tag)) (hdepth : depth < s.options.maxDepth)
    (hcomponent : ComponentEnds s (depth + 1) tag.component cache (.error e, cache')) :
    TokensEnd s depth name (token :: tokens) b cache (.error e, cache')
  | bare {depth name token tokens b cache tag cache'}
    (hread : (s.readingAt name depth).read b token = .ok (.component tag)) (hdepth : depth < s.options.maxDepth)
    (hcomponent : ComponentEnds s (depth + 1) tag.component cache (.ok none, cache')) :
    TokensEnd s depth name (token :: tokens) b cache
      (.error (.malformed tag.arguments.site (.noTemplate tag.name)), cache')
  | unopened {depth name token tokens b cache tag t cache' e}
    (hread : (s.readingAt name depth).read b token = .ok (.component tag)) (hdepth : depth < s.options.maxDepth)
    (hcomponent : ComponentEnds s (depth + 1) tag.component cache (.ok (some t), cache'))
    (hblock : tag.block t = .error e) : TokensEnd s depth name (token :: tokens) b cache (.error e, cache')
  | opened {depth name token tokens b cache tag t cache' block out}
    (hread : (s.readingAt name depth).read b token = .ok (.component tag)) (hdepth : depth < s.options.maxDepth)
    (hcomponent : ComponentEnds s (depth + 1) tag.component cache (.ok (some t), cache'))
    (hblock : tag.block t = .ok block) (hrest : TokensEnd s depth name tokens (b.opened block) cache' out) :
    TokensEnd s depth name (token :: tokens) b cache out

/-- the compilation of the template of a component ends -/
inductive ComponentEnds (s : TemplateSet) : (depth : Nat) → Component → Dict Template →
    Except TemplateError (Option Template) × Dict Template → Prop
  | noFile {depth c cache} (hsource : c.source = .file "") : ComponentEnds s depth c cache (.ok none, cache)
  | noText {depth c cache} (hsource : c.source = .inline "") : ComponentEnds s depth c cache (.ok none, cache)
  | cached {depth c cache path t} (hsource : c.source = .file path) (hpath : path ≠ "")
    (hget : cache.get? (s.resolveName path) = some t) : ComponentEnds s depth c cache (.ok (some t), cache)
  | missing {depth c cache path e} (hsource : c.source = .file path) (hpath : path ≠ "")
    (hget : cache.get? (s.resolveName path) = none) (hload : s.loadSource (s.resolveName path) = .error e) :
    ComponentEnds s depth c cache (.error e, cache)
  | fileStopped {depth c cache path source e cache'} (hsource : c.source = .file path) (hpath : path ≠ "")
    (hget : cache.get? (s.resolveName path) = none) (hload : s.loadSource (s.resolveName path) = .ok source)
    (hcompile : SourceEnds s depth (s.resolveName path) source cache (.error e, cache')) :
    ComponentEnds s depth c cache (.error e, cache')
  | file {depth c cache path source t cache'} (hsource : c.source = .file path) (hpath : path ≠ "")
    (hget : cache.get? (s.resolveName path) = none) (hload : s.loadSource (s.resolveName path) = .ok source)
    (hcompile : SourceEnds s depth (s.resolveName path) source cache (.ok t, cache')) :
    ComponentEnds s depth c cache (.ok (some t), cache'.insert (s.resolveName path) t)
  | inline {depth c cache source r cache'} (hsource : c.source = .inline source) (htext : source ≠ "")
    (hcompile : SourceEnds s depth (inlineTemplateName c.name) source cache (r, cache')) :
    ComponentEnds s depth c cache (r.map some, cache')

end

/-! ## The functions compute these ends -/

/-- what holds of one thing and of no other -/
theorem ends_iff {α : Type} {P : α → Prop} {a : α} (h : P a) (hunique : ∀ b, P b → b = a) (b : α) : P b ↔ b = a :=
  ⟨hunique b, fun hb => hb ▸ h⟩

variable {depth : Nat} {name : String}

/-- **The template of a component comes to the end that the function for it computes**, when sources do. -/
theorem componentEnds_iff {compile : (name source : String) → Compile Template}
    (h : ∀ name source cache out, s.SourceEnds depth name source cache out ↔ out = (compile name source).outcome cache)
    (c : Component) (cache : Dict Template) (out : Except TemplateError (Option Template) × Dict Template) :
    s.ComponentEnds depth c cache out ↔ out = (s.compileComponent compile c).outcome cache := by
  unfold compileComponent
  cases hsource : c.source with
  | file path =>
    by_cases hpath : path = ""
    · subst hpath
      refine ends_iff (.noFile hsource) (fun out hother => ?_) out
      cases hother <;> simp_all
    · simp only [if_neg hpath, outcome_bind, compileFile_outcome]
      cases hget : cache.get? (s.resolveName path) with
      | some t =>
        refine ends_iff (.cached hsource hpath hget) (fun out hother => ?_) out
        cases hother <;> simp_all
      | none =>
        cases hload : s.loadSource (s.resolveName path) with
        | error e =>
          refine ends_iff (.missing hsource hpath hget hload) (fun out hother => ?_) out
          cases hother <;> simp_all
        | ok inner =>
          have hinner := h (s.resolveName path) inner cache
          dsimp only
          rcases hout : (compile (s.resolveName path) inner).outcome cache with ⟨e | t, cache'⟩ <;> rw [hout] at hinner
          · refine ends_iff (.fileStopped hsource hpath hget hload ((hinner _).2 rfl)) (fun out hother => ?_) out
            cases hother <;> simp_all
          · refine ends_iff (.file hsource hpath hget hload ((hinner _).2 rfl)) (fun out hother => ?_) out
            cases hother <;> simp_all
  | inline text =>
    by_cases htext : text = ""
    · subst htext
      refine ends_iff (.noText hsource) (fun out hother => ?_) out
      cases hother <;> simp_all
    · have hinner := h (inlineTemplateName c.name) text cache
      simp only [if_neg htext, outcome_bind]
      rcases hout : (compile (inlineTemplateName c.name) text).outcome cache with ⟨e | t, cache'⟩ <;>
        rw [hout] at hinner
      · refine ends_iff (.inline hsource htext ((hinner _).2 rfl)) (fun out hother => ?_) out
        cases hother <;> simp_all [Except.map]
      · refine ends_iff (.inline hsource htext ((hinner _).2 rfl)) (fun out hother => ?_) out
        cases hother <;> simp_all [Except.map]

/-- the compilations of component templates that a context offers end as the rules say -/
def EndsBelow (s : TemplateSet) (depth : Nat) (c : Template.Context) : Prop :=
  match c.componentTemplate with
  | none => s.options.maxDepth ≤ depth
  | some compile =>
    depth < s.options.maxDepth ∧
      ∀ k cache out, s.ComponentEnds (depth + 1) k cache out ↔ out = (compile k).outcome cache

/-- **Tokens come to the end that the fold over them computes**, when the templates of components do. -/
theorem tokensEnd_iff {c : Template.Context} (hread : ∀ b token, c.read b token = (s.readingAt name depth).read b token)
    (hlimit : c.limit = s.options.maxDepth) (hbelow : s.EndsBelow depth c) (tokens : List Template.Token)
    (b : Template.Blocks) (cache : Dict Template) (out : Except TemplateError Template.Blocks × Dict Template) :
    s.TokensEnd depth name tokens b cache out ↔ out = (tokens.foldlM c.step b).outcome cache := by
  induction tokens generalizing b cache out with
  | nil =>
    refine ends_iff .done (fun out hother => ?_) out
    cases hother
    rfl
  | cons token tokens ih =>
    rw [List.foldlM_cons, Template.Context.step, hread, outcome_bind, outcome_bind, outcome_ofExcept]
    cases hmeans : (s.readingAt name depth).read b token with
    | error e =>
      refine ends_iff (.refused hmeans) (fun out hother => ?_) out
      cases hother <;> simp_all
    | ok reading =>
      cases reading with
      | ready b' =>
        refine ends_iff (.ready hmeans ((ih b' cache _).2 rfl)) (fun out hother => ?_) out
        cases hother <;> simp_all
      | component tag =>
        unfold EndsBelow at hbelow
        simp only [Template.Context.openComponent]
        cases hcompile : c.componentTemplate with
        | none =>
          rw [hcompile] at hbelow
          have hdeep : ¬depth < s.options.maxDepth := by omega
          rw [hlimit]
          refine ends_iff (.tooDeep hmeans hbelow) (fun out hother => ?_) out
          cases hother <;> simp_all
        | some compile =>
          rw [hcompile] at hbelow
          obtain ⟨hdepth, hcomponent⟩ := hbelow
          have hdeep : ¬s.options.maxDepth ≤ depth := by omega
          have hinner := hcomponent tag.component cache
          dsimp only
          rw [outcome_bind]
          rcases hout : (compile tag.component).outcome cache with ⟨e | _ | t, cache'⟩ <;> rw [hout] at hinner
          · refine ends_iff (.failed hmeans hdepth ((hinner _).2 rfl)) (fun out hother => ?_) out
            cases hother <;> simp_all
          · refine ends_iff (.bare hmeans hdepth ((hinner _).2 rfl)) (fun out hother => ?_) out
            cases hother <;> simp_all
          · dsimp only
            rw [outcome_bind, outcome_ofExcept]
            cases hblock : tag.block t with
            | error e =>
              refine ends_iff (.unopened hmeans hdepth ((hinner _).2 rfl) hblock) (fun out hother => ?_) out
              cases hother <;> simp_all
            | ok block =>
              have hrest := (ih (b.opened block) cache' _).2 rfl
              refine ends_iff (.opened hmeans hdepth ((hinner _).2 rfl) hblock hrest) (fun out hother => ?_) out
              cases hother <;> simp_all

/-- a source comes to the end that the function for it computes, when its tokens do -/
theorem sourceEnds_of_tokens {componentTemplate : Option (Component → Compile (Option Template))}
    (h : ∀ tokens b cache out, s.TokensEnd depth name tokens b cache out ↔
      out = (tokens.foldlM (s.context name depth componentTemplate).step b).outcome cache)
    (source : String) (cache : Dict Template) (out : Except TemplateError Template × Dict Template) :
    s.SourceEnds depth name source cache out ↔
      out = (s.compileSource (s.context name depth componentTemplate) source).outcome cache := by
  unfold compileSource
  dsimp only
  cases htokens : Template.tokens (s.preprocess source) with
  | error fault =>
    obtain ⟨position, fault⟩ := fault
    refine ends_iff (.unread htokens) (fun out hother => ?_) out
    cases hother <;> simp_all [context]
  | ok tokens =>
    have hall := h tokens .start cache
    simp only [Template.Context.document, outcome_bind]
    rcases hout : (tokens.foldlM (s.context name depth componentTemplate).step .start).outcome cache with
      ⟨e | b, cache'⟩ <;> rw [hout] at hall
    · refine ends_iff (.stopped htokens ((hall _).2 rfl)) (fun out hother => ?_) out
      cases hother <;> simp_all
    · have hfinish : (s.context name depth componentTemplate).finish b (Template.endOf (s.preprocess source)) =
          (s.readingAt name depth).finish b (Template.endOf (s.preprocess source)) := rfl
      have hends := SourceEnds.finished htokens ((hall _).2 rfl)
      dsimp only
      rw [outcome_ofExcept, hfinish]
      cases hlast : (s.readingAt name depth).finish b (Template.endOf (s.preprocess source)) with
      | error e =>
        rw [hlast] at hends
        refine ends_iff hends (fun out hother => ?_) out
        cases hother <;> simp_all [Except.map]
      | ok b' =>
        rw [hlast] at hends
        refine ends_iff hends (fun out hother => ?_) out
        cases hother <;> simp_all [Except.map]

/-- at the depth limit and beyond it, a source comes to its end without the template of any component -/
theorem sourceEnds_beyond (hdepth : s.options.maxDepth ≤ depth) (source : String) (cache : Dict Template)
    (out : Except TemplateError Template × Dict Template) :
    s.SourceEnds depth name source cache out ↔
      out = (s.compileSource (s.context name depth none) source).outcome cache := by
  have hread : ∀ b token, (s.context name depth none).read b token = (s.readingAt name depth).read b token :=
    fun _ _ => rfl
  exact sourceEnds_of_tokens (tokensEnd_iff hread rfl hdepth) source cache out

/-- **Every source comes to the end that the levels which are left compute.** -/
theorem sourceEnds_iff (s : TemplateSet) (levels : Nat) {depth : Nat} (hdepth : depth + levels = s.options.maxDepth)
    (name source : String) (cache : Dict Template) (out : Except TemplateError Template × Dict Template) :
    s.SourceEnds depth name source cache out ↔ out = (s.compileWithin levels name source).outcome cache := by
  induction levels generalizing depth name source cache out with
  | zero =>
    obtain rfl : depth = s.options.maxDepth := by omega
    exact sourceEnds_beyond (le_refl s.options.maxDepth) source cache out
  | succ levels ih =>
    obtain rfl : depth = s.options.maxDepth - (levels + 1) := by omega
    have hnext : s.options.maxDepth - (levels + 1) + 1 + levels = s.options.maxDepth := by omega
    have hcomponent := componentEnds_iff fun name source => ih hnext name source
    have hread : ∀ b token,
        (s.context name (s.options.maxDepth - (levels + 1)) (some (s.compileComponent (s.compileWithin levels)))).read b
          token = (s.readingAt name (s.options.maxDepth - (levels + 1))).read b token :=
      Template.read_congr rfl rfl rfl rfl
    exact sourceEnds_of_tokens (tokensEnd_iff hread rfl ⟨by omega, hcomponent⟩) source cache out

/-- a source comes to exactly one end at any depth -/
theorem existsUnique_sourceEnds (s : TemplateSet) (depth : Nat) (name source : String) (cache : Dict Template) :
    ∃! out, s.SourceEnds depth name source cache out := by
  rcases le_total s.options.maxDepth depth with hdepth | hdepth
  · have hiff : ∀ out, s.SourceEnds depth name source cache out ↔
        out = (s.compileSource (s.context name depth none) source).outcome cache :=
      sourceEnds_beyond hdepth source cache
    exact ⟨_, (hiff _).2 rfl, fun out hout => (hiff out).1 hout⟩
  · have hiff := sourceEnds_iff s (s.options.maxDepth - depth) (Nat.add_sub_of_le hdepth) name source cache
    exact ⟨_, (hiff _).2 rfl, fun out hout => (hiff out).1 hout⟩

end TemplateSet

end Templating
