/-
The cache of a template set holds nothing stale.

`Coherent s cache`: every entry is what a fresh compilation of its path gives, with enough levels. A compilation that
starts on a coherent cache leaves one behind, also when it fails, and agrees with the fresh compilation of the same
source (`compileWithin_agrees`): what it gives, a fresh compilation gives, and what a fresh compilation gives within
the levels that are left, it gives.

- `Agrees`: the relation between a compilation on a cache and a fresh one, closed under the steps of both.
- `after_coherent`: operations keep the cache coherent.
- `cache_holds_fresh_templates`: at every point of a set's life, an entry of its cache, and a template that it gives
  for a name, is what the set would compile with an empty cache and a limit that is high enough.
-/
import Mathlib.Order.Filter.AtTopBot.Basic
import Templating.Operation
import Templating.Proofs.FreshCompilation

namespace Templating

/-! ## Agreement of a compilation with a fresh one -/

/-- on caches with `Keeps`, which it keeps, the compilation gives what the fresh one gives: its results are those of the
fresh one with enough levels, and the fresh one has none at `level` that it does not give -/
structure Compile.Agrees {α : Type} (Keeps : Dict Template → Prop) (level : Nat) (x : Compile α)
    (y : Nat → Except TemplateError α) : Prop where
  keeps : ∀ cache, Keeps cache → Keeps (x.outcome cache).2
  sound : ∀ cache a, Keeps cache → (x.outcome cache).1 = .ok a → ∀ᶠ n in Filter.atTop, y n = .ok a
  complete : ∀ cache a, Keeps cache → y level = .ok a → (x.outcome cache).1 = .ok a

namespace Compile

variable {α β : Type} {Keeps : Dict Template → Prop} {level : Nat}

theorem agrees_ofExcept (e : Except TemplateError α) : Agrees Keeps level (ofExcept e) (fun _ => e) where
  keeps _ h := h
  sound _ _ _ h := Filter.Eventually.of_forall fun _ => h
  complete _ _ _ h := h

theorem agrees_throw (e : TemplateError) {y : Nat → Except TemplateError α} (h : ∀ a, y level ≠ .ok a) :
    Agrees Keeps level (throw e : Compile α) y where
  keeps _ h := h
  sound _ _ _ h := by simp at h
  complete _ a _ ha := absurd ha (h a)

theorem Agrees.bind {x : Compile α} {y : Nat → Except TemplateError α} {f : α → Compile β}
    {g : Nat → α → Except TemplateError β} (hx : Agrees Keeps level x y)
    (hf : ∀ a, Agrees Keeps level (f a) (fun n => g n a)) : Agrees Keeps level (x >>= f) (fun n => y n >>= g n) where
  keeps cache h := by
    have hkeeps := hx.keeps cache h
    rw [outcome_bind]
    rcases hout : x.outcome cache with ⟨e | a, cache'⟩ <;> rw [hout] at hkeeps
    · exact hkeeps
    · exact (hf a).keeps cache' hkeeps
  sound cache b h hb := by
    have hkeeps := hx.keeps cache h
    have hsound := hx.sound cache
    rw [outcome_bind] at hb
    rcases hout : x.outcome cache with ⟨e | a, cache'⟩
    · rw [hout] at hb
      cases hb
    · rw [hout] at hb hkeeps hsound
      filter_upwards [hsound a h rfl, (hf a).sound cache' b hkeeps hb] with n hy hg
      rw [hy]
      exact hg
  complete cache b h hb := by
    obtain ⟨a, ha, hb⟩ := bind_eq_ok.1 hb
    have hkeeps := hx.keeps cache h
    have hcomplete := hx.complete cache a h ha
    rcases hout : x.outcome cache with ⟨r, cache'⟩
    rw [hout] at hkeeps hcomplete
    cases hcomplete
    rw [outcome_bind_ok hout]
    exact (hf a).complete cache' b hkeeps hb

theorem agrees_foldlM {f : β → α → Compile β} {g : Nat → β → α → Except TemplateError β}
    (h : ∀ b a, Agrees Keeps level (f b a) (fun n => g n b a)) (l : List α) (b : β) :
    Agrees Keeps level (l.foldlM f b) (fun n => l.foldlM (g n) b) := by
  induction l generalizing b with
  | nil => exact agrees_ofExcept (.ok b)
  | cons a l ih =>
    simp only [List.foldlM_cons]
    exact (h b a).bind ih

/-- a compilation agrees at the next level with what is one level further down -/
theorem Agrees.succ {x : Compile α} {y z : Nat → Except TemplateError α} (h : Agrees Keeps level x y)
    (hz : ∀ n, z (n + 1) = y n) : Agrees Keeps (level + 1) x z where
  keeps := h.keeps
  sound cache a hc ha := by
    obtain ⟨n, hn⟩ := Filter.eventually_atTop.1 (h.sound cache a hc ha)
    refine Filter.eventually_atTop.2 ⟨n + 1, fun m hm => ?_⟩
    obtain ⟨k, rfl⟩ : ∃ k, m = k + 1 := ⟨m - 1, by omega⟩
    rw [hz]
    exact hn k (by omega)
  complete cache a hc ha := h.complete cache a hc (by rw [← hz]; exact ha)

end Compile

open Compile

/-! ## Documents -/

namespace Template

variable {c d : Context} {Keeps : Dict Template → Prop} {level : Nat}
variable {o : Nat → Component → Except TemplateError (Option Template)}

/-- the component templates that a context gives, against fresh ones -/
def Context.AgreesBelow (c : Context) (Keeps : Dict Template → Prop) (level : Nat)
    (o : Nat → Component → Except TemplateError (Option Template)) : Prop :=
  match c.componentTemplate with
  | some compile => ∀ k, Agrees Keeps level (compile k) (fun n => o n k)
  | none => ∀ k r, o level k ≠ .ok r

theorem step_agrees (hread : ∀ b token, c.read b token = d.read b token) (h : c.AgreesBelow Keeps level o)
    (b : Blocks) (token : Token) :
    Agrees Keeps level (c.step b token) (fun n => d.stepFresh (o n) b token) := by
  unfold Context.step Context.stepFresh
  rw [hread]
  refine (agrees_ofExcept _).bind fun reading => ?_
  cases reading with
  | ready b' => exact agrees_ofExcept (.ok b')
  | component tag =>
    simp only [Context.openComponent]
    unfold Context.AgreesBelow at h
    cases hc : c.componentTemplate with
    | none =>
      rw [hc] at h
      refine agrees_throw _ fun b' hb' => ?_
      obtain ⟨found, hfound, -⟩ := bind_eq_ok.1 hb'
      exact h _ _ hfound
    | some compile =>
      rw [hc] at h
      refine (h tag.component).bind fun found => ?_
      cases found with
      | none => exact agrees_ofExcept (.error _)
      | some template => exact (agrees_ofExcept (tag.block template)).bind fun block => agrees_ofExcept (.ok _)

theorem document_agrees (hread : ∀ b token, c.read b token = d.read b token)
    (hfinish : ∀ b position, c.finish b position = d.finish b position) (h : c.AgreesBelow Keeps level o)
    (all : List Token) (position : Position) :
    Agrees Keeps level (c.document all position) (fun n => d.documentFresh (o n) all position) := by
  unfold Context.document Context.documentFresh
  refine (agrees_foldlM (step_agrees hread h) all .start).bind fun b => ?_
  rw [hfinish]
  exact agrees_ofExcept _

end Template

namespace TemplateSet

/-! ## Coherent caches -/

/-- every entry of the cache is what a fresh compilation of its path gives -/
def Coherent (s : TemplateSet) (cache : Dict Template) : Prop :=
  ∀ path t, cache.get? path = some t →
    ∃ source, s.loadSource path = .ok source ∧ ∃ levels, s.fresh levels path source = .ok t

theorem coherent_empty (s : TemplateSet) : s.Coherent .empty := by
  intro path t h
  simp at h

theorem Coherent.insert {s : TemplateSet} {cache : Dict Template} (h : s.Coherent cache) {path source : String}
    {t : Template} (hload : s.loadSource path = .ok source) {levels : Nat}
    (ht : s.fresh levels path source = .ok t) : s.Coherent (cache.insert path t) := by
  intro other u hu
  rw [Dict.get?_insert] at hu
  split_ifs at hu with hother
  · cases hu
    exact ⟨source, hother ▸ hload, levels, hother ▸ ht⟩
  · exact h other u hu

/-- coherence does not look at the cache or the limit that the set itself has -/
theorem coherent_setCache (s : TemplateSet) (limit : Nat) (cache cache' : Dict Template) :
    Coherent { s with options := { s.options with maxDepth := limit }, cache } cache' ↔ s.Coherent cache' := by
  simp only [Coherent, fresh_setCache]
  rfl

/-- what the compilation of a file does: it takes the template from the cache, or compiles the source and adds it -/
theorem compileFile_outcome (s : TemplateSet) (compile : (name source : String) → Compile Template) (name : String)
    (cache : Dict Template) :
    (s.compileFile compile name).outcome cache =
      match cache.get? (s.resolveName name) with
      | some t => (.ok t, cache)
      | none =>
        match s.loadSource (s.resolveName name) with
        | .error e => (.error e, cache)
        | .ok source =>
          match (compile (s.resolveName name) source).outcome cache with
          | (.ok t, cache) => (.ok t, cache.insert (s.resolveName name) t)
          | (.error e, cache) => (.error e, cache) := by
  have hcache : (get : Compile (Dict Template)).outcome cache = (.ok cache, cache) := rfl
  unfold compileFile
  rw [outcome_bind_ok hcache]
  cases cache.get? (s.resolveName name) with
  | some t => rfl
  | none =>
    rw [outcome_bind, outcome_ofExcept]
    cases s.loadSource (s.resolveName name) with
    | error e => rfl
    | ok source =>
      simp only [outcome_bind]
      rcases (compile (s.resolveName name) source).outcome cache with ⟨_ | _, _⟩ <;> rfl

/-! ## Compilation on a coherent cache -/

variable {s : TemplateSet} {compile : (name source : String) → Compile Template} {levels : Nat}

theorem compileSource_agrees (hhost : s.NoHostTags) (name : String) (depth : Nat)
    (componentTemplate : Option (Component → Compile (Option Template)))
    {o : Nat → Component → Except TemplateError (Option Template)}
    (h : (s.context name depth componentTemplate).AgreesBelow s.Coherent levels o) (source : String) :
    Agrees s.Coherent levels (s.compileSource (s.context name depth componentTemplate) source)
      (fun n => s.freshSource name (o n) source) := by
  unfold compileSource freshSource
  dsimp only
  cases Template.tokens (s.preprocess source) with
  | error fault => exact agrees_ofExcept (.error (.malformed ⟨name, fault.1⟩ fault.2))
  | ok tokens =>
    have hread := context_read hhost name depth componentTemplate
    exact (Template.document_agrees hread (fun _ _ => rfl) h _ _).bind fun b => agrees_ofExcept (.ok _)

theorem compileFile_agrees
    (h : ∀ name source, Agrees s.Coherent levels (compile name source) (fun n => s.fresh n name source))
    (name : String) :
    Agrees s.Coherent levels (s.compileFile compile name)
      (fun n => s.loadSource (s.resolveName name) >>= s.fresh n (s.resolveName name)) where
  keeps cache hc := by
    rw [compileFile_outcome]
    cases cache.get? (s.resolveName name) with
    | some t => exact hc
    | none =>
      cases hload : s.loadSource (s.resolveName name) with
      | error e => exact hc
      | ok source =>
        have hkeeps := (h (s.resolveName name) source).keeps cache hc
        have hsound := (h (s.resolveName name) source).sound cache
        dsimp only
        rcases hout : (compile (s.resolveName name) source).outcome cache with ⟨e | t, cache'⟩ <;> rw [hout] at hkeeps
        · exact hkeeps
        · obtain ⟨n, hn⟩ := (hsound t hc (by rw [hout])).exists
          exact Coherent.insert hkeeps hload hn
  sound cache t hc ht := by
    rw [compileFile_outcome] at ht
    cases hget : cache.get? (s.resolveName name) with
    | some u =>
      rw [hget] at ht
      cases ht
      obtain ⟨source, hload, n, hn⟩ := hc _ _ hget
      rw [hload]
      exact Filter.eventually_atTop.2 ⟨n, fun m hm => fresh_mono hm hn⟩
    | none =>
      rw [hget] at ht
      cases hload : s.loadSource (s.resolveName name) with
      | error e =>
        rw [hload] at ht
        cases ht
      | ok source =>
        rw [hload] at ht
        refine (h (s.resolveName name) source).sound cache t hc ?_
        dsimp only at ht
        rcases hout : (compile (s.resolveName name) source).outcome cache with ⟨e | u, cache'⟩ <;> rw [hout] at ht
        · cases ht
        · exact ht
  complete cache t hc ht := by
    obtain ⟨source, hload, ht⟩ := bind_eq_ok.1 ht
    rw [compileFile_outcome]
    cases hget : cache.get? (s.resolveName name) with
    | some u =>
      obtain ⟨source', hload', n, hn⟩ := hc _ _ hget
      rw [hload] at hload'
      cases hload'
      rw [fresh_unique hn ht]
    | none =>
      have hout := (h (s.resolveName name) source).complete cache t hc ht
      rw [hload]
      dsimp only
      rcases hcompile : (compile (s.resolveName name) source).outcome cache with ⟨e | u, cache'⟩ <;>
        rw [hcompile] at hout
      · cases hout
      · exact hout

theorem compileComponent_agrees
    (h : ∀ name source, Agrees s.Coherent levels (compile name source) (fun n => s.fresh n name source))
    (c : Component) :
    Agrees s.Coherent levels (s.compileComponent compile c) (fun n => s.freshComponent (s.fresh n) c) := by
  unfold compileComponent freshComponent
  cases c.source with
  | file path =>
    by_cases hpath : path = ""
    · simp only [if_pos hpath]
      exact agrees_ofExcept (.ok none)
    · simp only [if_neg hpath]
      have hsome := (compileFile_agrees h path).bind fun t => agrees_ofExcept (.ok (some t))
      simp only [bind_assoc] at hsome
      exact hsome
  | inline source =>
    by_cases hempty : source = ""
    · simp only [if_pos hempty]
      exact agrees_ofExcept (.ok none)
    · simp only [if_neg hempty]
      exact (h (inlineTemplateName c.name) source).bind fun t => agrees_ofExcept (.ok (some t))

/-- **A compilation on a coherent cache agrees with the fresh one**, level by level. -/
theorem compileWithin_agrees (hhost : s.NoHostTags) (levels : Nat) (name source : String) :
    Agrees s.Coherent levels (s.compileWithin levels name source) (fun n => s.fresh n name source) := by
  induction levels generalizing name source with
  | zero =>
    simp only [compileWithin, fresh_eq]
    have hbelow : (s.context name s.options.maxDepth none).AgreesBelow s.Coherent 0 (s.below name) :=
      fun _ _ h => by simp [below] at h
    exact compileSource_agrees hhost name _ _ hbelow source
  | succ levels ih =>
    simp only [compileWithin, fresh_eq]
    have hbelow : (s.context name (s.options.maxDepth - (levels + 1))
        (some (s.compileComponent (s.compileWithin levels)))).AgreesBelow s.Coherent (levels + 1) (s.below name) :=
      fun c => (compileComponent_agrees ih c).succ fun _ => rfl
    exact compileSource_agrees hhost name _ _ hbelow source

/-! ## The life of a set -/

/-- the set with nothing compiled and another limit -/
def emptied (s : TemplateSet) (limit : Nat) : TemplateSet :=
  { s with options := { s.options with maxDepth := limit }, cache := .empty }

/-- with an empty cache, a limit of at least the levels of a fresh compilation gives its template -/
theorem emptied_compile (hhost : s.NoHostTags) {limit : Nat} (hle : levels ≤ limit) {name source : String}
    {t : Template} (ht : s.fresh levels name source = .ok t) :
    ((s.emptied limit).run ((s.emptied limit).compile name source)).1 = .ok t := by
  have hfresh : (s.emptied limit).fresh limit name source = .ok t := by
    rw [emptied, fresh_setCache]
    exact fresh_mono hle ht
  have hempty : (s.emptied limit).Coherent .empty := coherent_empty _
  exact (compileWithin_agrees (s := s.emptied limit) hhost limit name source).complete _ _ hempty hfresh

theorem obtain_coherent (hhost : s.NoHostTags) (hs : s.Coherent s.cache) (request : Request) :
    (s.obtain request).2.Coherent (s.obtain request).2.cache := by
  have hwithin := compileWithin_agrees hhost s.options.maxDepth
  cases request with
  | file name =>
    exact (coherent_setCache s s.options.maxDepth _ _).2 ((compileFile_agrees hwithin name).keeps s.cache hs)
  | text source =>
    exact (coherent_setCache s s.options.maxDepth _ _).2 ((hwithin stringTemplateName source).keeps s.cache hs)

/-- one operation keeps the cache coherent -/
theorem apply_coherent (hhost : s.NoHostTags) (hs : s.Coherent s.cache) (op : Operation) :
    (op.apply s).Coherent (op.apply s).cache := by
  rcases Operation.apply_cases s op with ⟨request, h⟩ | ⟨registry, passes, h⟩ <;> rw [h]
  · exact obtain_coherent hhost hs request
  · exact coherent_empty _

/-- any number of operations keeps the cache coherent -/
theorem after_coherent (hhost : s.NoHostTags) (hs : s.Coherent s.cache) (ops : List Operation) :
    (s.after ops).Coherent (s.after ops).cache := by
  induction ops generalizing s with
  | nil => exact hs
  | cons op ops ih =>
    rw [Operation.after_cons]
    refine ih ?_ (apply_coherent hhost hs op)
    rw [NoHostTags, Operation.apply_tags]
    exact hhost

theorem new_noHostTags (loader : Loader) (options : Options) : (new loader options).NoHostTags :=
  noHostTags_of_builtin rfl

/-- a set that operations made of a new one has no tags of the host -/
theorem after_noHostTags (loader : Loader) (options : Options) (ops : List Operation) :
    ((new loader options).after ops).NoHostTags := by
  rw [NoHostTags, Operation.after_tags]
  exact new_noHostTags loader options

theorem new_after_coherent (loader : Loader) (options : Options) (ops : List Operation) :
    ((new loader options).after ops).Coherent ((new loader options).after ops).cache :=
  after_coherent (new_noHostTags loader options) (coherent_empty _) ops

/-- the name of the template of a request -/
def requestName (s : TemplateSet) : Request → String
  | .file name => s.resolveName name
  | .text _ => stringTemplateName

/-- the source of a request -/
def requestSource (s : TemplateSet) : Request → Except TemplateError String
  | .file name => s.loadSource (s.resolveName name)
  | .text source => .ok source

/-- what a set gives for a request is what a fresh compilation of its source gives -/
theorem obtain_fresh (hhost : s.NoHostTags) (hs : s.Coherent s.cache) {request : Request} {t : Template}
    (ht : (s.obtain request).1 = .ok t) :
    ∃ source, s.requestSource request = .ok source ∧
      ∃ levels, s.fresh levels (s.requestName request) source = .ok t := by
  have hwithin := compileWithin_agrees hhost s.options.maxDepth
  cases request with
  | file name =>
    obtain ⟨levels, hlevels⟩ := ((compileFile_agrees hwithin name).sound s.cache t hs ht).exists
    obtain ⟨source, hload, hfresh⟩ := bind_eq_ok.1 hlevels
    exact ⟨source, hload, levels, hfresh⟩
  | text source => exact ⟨source, rfl, ((hwithin stringTemplateName source).sound s.cache t hs ht).exists⟩

/-- **The cache is coherent for life.** After any operations on a new set, failing or not: a template that the cache
holds under a path, and a template that the set gives for a name, is the one that the set compiles from that path's
source with its components and passes as they are now, an empty cache and any limit that is high enough. -/
theorem cache_holds_fresh_templates (loader : Loader) (options : Options) (ops : List Operation) :
    let s := (new loader options).after ops
    (∀ path t, s.cache.get? path = some t →
      ∃ source, s.loadSource path = .ok source ∧
        ∃ least, ∀ limit ≥ least, ((s.emptied limit).run ((s.emptied limit).compile path source)).1 = .ok t) ∧
    ∀ name t, (s.fromFile name).1 = .ok t →
      ∃ source, s.loadSource (s.resolveName name) = .ok source ∧
        ∃ least, ∀ limit ≥ least,
          ((s.emptied limit).run ((s.emptied limit).compile (s.resolveName name) source)).1 = .ok t := by
  intro s
  have hhost : s.NoHostTags := after_noHostTags loader options ops
  have hs : s.Coherent s.cache := new_after_coherent loader options ops
  constructor
  · intro path t hget
    obtain ⟨source, hload, levels, ht⟩ := hs path t hget
    exact ⟨source, hload, levels, fun limit hle => emptied_compile hhost hle ht⟩
  · intro name t hgive
    obtain ⟨source, hload, levels, ht⟩ := obtain_fresh hhost hs (show (s.obtain (.file name)).1 = .ok t from hgive)
    exact ⟨source, hload, levels, fun limit hle => emptied_compile hhost hle ht⟩

/-- a page with a card -/
def cachedFiles : Dict String :=
  .ofList [("card.html", "a card"), ("page.html", "\x7b% component \"card\" %\x7d\x7b% endcomponent %\x7d")]

/-- the options of the set of the card, without component markup -/
def cachedOptions : Options :=
  { Options.standard with tagPrefix := none }

/-- the page is compiled once, then a pass of the host comes to the pipeline, and the page is compiled again -/
def cachedHistory : List Operation :=
  [.register ⟨"card", .file "card.html", [], none⟩, .obtain (.file "page"), .addPass (.host (· ++ "!")),
    .obtain (.file "page")]

/-- the set behind that -/
def cachedSet : TemplateSet :=
  (new (.memory cachedFiles) cachedOptions).after cachedHistory

theorem cache_holds_fresh_templates_card :
    ∃ t, cachedSet.cache.get? "card.html" = some t ∧ t.source = "a card!" ∧ ∃ least, ∀ limit ≥ least,
      ((cachedSet.emptied limit).run ((cachedSet.emptied limit).compile "card.html" "a card")).1 = .ok t := by
  have hrun : (cachedSet.cache.get? "card.html").any (·.source = "a card!") = true := by decide +kernel
  obtain ⟨t, hget, hsource⟩ := (Option.any_eq_true _ _).1 hrun
  have hcard : (cachedSet.loadSource "card.html").toOption = some "a card" := by decide +kernel
  obtain ⟨source, hload, hfresh⟩ :=
    (cache_holds_fresh_templates (.memory cachedFiles) cachedOptions cachedHistory).1 "card.html" t hget
  cases (eq_ok_of_toOption hcard).symm.trans hload
  exact ⟨t, hget, of_decide_eq_true hsource, hfresh⟩

end TemplateSet

end Templating
