/-
Going through the components that a template uses.

`TemplateSet.uses` lists the components that the tags of a source name, in order, and `TemplateSet.walk` goes through
them from the first on and so many levels down. It does not enter a file that it has seen, and fails where a component
is used and no level is left. It is what a compilation does, with the templates left out.

- `componentOf?_ready`, `componentOf?_component`: a component tag is always read as such, since no built-in block ends
  at one.
- `Tracks`: a compilation follows a walk, closed under the steps of both.
- `compileWithin_tracks`: on a coherent cache, a source that compiles at all compiles within so many levels exactly
  when the walk that has seen the cached files goes through; what it has seen then is what is cached then.
-/
import Templating.Proofs.CacheCoherence

namespace Templating

open Compile

namespace TemplateSet

/-! ## Uses -/

/-- the component that a token names, when it is a component tag -/
def componentOf? (s : TemplateSet) : Template.Token → Option Component
  | .tag name args _ =>
    match s.tags.get? name, Expr.tokens args.toList with
    | some .component, .ok (.str component :: _) => s.registry.get? component
    | _, _ => none
  | _ => none

/-- the components that the tags of a source name, in order -/
def uses (s : TemplateSet) (source : String) : List Component :=
  match Template.tokens (s.preprocess source) with
  | .ok tokens => tokens.filterMap s.componentOf?
  | .error _ => []

/-! ## The walk -/

/-- the walk through a file, unless it has been seen -/
def visitFile (s : TemplateSet) (walk : List String → String → Option (List String)) (seen : List String)
    (name : String) : Option (List String) :=
  if s.resolveName name ∈ seen then some seen
  else
    match s.loadSource (s.resolveName name) with
    | .ok source => (walk seen source).map (s.resolveName name :: ·)
    | .error _ => none

/-- the walk through the template of a component -/
def visit (s : TemplateSet) (walk : List String → String → Option (List String)) (seen : List String)
    (c : Component) : Option (List String) :=
  match c.source with
  | .file path => s.visitFile walk seen path
  | .inline source => walk seen source

/-- the walk through a source with so many levels below it: the files seen behind it, when it goes through -/
def walk (s : TemplateSet) : (levels : Nat) → (seen : List String) → (source : String) → Option (List String)
  | 0, seen, source => (s.uses source).foldlM (fun _ _ => none) seen
  | levels + 1, seen, source => (s.uses source).foldlM (s.visit (s.walk levels)) seen

end TemplateSet

/-! ## Component tags are read as such -/

namespace Template

/-- no block of the host is open -/
def Blocks.BuiltIn (b : Blocks) : Prop :=
  ∀ frame ∈ b.frames, ∀ tag use closing, frame.block ≠ .custom tag use closing

theorem start_builtIn : Blocks.start.BuiltIn := by
  intro frame hframe
  simp [Blocks.start] at hframe

theorem Blocks.BuiltIn.opened {b : Blocks} (h : b.BuiltIn) {block : Block}
    (hblock : ∀ tag use closing, block ≠ .custom tag use closing) : (b.opened block).BuiltIn := by
  intro frame hframe
  rcases List.mem_cons.1 hframe with rfl | hframe
  · exact hblock
  · exact h frame hframe

/-- no built-in block ends at a component tag -/
theorem component_not_mem_ends {block : Block} (h : ∀ tag use closing, block ≠ .custom tag use closing) :
    "component" ∉ block.ends := by
  cases block with
  | custom tag use closing => exact absurd rfl (h tag use closing)
  | _ => simp [Block.ends]

/-- a block that goes on is none of the host -/
theorem finish_resumed {block next : Block} {tag : String} {arguments : Arguments} {nodes kept : List Node}
    (h : block.finish tag arguments nodes = .ok (.resumed next kept)) (host : CustomTag) (use : TagUse)
    (closing : String) : next ≠ .custom host use closing := by
  rintro rfl
  cases block with
  | component own template body slots =>
    simp only [Block.finish] at h
    split_ifs at h
    · simp [bind_eq_ok, pure, Except.pure] at h
    · obtain ⟨name, -, h⟩ := bind_eq_ok.1 h
      cases name <;> cases h
  | arm =>
    simp only [Block.finish] at h
    split_ifs at h <;> simp [bind_eq_ok, pure, Except.pure] at h
  | loop =>
    simp only [Block.finish] at h
    split_ifs at h <;> simp [bind_eq_ok, pure, Except.pure] at h
  | _ => simp [Block.finish, bind_eq_ok, pure, Except.pure] at h

theorem block_builtIn {tag : ComponentTag} {t : Template} {block : Block} (h : tag.block t = .ok block)
    (host : CustomTag) (use : TagUse) (closing : String) : block ≠ .custom host use closing := by
  obtain ⟨x, -, h⟩ := bind_eq_ok.1 h
  cases h
  simp

theorem close_builtIn {b b' : Blocks} (hb : b.BuiltIn) {frame : Frame} {outer : List Frame}
    (hframes : b.frames = frame :: outer) {tag : String} {arguments : Arguments}
    (h : b.close frame outer tag arguments = .ok b') : b'.BuiltIn := by
  have houter : ∀ f ∈ outer, ∀ host use closing, f.block ≠ .custom host use closing :=
    fun f hf => hb f (by rw [hframes]; exact List.mem_cons_of_mem _ hf)
  obtain ⟨closing, hclosing, h⟩ := bind_eq_ok.1 h
  cases closing with
  | resumed next kept =>
    cases h
    intro f hf
    rcases List.mem_cons.1 hf with rfl | hf
    · exact finish_resumed hclosing
    · exact houter f hf
  | complete node fragment =>
    cases h
    exact houter

theorem openTag_builtIn {c : Context} {b b' : Blocks} (hb : b.BuiltIn) {tag : Tag} (htag : ∀ host, tag ≠ .custom host)
    {position : Position} {arguments : Arguments} (h : c.openTag b tag position arguments = .ok (.ready b')) :
    b'.BuiltIn := by
  cases tag with
  | custom host => exact absurd rfl (htag host)
  | component =>
    obtain ⟨tag, -, h⟩ := map_eq_ok.1 h
    cases h
  | fragment =>
    obtain ⟨name, -, h⟩ := bind_eq_ok.1 h
    cases name <;> cases h
    exact hb.opened (by simp)
  | assign | props =>
    obtain ⟨x, -, h⟩ := bind_eq_ok.1 h
    cases h
    exact hb
  | conditional | loop | outlet =>
    obtain ⟨x, -, h⟩ := bind_eq_ok.1 h
    cases h
    exact hb.opened (by simp)

end Template

namespace TemplateSet

variable {s : TemplateSet}

theorem tag_component (htags : s.tags = Template.builtinTags) {name : String} :
    s.tags.get? name = some .component ↔ name = "component" := by
  rw [htags]
  simp only [Template.builtinTags, Dict.ofList, List.foldl_cons, List.foldl_nil, Dict.get?_insert, Dict.get?_empty]
  split_ifs <;> simp_all

theorem componentOf?_tag_none {name : String} (h : s.tags.get? name ≠ some .component) (args : String)
    (position : Position) : s.componentOf? (.tag name args position) = none := by
  simp only [componentOf?]
  split
  · exact absurd ‹_› h
  · rfl

theorem componentOf?_tag_some {name args component : String} {rest : List Expr.Token}
    (h : s.tags.get? name = some .component) (hargs : Expr.tokens args.toList = .ok (.str component :: rest))
    (position : Position) : s.componentOf? (.tag name args position) = s.registry.get? component := by
  simp only [componentOf?, h, hargs]

/-- a token that is read at once names no component -/
theorem componentOf?_ready (htags : s.tags = Template.builtinTags) {b b' : Template.Blocks} (hb : b.BuiltIn)
    {name : String} {token : Template.Token} (h : (s.reading name).read b token = .ok (.ready b')) :
    s.componentOf? token = none ∧ b'.BuiltIn := by
  cases token with
  | text text =>
    cases h
    exact ⟨rfl, hb⟩
  | output expr position =>
    obtain ⟨arguments, -, h⟩ := bind_eq_ok.1 h
    obtain ⟨e, -, h⟩ := bind_eq_ok.1 h
    cases h
    exact ⟨rfl, hb⟩
  | tag name args position =>
    obtain ⟨arguments, -, h⟩ := bind_eq_ok.1 h
    rcases Template.readTag_cases h with ⟨frame, outer, b'', hframes, hends, hclose, hb''⟩ | ⟨tag, hget, h⟩
    · cases hb''
      refine ⟨componentOf?_tag_none (fun hget => ?_) args position, Template.close_builtIn hb hframes hclose⟩
      rw [tag_component htags] at hget
      subst hget
      exact Template.component_not_mem_ends (hb frame (by simp [hframes])) hends
    · change s.tags.get? name = some tag at hget
      refine ⟨componentOf?_tag_none (fun hcomponent => ?_) args position, Template.openTag_builtIn hb ?_ h⟩
      · rw [hget] at hcomponent
        cases hcomponent
        obtain ⟨tag, -, h⟩ := map_eq_ok.1 h
        cases h
      · rintro host rfl
        exact noHostTags_of_builtin htags name host hget

/-- a token that waits for the template of a component names this component -/
theorem componentOf?_component {b : Template.Blocks} {name : String} {token : Template.Token}
    {tag : Template.ComponentTag} (h : (s.reading name).read b token = .ok (.component tag)) :
    s.componentOf? token = some tag.component := by
  obtain ⟨opening, args, rfl, hget, hwords, hregistry⟩ := Template.read_component h
  rw [componentOf?_tag_some hget hwords]
  exact hregistry

/-! ## A compilation follows the walk -/

/-- the paths seen are those of the cache -/
def Mirrors (seen : List String) (cache : Dict Template) : Prop :=
  ∀ path, path ∈ seen ↔ cache.contains path = true

/-- on a coherent cache whose files are those seen, the compilation gives `a` exactly when the walk goes through, and
then caches what the walk sees -/
structure Tracks {α : Type} (s : TemplateSet) (x : Compile α) (a : α) (walk : List String → Option (List String)) :
    Prop where
  stops : ∀ cache seen, s.Coherent cache → Mirrors seen cache → walk seen = none → ∀ r, (x.outcome cache).1 ≠ .ok r
  passes : ∀ cache seen seen', s.Coherent cache → Mirrors seen cache → walk seen = some seen' →
    ∃ cache', x.outcome cache = (.ok a, cache') ∧ s.Coherent cache' ∧ Mirrors seen' cache'

variable {α β : Type}

theorem tracks_ofExcept (a : α) : s.Tracks (Compile.ofExcept (.ok a)) a some where
  stops _ _ _ _ h := by cases h
  passes cache seen seen' hc hm h := by
    cases h
    exact ⟨cache, rfl, hc, hm⟩

theorem tracks_throw (e : TemplateError) (a : α) {walk : List String → Option (List String)}
    (h : ∀ seen, walk seen = none) : s.Tracks (throw e) a walk where
  stops _ _ _ _ _ r hr := by cases hr
  passes _ seen _ _ _ hpass := by
    rw [h seen] at hpass
    cases hpass

theorem Tracks.bind {x : Compile α} {a : α} {v w : List String → Option (List String)} {f : α → Compile β} {b : β}
    (hx : s.Tracks x a v) (hf : s.Tracks (f a) b w) : s.Tracks (x >>= f) b (fun seen => v seen >>= w) where
  stops cache seen hc hm hstop r hr := by
    cases hv : v seen with
    | none =>
      rcases hout : x.outcome cache with ⟨e | a', cache'⟩
      · rw [outcome_bind_error hout] at hr
        cases hr
      · exact hx.stops cache seen hc hm hv a' (by rw [hout])
    | some seen' =>
      obtain ⟨cache', hout, hc', hm'⟩ := hx.passes cache seen seen' hc hm hv
      rw [outcome_bind_ok hout] at hr
      rw [hv] at hstop
      exact hf.stops cache' seen' hc' hm' hstop r hr
  passes cache seen seen₂ hc hm hpass := by
    obtain ⟨seen₁, hv, hw⟩ := Option.bind_eq_some_iff.1 hpass
    obtain ⟨cache₁, hout, hc₁, hm₁⟩ := hx.passes cache seen seen₁ hc hm hv
    rw [outcome_bind_ok hout]
    exact hf.passes cache₁ seen₁ seen₂ hc₁ hm₁ hw

/-- a step that only computes leaves the walk as it is -/
theorem Tracks.bind_ok {x : Compile α} {a : α} {walk : List String → Option (List String)} {f : α → Compile β} {b : β}
    (hx : s.Tracks x a walk) (hf : f a = Compile.ofExcept (.ok b)) : s.Tracks (x >>= f) b walk := by
  have hwalk : walk = fun seen => walk seen >>= some := by
    funext seen
    simp
  rw [hwalk]
  exact hx.bind (hf ▸ tracks_ofExcept b)

/-- the component templates that a context gives, against the walks through them -/
def TracksBelow (s : TemplateSet) (c : Template.Context) (visit : List String → Component → Option (List String))
    (compile : Component → Except TemplateError (Option Template)) : Prop :=
  ∀ k t, compile k = .ok (some t) →
    match c.componentTemplate with
    | none => ∀ seen, visit seen k = none
    | some within => s.Tracks (within k) (some t) (visit · k)

variable {c : Template.Context} {visit : List String → Component → Option (List String)}
variable {compile : Component → Except TemplateError (Option Template)}

theorem openComponent_tracks (h : s.TracksBelow c visit compile) (b : Template.Blocks) {tag : Template.ComponentTag}
    {t : Template} {block : Template.Block} (hcompile : compile tag.component = .ok (some t))
    (hblock : tag.block t = .ok block) :
    s.Tracks (c.openComponent b tag) (b.opened block) (fun seen => visit seen tag.component) := by
  have hbelow := h _ _ hcompile
  unfold Template.Context.openComponent
  cases hc : c.componentTemplate with
  | none =>
    rw [hc] at hbelow
    exact tracks_throw _ _ hbelow
  | some within =>
    rw [hc] at hbelow
    refine hbelow.bind_ok ?_
    dsimp only
    rw [hblock]
    rfl

/-- a token that names a component is a step of the walk, and every other token is none -/
theorem step_tracks (htags : s.tags = Template.builtinTags) {name : String}
    (hread : ∀ b token, c.read b token = (s.reading name).read b token) (h : s.TracksBelow c visit compile)
    {b b' : Template.Blocks} (hb : b.BuiltIn) {token : Template.Token}
    (hstep : (s.reading name).stepFresh compile b token = .ok b') :
    b'.BuiltIn ∧ s.Tracks (c.step b token) b' (fun seen => (s.componentOf? token).toList.foldlM visit seen) := by
  unfold Template.Context.step
  rw [hread]
  rcases Template.Context.stepFresh_eq_ok.1 hstep with hready | ⟨tag, t, block, hcomponent, hcompile, hblock, rfl⟩
  · obtain ⟨hnone, hbuiltIn⟩ := componentOf?_ready htags hb hready
    refine ⟨hbuiltIn, ?_⟩
    rw [hnone, hready]
    exact tracks_ofExcept b'
  · refine ⟨hb.opened (Template.block_builtIn hblock), ?_⟩
    rw [componentOf?_component hcomponent, hcomponent]
    have hvisit : (fun seen => (some tag.component).toList.foldlM visit seen) = (visit · tag.component) := by
      funext seen
      simp
    rw [hvisit]
    exact openComponent_tracks h b hcompile hblock

theorem fold_tracks (htags : s.tags = Template.builtinTags) {name : String}
    (hread : ∀ b token, c.read b token = (s.reading name).read b token) (h : s.TracksBelow c visit compile)
    (tokens : List Template.Token) {b b' : Template.Blocks} (hb : b.BuiltIn)
    (hfold : tokens.foldlM ((s.reading name).stepFresh compile) b = .ok b') :
    s.Tracks (tokens.foldlM c.step b) b' (fun seen => (tokens.filterMap s.componentOf?).foldlM visit seen) := by
  induction tokens generalizing b with
  | nil =>
    cases hfold
    exact tracks_ofExcept b'
  | cons token tokens ih =>
    obtain ⟨b₁, hstep, hfold⟩ := bind_eq_ok.1 hfold
    obtain ⟨hbuiltIn, htracks⟩ := step_tracks htags hread h hb hstep
    have hsteps : (fun seen => ((token :: tokens).filterMap s.componentOf?).foldlM visit seen) = fun seen =>
        (s.componentOf? token).toList.foldlM visit seen >>= (tokens.filterMap s.componentOf?).foldlM visit := by
      funext seen
      rw [List.filterMap_cons]
      cases s.componentOf? token <;> simp
    rw [hsteps, List.foldlM_cons]
    exact htracks.bind (ih hbuiltIn hfold)

theorem compileSource_tracks (htags : s.tags = Template.builtinTags) (name : String) (depth : Nat)
    (componentTemplate : Option (Component → Compile (Option Template)))
    (h : s.TracksBelow (s.context name depth componentTemplate) visit compile) {source : String} {t : Template}
    (ht : s.freshSource name compile source = .ok t) :
    s.Tracks (s.compileSource (s.context name depth componentTemplate) source) t
      (fun seen => (s.uses source).foldlM visit seen) := by
  obtain ⟨tokens, b, b', htokens, hfold, hfinish, rfl⟩ := freshSource_eq_ok.1 ht
  have hread := context_read (noHostTags_of_builtin htags) name depth componentTemplate
  have hfold := fold_tracks htags hread h tokens Template.start_builtIn hfold
  have hlast : (s.context name depth componentTemplate).finish b (Template.endOf (s.preprocess source)) = .ok b' :=
    hfinish
  unfold compileSource uses
  simp only [htokens]
  exact (hfold.bind_ok (congrArg Compile.ofExcept hlast)).bind_ok rfl

theorem Mirrors.insert {seen : List String} {cache : Dict Template} (h : Mirrors seen cache) (path : String)
    (t : Template) : Mirrors (path :: seen) (cache.insert path t) := by
  intro other
  rw [List.mem_cons, h other, Dict.contains, Dict.contains, Dict.get?_insert]
  split_ifs with hother <;> simp [hother]

variable {within : (name source : String) → Compile Template} {walk : List String → String → Option (List String)}
variable {levels : Nat}

/-- a file that is cached is one that was seen, and it holds the template that compiling it would give -/
theorem compileFile_tracks {name source : String} {t : Template}
    (hload : s.loadSource (s.resolveName name) = .ok source)
    (ht : s.fresh levels (s.resolveName name) source = .ok t)
    (h : s.Tracks (within (s.resolveName name) source) t (walk · source)) :
    s.Tracks (s.compileFile within name) t (s.visitFile walk · name) where
  stops cache seen hc hm hstop r hr := by
    unfold visitFile at hstop
    split_ifs at hstop with hseen
    rw [hload] at hstop
    have hnone : cache.get? (s.resolveName name) = none := by
      rw [hm, Dict.contains, Bool.not_eq_true, Option.isSome_eq_false_iff, Option.isNone_iff_eq_none] at hseen
      exact hseen
    rw [compileFile_outcome, hnone, hload] at hr
    dsimp only at hr
    rcases hout : (within (s.resolveName name) source).outcome cache with ⟨e | u, cache'⟩
    · rw [hout] at hr
      cases hr
    · exact h.stops cache seen hc hm (Option.map_eq_none_iff.1 hstop) u (by rw [hout])
  passes cache seen seen' hc hm hpass := by
    unfold visitFile at hpass
    rw [compileFile_outcome]
    split_ifs at hpass with hseen
    · cases hpass
      rw [hm] at hseen
      obtain ⟨u, hu⟩ := Option.isSome_iff_exists.1 hseen
      obtain ⟨source', hload', n, hn⟩ := hc _ _ hu
      rw [hload] at hload'
      cases hload'
      rw [hu, fresh_unique hn ht]
      exact ⟨cache, rfl, hc, hm⟩
    · rw [hm, Dict.contains, Bool.not_eq_true, Option.isSome_eq_false_iff, Option.isNone_iff_eq_none] at hseen
      rw [hload] at hpass
      obtain ⟨inner, hinner, rfl⟩ := Option.map_eq_some_iff.1 hpass
      obtain ⟨cache', hout, hc', hm'⟩ := h.passes cache seen inner hc hm hinner
      rw [hseen, hload]
      dsimp only
      rw [hout]
      exact ⟨_, rfl, hc'.insert hload ht, hm'.insert _ t⟩

theorem compileComponent_tracks {k : Component} {t : Template} (ht : s.freshComponent (s.fresh levels) k = .ok (some t))
    (h : ∀ name source t, s.fresh levels name source = .ok t → s.Tracks (within name source) t (walk · source)) :
    s.Tracks (s.compileComponent within k) (some t) (s.visit walk · k) := by
  rcases freshComponent_eq_ok.1 ht with ⟨path, source, hk, hpath, hload, ht⟩ | ⟨source, hk, hne, ht⟩
  · unfold compileComponent visit
    simp only [hk, if_neg hpath]
    exact (compileFile_tracks hload ht (h _ _ _ ht)).bind_ok rfl
  · unfold compileComponent visit
    simp only [hk, if_neg hne]
    exact (h _ _ _ ht).bind_ok rfl

/-- **A compilation follows the walk.** On a coherent cache, a source that some limit lets through compiles within so
many levels exactly when the walk that has seen the cached files goes through. -/
theorem compileWithin_tracks (htags : s.tags = Template.builtinTags) (levels : Nat) {n : Nat} {name source : String}
    {t : Template} (ht : s.fresh n name source = .ok t) :
    s.Tracks (s.compileWithin levels name source) t (s.walk levels · source) := by
  induction levels generalizing n name source t with
  | zero =>
    rw [fresh_eq] at ht
    have hbelow : s.TracksBelow (s.context name s.options.maxDepth none) (fun _ _ => none) (s.below name n) :=
      fun _ _ _ _ => rfl
    exact compileSource_tracks htags name _ _ hbelow ht
  | succ levels ih =>
    rw [fresh_eq] at ht
    have hbelow : s.TracksBelow (s.context name (s.options.maxDepth - (levels + 1))
        (some (s.compileComponent (s.compileWithin levels)))) (s.visit (s.walk levels)) (s.below name n) := by
      intro k t hk
      cases n with
      | zero => cases hk
      | succ n => exact compileComponent_tracks hk fun name source t => ih
    exact compileSource_tracks htags name _ _ hbelow ht

end TemplateSet

end Templating
