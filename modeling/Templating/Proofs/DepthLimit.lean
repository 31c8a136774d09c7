/-
What the depth limit of a template set lets through.

`Chain` follows the uses of components: a template uses a component, whose own template uses another. The walk through
the uses of a source decides whether it compiles, so it is measured against the chains.

- `walk_of_chains`: the walk goes through when no chain is longer than the levels.
- `file_of_long_chain`: a chain that is longer than the levels of a walk that went through leads to a file.
- `obtain_within_depth`: so the limit refuses nothing within it, whatever was compiled before, and what it lets through
  beyond it is reached through files.
- `cached_file_hides_depth`: it does let through more once a file is cached.
-/
import Templating.Proofs.ComponentWalk

namespace Templating

open Compile

namespace TemplateSet

/-! ## Chains -/

/-- the source of a component's own template -/
def componentSource (s : TemplateSet) (c : Component) : Except TemplateError String :=
  match c.source with
  | .file path => s.loadSource (s.resolveName path)
  | .inline source => .ok source

/-- components of which the first is used by the source, and each other one by the template of the one before it -/
inductive Chain (s : TemplateSet) : String → List Component → Prop
  | nil (source : String) : Chain s source []
  | cons {source inner : String} {c : Component} {rest : List Component} (hc : c ∈ s.uses source)
      (hinner : s.componentSource c = .ok inner) (hrest : Chain s inner rest) : Chain s source (c :: rest)

variable {s : TemplateSet} {walk : List String → String → Option (List String)}
variable {compile : Component → Except TemplateError (Option Template)}

/-! ## The walk and the chains -/

theorem compile_of_mem_fold (htags : s.tags = Template.builtinTags) {name : String} {tokens : List Template.Token}
    {b b' : Template.Blocks} (hb : b.BuiltIn) (hfold : tokens.foldlM ((s.reading name).stepFresh compile) b = .ok b')
    {k : Component} (hk : k ∈ tokens.filterMap s.componentOf?) : ∃ u, compile k = .ok (some u) := by
  induction tokens generalizing b with
  | nil => simp at hk
  | cons token tokens ih =>
    obtain ⟨b₁, hstep, hfold⟩ := bind_eq_ok.1 hfold
    rcases Template.Context.stepFresh_eq_ok.1 hstep with hready | ⟨tag, u, block, hcomponent, hcompile, hblock, rfl⟩
    · obtain ⟨hnone, hbuiltIn⟩ := componentOf?_ready htags hb hready
      rw [List.filterMap_cons_none hnone] at hk
      exact ih hbuiltIn hfold hk
    · rw [List.filterMap_cons_some (componentOf?_component hcomponent), List.mem_cons] at hk
      rcases hk with rfl | hk
      · exact ⟨u, hcompile⟩
      · exact ih (hb.opened (Template.block_builtIn hblock)) hfold hk

/-- every component that a source uses has a template when the source compiles -/
theorem compile_of_mem_uses (htags : s.tags = Template.builtinTags) {name source : String} {t : Template}
    (ht : s.freshSource name compile source = .ok t) {k : Component} (hk : k ∈ s.uses source) :
    ∃ u, compile k = .ok (some u) := by
  obtain ⟨tokens, b, b', htokens, hfold, -, -⟩ := freshSource_eq_ok.1 ht
  simp only [uses, htokens] at hk
  exact compile_of_mem_fold htags Template.start_builtIn hfold hk

/-- the source of every component that a source uses is there, and compiles with fewer levels -/
theorem source_of_mem_uses (htags : s.tags = Template.builtinTags) {n : Nat} {name source : String} {t : Template}
    (ht : s.fresh n name source = .ok t) {k : Component} (hk : k ∈ s.uses source) :
    ∃ inner m own u, m < n ∧ s.componentSource k = .ok inner ∧ s.fresh m own inner = .ok u := by
  rw [fresh_eq] at ht
  obtain ⟨u, hu⟩ := compile_of_mem_uses htags ht hk
  cases n with
  | zero => cases hu
  | succ n =>
    rcases freshComponent_eq_ok.1 hu with ⟨path, inner, hsource, -, hload, hinner⟩ | ⟨inner, hsource, -, hinner⟩
    · exact ⟨inner, n, _, u, Nat.lt_succ_self n, by rw [componentSource, hsource]; exact hload, hinner⟩
    · exact ⟨inner, n, _, u, Nat.lt_succ_self n, by rw [componentSource, hsource], hinner⟩

theorem visitFile_isSome {name source : String} (hload : s.loadSource (s.resolveName name) = .ok source)
    (h : ∀ seen, (walk seen source).isSome) (seen : List String) : (s.visitFile walk seen name).isSome := by
  unfold visitFile
  split_ifs
  · rfl
  · rw [hload]
    simpa using h seen

/-- the visit of a component goes through when the walk through its source does -/
theorem visit_isSome {k : Component} {inner : String} (hsource : s.componentSource k = .ok inner)
    (h : ∀ seen, (walk seen inner).isSome) (seen : List String) : (s.visit walk seen k).isSome := by
  unfold componentSource at hsource
  unfold visit
  cases hk : k.source with
  | inline source =>
    rw [hk] at hsource
    cases hsource
    exact h seen
  | file path =>
    rw [hk] at hsource
    exact visitFile_isSome hsource h seen

/-- **Chains within the levels are let through**, whatever has been seen. -/
theorem walk_of_chains (htags : s.tags = Template.builtinTags) {levels n : Nat} {name source : String} {t : Template}
    (ht : s.fresh n name source = .ok t) (hchains : ∀ chain, s.Chain source chain → chain.length ≤ levels)
    (seen : List String) : (s.walk levels seen source).isSome := by
  induction levels generalizing n name source t seen with
  | zero =>
    refine foldlM_isSome (fun k hk _ => ?_) seen
    obtain ⟨inner, -, -, -, -, hinner, -⟩ := source_of_mem_uses htags ht hk
    have hlength := hchains [k] (.cons hk hinner (.nil inner))
    simp at hlength
  | succ levels ih =>
    refine foldlM_isSome (fun k hk seen => ?_) seen
    obtain ⟨inner, m, own, u, -, hinner, hu⟩ := source_of_mem_uses htags ht hk
    refine visit_isSome hinner (fun seen => ih hu (fun chain hchain => ?_) seen) seen
    have hlength := hchains (k :: chain) (.cons hk hinner hchain)
    simp at hlength
    omega

/-- **A chain that is too long leads to a file**, when a walk goes through in spite of it. -/
theorem file_of_long_chain {levels : Nat} {source : String} {chain : List Component} (hchain : s.Chain source chain)
    {seen seen' : List String} (hwalk : s.walk levels seen source = some seen') (hlong : levels < chain.length) :
    ∃ k ∈ chain.take levels, ∃ path, k.source = .file path := by
  induction levels generalizing source chain seen seen' with
  | zero =>
    cases hchain with
    | nil => simp at hlong
    | cons hc hinner hrest =>
      obtain ⟨_, _, h⟩ := exists_of_foldlM hwalk hc
      cases h
  | succ levels ih =>
    cases hchain with
    | nil => simp at hlong
    | @cons _ inner k rest hc hinner hrest =>
      obtain ⟨seen₁, seen₂, hvisit⟩ := exists_of_foldlM hwalk hc
      cases hk : k.source with
      | file path => exact ⟨k, by simp, path, hk⟩
      | inline own =>
        rw [componentSource, hk] at hinner
        cases hinner
        rw [visit, hk] at hvisit
        obtain ⟨k', hmem, hfile⟩ := ih hrest hvisit (by simpa using hlong)
        exact ⟨k', by simp [hmem], hfile⟩

/-! ## The limit of a set -/

/-- the set compiles the request with an empty cache and some limit -/
def Compilable (s : TemplateSet) (request : Request) : Prop :=
  ∃ limit t, ((s.emptied limit).obtain request).1 = .ok t

/-- a compilable request has a source that compiles freshly -/
theorem Compilable.fresh {request : Request} (htags : s.tags = Template.builtinTags) (h : s.Compilable request) :
    ∃ source n t, s.requestSource request = .ok source ∧ s.fresh n (s.requestName request) source = .ok t := by
  obtain ⟨limit, t, ht⟩ := h
  obtain ⟨source, hsource, n, hn⟩ := obtain_fresh (s := s.emptied limit) (noHostTags_of_builtin htags)
    (coherent_empty _) ht
  rw [emptied, fresh_setCache] at hn
  exact ⟨source, n, t, hsource, hn⟩

/-- the walk through what is asked for, with all levels of the set -/
def walkRequest (s : TemplateSet) (seen : List String) : Request → Option (List String)
  | .file name => s.visitFile (s.walk s.options.maxDepth) seen name
  | .text source => s.walk s.options.maxDepth seen source

/-- the compilation behind a request -/
def compileRequest (s : TemplateSet) : Request → Compile Template
  | .file name => s.compileFile s.compile name
  | .text source => s.compile stringTemplateName source

theorem obtain_outcome (s : TemplateSet) (request : Request) :
    (s.obtain request).1 = ((s.compileRequest request).outcome s.cache).1 := by
  cases request <;> rfl

theorem compileRequest_tracks (htags : s.tags = Template.builtinTags) {request : Request} {source : String} {n : Nat}
    {t : Template} (hsource : s.requestSource request = .ok source)
    (ht : s.fresh n (s.requestName request) source = .ok t) :
    s.Tracks (s.compileRequest request) t (s.walkRequest · request) := by
  cases request with
  | file name => exact compileFile_tracks hsource ht (compileWithin_tracks htags _ ht)
  | text text =>
    cases hsource
    exact compileWithin_tracks htags _ ht

/-- what a set gives for a request follows the walk that has seen the files of its cache -/
theorem obtain_eq_ok_iff (htags : s.tags = Template.builtinTags) (hs : s.Coherent s.cache) {request : Request}
    (h : s.Compilable request) :
    (∃ t, (s.obtain request).1 = .ok t) ↔ (s.walkRequest s.cache.keys request).isSome = true := by
  obtain ⟨source, n, t, hsource, ht⟩ := h.fresh htags
  have htracks := compileRequest_tracks htags hsource ht
  have hm : Mirrors s.cache.keys s.cache := fun path => Dict.mem_keys
  rw [obtain_outcome]
  cases hwalk : s.walkRequest s.cache.keys request with
  | none =>
    have hstops := htracks.stops _ _ hs hm hwalk
    simpa using hstops
  | some seen =>
    obtain ⟨cache, hout, -, -⟩ := htracks.passes _ _ _ hs hm hwalk
    rw [hout]
    simp

theorem walkRequest_of_chains (htags : s.tags = Template.builtinTags) {request : Request} {source : String} {n : Nat}
    {t : Template} (hsource : s.requestSource request = .ok source)
    (ht : s.fresh n (s.requestName request) source = .ok t)
    (hchains : ∀ chain, s.Chain source chain → chain.length ≤ s.options.maxDepth) (seen : List String) :
    (s.walkRequest seen request).isSome = true := by
  have hwalk := walk_of_chains htags ht hchains
  cases request with
  | file name =>
    change s.loadSource (s.resolveName name) = .ok source at hsource
    exact visitFile_isSome hsource hwalk seen
  | text text =>
    cases hsource
    exact hwalk seen

theorem file_of_long_request {request : Request} {source : String} (hsource : s.requestSource request = .ok source)
    {seen seen' : List String} (hnew : ∀ name, request = .file name → s.resolveName name ∉ seen)
    (hwalk : s.walkRequest seen request = some seen') {chain : List Component} (hchain : s.Chain source chain)
    (hlong : s.options.maxDepth < chain.length) :
    ∃ k ∈ chain.take s.options.maxDepth, ∃ path, k.source = .file path := by
  cases request with
  | file name =>
    change s.loadSource (s.resolveName name) = .ok source at hsource
    simp only [walkRequest, visitFile, if_neg (hnew name rfl), hsource] at hwalk
    obtain ⟨inner, hinner, -⟩ := Option.map_eq_some_iff.1 hwalk
    exact file_of_long_chain hchain hinner hlong
  | text text =>
    cases hsource
    exact file_of_long_chain hchain hwalk hlong

/-- **What the depth limit lets through.** After any operations on a new set, a request that some limit lets through is
given exactly when the walk goes through that knows the files of the cache. So it is given, whatever was compiled
before, when no chain of component uses in it is longer than the limit; and when it is given and not cached itself,
every chain that is longer leads to the file of a component within the limit. -/
theorem obtain_within_depth (loader : Loader) (options : Options) (ops : List Operation) (request : Request) :
    let s := (new loader options).after ops
    s.Compilable request →
    ((∃ t, (s.obtain request).1 = .ok t) ↔ (s.walkRequest s.cache.keys request).isSome = true) ∧
    ∀ source, s.requestSource request = .ok source →
      ((∀ chain, s.Chain source chain → chain.length ≤ s.options.maxDepth) → ∃ t, (s.obtain request).1 = .ok t) ∧
      ((∃ t, (s.obtain request).1 = .ok t) →
        (∀ name, request = .file name → s.cache.contains (s.resolveName name) = false) →
        ∀ chain, s.Chain source chain → s.options.maxDepth < chain.length →
          ∃ k ∈ chain.take s.options.maxDepth, ∃ path, k.source = .file path) := by
  intro s h
  have htags : s.tags = Template.builtinTags := Operation.after_tags _ ops
  have hs : s.Coherent s.cache := new_after_coherent loader options ops
  have hiff := obtain_eq_ok_iff htags hs h
  refine ⟨hiff, fun source hsource => ⟨fun hchains => ?_, fun hgiven hnew chain hchain hlong => ?_⟩⟩
  · obtain ⟨source', n, t, hsource', ht⟩ := h.fresh htags
    rw [hsource] at hsource'
    cases hsource'
    exact hiff.2 (walkRequest_of_chains htags hsource ht hchains _)
  · obtain ⟨seen, hseen⟩ := Option.isSome_iff_exists.1 (hiff.1 hgiven)
    refine file_of_long_request hsource (fun name hname => ?_) hseen hchain hlong
    rw [Dict.mem_keys, hnew name hname]
    exact Bool.false_ne_true

/-- one level of component templates, and no component markup -/
def oneLevel : Options :=
  { Options.standard with tagPrefix := none, maxDepth := 1 }

/-- a file that uses a component -/
def outerSource : String := "\x7b% component \"inner\" %\x7d\x7b% endcomponent %\x7d"

/-- the loader of that file -/
def outerLoader : Loader := .memory (.ofList [("outer.html", outerSource)])

/-- a component that comes from that file and the one that it uses are registered, and the file is compiled -/
def compileOuter : List Operation :=
  [.register ⟨"outer", .file "outer.html", [], none⟩, .register ⟨"inner", .inline "x", [], none⟩,
    .obtain (.file "outer")]

/-- a page two levels above the last component -/
def nestedPage : String := "\x7b% component \"outer\" %\x7d\x7b% endcomponent %\x7d"

/-- a set that has compiled the file between the page and the last component -/
def warmSet : TemplateSet :=
  (new outerLoader oneLevel).after compileOuter

theorem warmSet_maxDepth : warmSet.options.maxDepth = 1 := by
  rw [warmSet, Operation.after_options]
  rfl

theorem warmSet_compilable : warmSet.Compilable (.text nestedPage) :=
  ⟨2, exists_eq_ok_of_isOk (by decide +kernel)⟩

theorem obtain_within_depth_warmSet :
    warmSet.Compilable (.text nestedPage) ∧ (∃ t, (warmSet.obtain (.text nestedPage)).1 = .ok t) ∧
      ∀ chain, warmSet.Chain nestedPage chain → warmSet.options.maxDepth < chain.length →
        ∃ k ∈ chain.take warmSet.options.maxDepth, ∃ path, k.source = .file path := by
  obtain ⟨hiff, hsource⟩ := obtain_within_depth outerLoader oneLevel compileOuter (.text nestedPage) warmSet_compilable
  have hgiven : ∃ t, (warmSet.obtain (.text nestedPage)).1 = .ok t := hiff.2 (by decide +kernel)
  have hnew : ∀ name, .text nestedPage = Request.file name →
      warmSet.cache.contains (warmSet.resolveName name) = false := fun name hname => nomatch hname
  exact ⟨warmSet_compilable, hgiven, (hsource nestedPage rfl).2 hgiven hnew⟩

/-- **A cached file hides how deep it is**: one that was compiled as a page is let through at the limit, with the
components that it uses. -/
theorem cached_file_hides_depth :
    ¬ ∀ (loader : Loader) (options : Options) (ops : List Operation) (request : Request),
      let s := (new loader options).after ops
      s.Compilable request → ((∃ t, (s.obtain request).1 = .ok t) ↔
        ∀ source, s.requestSource request = .ok source → ∀ chain, s.Chain source chain →
          chain.length ≤ s.options.maxDepth) := by
  intro h
  have hgiven : ∃ t, (warmSet.obtain (.text nestedPage)).1 = .ok t := exists_eq_ok_of_isOk (by decide +kernel)
  have hchains := (h outerLoader oneLevel compileOuter (.text nestedPage) warmSet_compilable).1 hgiven
  obtain ⟨outer, houter, hfile⟩ :
      ∃ k ∈ warmSet.uses nestedPage, (warmSet.componentSource k).toOption = some outerSource := by decide +kernel
  obtain ⟨inner, hinner, hinline⟩ :
      ∃ k ∈ warmSet.uses outerSource, (warmSet.componentSource k).toOption = some "x" := by decide +kernel
  have hchain : warmSet.Chain nestedPage [outer, inner] :=
    .cons houter (eq_ok_of_toOption hfile) (.cons hinner (eq_ok_of_toOption hinline) (.nil "x"))
  have hlength : [outer, inner].length ≤ warmSet.options.maxDepth := hchains nestedPage rfl _ hchain
  rw [warmSet_maxDepth] at hlength
  simp at hlength

end TemplateSet

end Templating
