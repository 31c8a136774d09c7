/-
Headless components around content.

The template of a headless component writes its default slot and nothing else, and a slot is markup without white space
at its ends. So content inside of headless uses is written as it would be in a child scope, without white space at its
ends; how many uses there are makes no difference, for trimmed markup stays as it is. The template uses no component
itself, and a use inside of a slot stands at the level of the page, so the uses do not count against the depth limit.

- `render_enclosed`: content inside of headless uses is written trimmed, or fails as it does by itself.
- `wrapped_compiles`: tokens wrapped into headless uses compile to the nodes of the content inside of these uses.
- `headless_transparent`: both, for pages.
-/
import Templating.Proofs.Assignments
import Templating.Proofs.EnclosedContent
import Templating.Proofs.RelatedScopes
import Templating.Proofs.RepeatedExpansion

namespace Templating

open Compile

/-! ## Rendering -/

/-- the text of a rendered slot -/
def slotText (content : String) : String :=
  String.ofList (Text.trim content.toList)

theorem slotText_slotText (content : String) : slotText (slotText content) = slotText content := by
  rw [slotText, slotText, String.toList_ofList, Text.trim_trim]

/-- the nodes of the template of headless components -/
def headlessNodes : List Node :=
  [.output (.var defaultSlot) .start]

/-- nodes inside of uses of headless components, the outermost first -/
def enclose : List ComponentUse → List Node → List Node
  | [], nodes => nodes
  | use :: rest, nodes =>
    [.component use (inlineTemplateName use.name) headlessNodes [(defaultSlot, enclose rest nodes)]]

/-- nothing but its slots matters of the use: no setup, no slot data, and arguments that have values -/
structure ComponentUse.Passes (use : ComponentUse) (scope : Scope) : Prop where
  setup : use.setup = none
  slotData : use.slotData = .nothing
  values : ∀ pair ∈ use.props ++ use.attributes, ∃ v, pair.2.eval scope = .ok v

variable {page : Page} {scope : Scope} {use : ComponentUse}

/-- an expression has the same value in a child scope -/
theorem Expr.eval_child (e : Expr) (scope : Scope) : e.eval scope.child = e.eval scope :=
  e.eval_same fun name _ => Scope.get?_child scope name

theorem ComponentUse.Passes.child (h : use.Passes scope) : use.Passes scope.child where
  setup := h.setup
  slotData := h.slotData
  values pair hpair := by
    rw [Expr.eval_child]
    exact h.values pair hpair

theorem evalPairs_of_values (page : Page) (position : Position) {pairs : List (String × Expr)}
    (h : ∀ pair ∈ pairs, ∃ v, pair.2.eval scope = .ok v) :
    ∃ values, page.evalPairs position scope pairs = .ok values := by
  induction pairs with
  | nil => exact ⟨[], rfl⟩
  | cons pair rest ih =>
    obtain ⟨⟨v, hv⟩, hrest⟩ := List.forall_mem_cons.1 h
    obtain ⟨values, hvalues⟩ := ih hrest
    have heval : page.eval position scope pair.2 = .ok v := by rw [Page.eval, hv]
    exact ⟨(pair.1, v) :: values, bind_eq_ok.2 ⟨v, heval, bind_eq_ok.2 ⟨values, hvalues, rfl⟩⟩⟩

theorem ComponentUse.Passes.data (h : use.Passes scope) (page : Page) : ∃ given, use.data page scope = .ok given := by
  obtain ⟨hprops, hattributes⟩ := List.forall_mem_append.1 h.values
  obtain ⟨props, hprops⟩ := evalPairs_of_values page use.position hprops
  obtain ⟨attributes, hattributes⟩ := evalPairs_of_values page use.position hattributes
  exact ⟨_, bind_eq_ok.2 ⟨props, hprops, bind_eq_ok.2 ⟨attributes, hattributes, rfl⟩⟩⟩

/-- the template writes the slot, whatever else is in the data -/
theorem renderAll_headlessNodes (page : Page) (data : Data) (content out : String) :
    (renderAll page headlessNodes (.root (data.insert defaultSlot (slotValue content))) out).map Prod.snd =
      .ok (out ++ slotText content) := by
  have hslot : (Scope.root (data.insert defaultSlot (slotValue content))).get? defaultSlot =
      some (slotValue content) := by
    simp [Scope.get?, Scope.root, Dict.get?_insert]
  have heval : page.eval .start (.root (data.insert defaultSlot (slotValue content))) (.var defaultSlot) =
      .ok (slotValue content) := by
    simp [Page.eval, Expr.eval, hslot]
  simp only [headlessNodes, renderAll, Node.render, heval]
  rfl

/-- **One headless use** writes the content of its slot as a child scope gives it, trimmed. -/
theorem render_headless (h : use.Passes scope) (template : String) (nodes : List Node) (out : String) :
    (Node.component use template headlessNodes [(defaultSlot, nodes)]).render page scope out =
      (textOf page nodes scope.child).map fun text => (scope, out ++ slotText text) := by
  obtain ⟨given, hgiven⟩ := h.data page
  have hprepared : use.prepared given = .render given := by rw [ComponentUse.prepared, h.setup]
  have hslot : slotScope scope (use.slotData.bindings (page.share scope given)) = scope.child := by
    rw [h.slotData]
    rfl
  rw [Node.render_component, ComponentUse.input, hgiven]
  simp only [bind, Except.bind, hprepared, hslot, renderSlots, textOf]
  cases renderAll page nodes scope.child "" with
  | error e => rfl
  | ok ended =>
    obtain ⟨behind, content⟩ := ended
    have hwritten := renderAll_headlessNodes { page with template } (page.share scope given) content out
    obtain ⟨ended, hok, hout⟩ := map_eq_ok.1 hwritten
    simp only [pure, Except.pure, Except.map, hok, hout]

theorem textOf_output {e : Expr} {v : Value} (h : e.eval scope = .ok v) (position : Position) :
    textOf page [.output e position] scope = .ok v.toHtml := by
  have heval : page.eval position scope e = .ok v := by rw [Page.eval, h]
  simp only [textOf, renderAll_singleton, Node.render, heval, bind, Except.bind, pure, Except.pure, Except.map,
    String.empty_append]

theorem textOf_alike (page : Page) (nodes : List Node) {s₁ s₂ : Scope} (h : s₁.Alike s₂) :
    textOf page nodes s₁ = textOf page nodes s₂ :=
  (renderAll_same (fun node _ => render_alike page node) "" h).text

/-- a child scope inside of another gives what one alone does -/
theorem textOf_child_child (page : Page) (nodes : List Node) (scope : Scope) :
    textOf page nodes scope.child.child = textOf page nodes scope.child :=
  textOf_alike page nodes ⟨rfl, fun name => Scope.get?_child scope.child name⟩

/-- **Content inside of headless uses**, one or more, is written as a child scope gives it, trimmed; or rendering fails
as the content does. -/
theorem render_enclosed {uses : List ComponentUse} (hne : uses ≠ []) (h : ∀ use ∈ uses, use.Passes scope)
    (nodes : List Node) (out : String) :
    renderAll page (enclose uses nodes) scope out =
      (textOf page nodes scope.child).map fun text => (scope, out ++ slotText text) := by
  induction uses generalizing scope out with
  | nil => exact absurd rfl hne
  | cons use rest ih =>
    obtain ⟨huse, hrest⟩ := List.forall_mem_cons.1 h
    rw [enclose, renderAll_singleton, render_headless huse]
    rcases rest with _ | ⟨next, rest⟩
    · rfl
    · -- the uses inside start on the child scope, and what they write is trimmed already
      have hinner := ih (List.cons_ne_nil next rest) (fun use huse => (hrest use huse).child) ""
      rw [textOf_child_child] at hinner
      rw [textOf, hinner]
      cases textOf page nodes scope.child with
      | error e => rfl
      | ok text => simp only [Except.map, String.empty_append, slotText_slotText]

/-! ## The template of headless components -/

/-- a component without a setup that shows nothing but its default slot -/
def Component.Wraps (k : Component) : Prop :=
  k.isHeadless = true ∧ k.setup = none

namespace TemplateSet

variable {s : TemplateSet}

/-- without further passes, the template of headless components is compiled as it is written -/
theorem preprocess_headless (hpasses : s.passes = []) : s.preprocess headlessTemplate = headlessTemplate := by
  have hexpand : ∀ tagPrefix : String, (Markup.expand tagPrefix headlessTemplate).code = headlessTemplate := by
    intro tagPrefix
    have hcut := Markup.isCut_pieces tagPrefix.toList headlessTemplate.toList
    have huntagged : Markup.Untagged (Markup.pieces tagPrefix.toList headlessTemplate.toList) :=
      Markup.untagged_of_not_mem hcut (by rw [Markup.sourceOf_pieces]; decide)
    rw [← String.toList_inj, Markup.toList_expand, Markup.codeOf_untagged huntagged, Markup.sourceOf_pieces]
  unfold preprocess
  rw [hpasses]
  cases s.options.tagPrefix with
  | none => rfl
  | some tagPrefix => exact hexpand tagPrefix

theorem document_headless (c : Template.Context) (position : Position) (cache : Dict Template) :
    (c.document [.output defaultSlot .start] position).outcome cache =
      (.ok { Template.Blocks.start with nodes := headlessNodes }, cache) := by
  rfl

/-- the template of a headless component, at any level -/
theorem compile_headless (hpasses : s.passes = []) (levels : Nat) (name : String) (cache : Dict Template) :
    ∃ t : Template, (s.compileWithin levels name headlessTemplate).outcome cache = (.ok t, cache) ∧ t.name = name ∧
      t.nodes = headlessNodes := by
  have htokens : Template.tokens headlessTemplate = .ok [.output defaultSlot .start] := by decide
  have hsource : ∀ c : Template.Context, (s.compileSource c headlessTemplate).outcome cache =
      (.ok (s.assemble c.template headlessTemplate { Template.Blocks.start with nodes := headlessNodes }), cache) := by
    intro c
    unfold compileSource
    simp only [preprocess_headless hpasses, htokens]
    exact outcome_bind_ok (document_headless c _ cache)
  cases levels with
  | zero => exact ⟨_, hsource _, rfl, rfl⟩
  | succ levels => exact ⟨_, hsource _, rfl, rfl⟩

theorem compileComponent_headless (hpasses : s.passes = []) (levels : Nat) {k : Component} (hk : k.Wraps)
    (cache : Dict Template) :
    ∃ t : Template, (s.compileComponent (s.compileWithin levels) k).outcome cache = (.ok (some t), cache) ∧
      t.name = inlineTemplateName k.name ∧ t.nodes = headlessNodes := by
  obtain ⟨t, ht, hname, hnodes⟩ := compile_headless hpasses levels (inlineTemplateName k.name) cache
  have hinline : k.source = .inline headlessTemplate := by simpa [Component.isHeadless] using hk.1
  refine ⟨t, ?_, hname, hnodes⟩
  unfold compileComponent
  rw [hinline]
  exact outcome_map_ok some ht

end TemplateSet

namespace Template

/-! ## Tokens inside of headless uses -/

/-- a use of a component without slot data: the name of the component, and what is passed to it -/
structure Wrapper where
  name : String
  given : List (String × Expr)

/-- the words of a component tag are those of the use -/
def Wrapper.Written (w : Wrapper) (args : String) : Prop :=
  ∃ words rest, Expr.tokens args.toList = .ok (.str w.name :: words) ∧
    componentArguments.read words = (.ok (.nothing, w.given), rest)

/-- tokens with uses of components around them, the outermost first -/
inductive Wrapped (content : List Token) : List Wrapper → List Token → Prop
  | content : Wrapped content [] content
  | within {w : Wrapper} {ws : List Wrapper} {tokens : List Token} {args args' : String} {position position' : Position}
    (hopen : w.Written args) (hclose : Expr.tokens args'.toList = .ok []) (h : Wrapped content ws tokens) :
    Wrapped content (w :: ws) (.tag "component" args position :: (tokens ++ [.tag "endcomponent" args' position']))

/-- the use comes of these wrappers: it has neither setup nor slot data, and passes nothing that no wrapper does -/
structure Stems (ws : List Wrapper) (use : ComponentUse) : Prop where
  setup : use.setup = none
  slotData : use.slotData = .nothing
  given : ∀ pair ∈ use.props ++ use.attributes, ∃ w ∈ ws, pair ∈ w.given

theorem Stems.mono {ws more : List Wrapper} {use : ComponentUse} (h : Stems ws use) (hsub : ws ⊆ more) :
    Stems more use where
  setup := h.setup
  slotData := h.slotData
  given pair hpair := by
    obtain ⟨w, hw, hgiven⟩ := h.given pair hpair
    exact ⟨w, hsub hw, hgiven⟩

theorem Stems.passes {ws : List Wrapper} {use : ComponentUse} (h : Stems ws use) {scope : Scope}
    (hvalues : ∀ w ∈ ws, ∀ pair ∈ w.given, ∃ v, pair.2.eval scope = .ok v) : use.Passes scope where
  setup := h.setup
  slotData := h.slotData
  values pair hpair := by
    obtain ⟨w, hw, hgiven⟩ := h.given pair hpair
    exact hvalues w hw pair hgiven

theorem useOf_stems {k : Component} (hk : k.setup = none) (t : Template) (position : Position) (w : Wrapper) :
    Stems [w] (useOf k t position .nothing w.given) where
  setup := hk
  slotData := rfl
  given pair hpair := by
    refine ⟨w, List.mem_cons_self, ?_⟩
    rcases List.mem_append.1 hpair with hpair | hpair
    · exact (List.mem_filter.1 hpair).1
    · exact (List.mem_filter.1 hpair).1

/-- the component of every wrapper is known, and its template is there: nothing but the default slot -/
structure Context.Provides (c : Context) (ws : List Wrapper) : Prop where
  tags : KeepsComponents c.tags
  known : ∀ w ∈ ws, ∃ k, c.registry.get? w.name = some k ∧ k.Wraps
  template : ∃ compile, c.componentTemplate = some compile ∧ ∀ k : Component, k.Wraps → ∀ cache, ∃ t : Template,
    (compile k).outcome cache = (.ok (some t), cache) ∧ t.name = inlineTemplateName k.name ∧ t.nodes = headlessNodes

variable {c : Context} {ws : List Wrapper} {w : Wrapper} {around : List Frame} {cache cache' : Dict Template}

/-- the block of a headless use before its slots -/
def headlessBlock (use : ComponentUse) : Block :=
  .component use (inlineTemplateName use.name) headlessNodes []

theorem directly_nil : Directly [] := by
  intro frame hframe
  cases hframe

theorem directly_headless (use : ComponentUse) (outer : List Node) (around : List Frame) :
    Directly (⟨headlessBlock use, outer⟩ :: around) := by
  intro frame hframe
  cases hframe
  rfl

/-- a tag that is no end of a component is read in a component as anywhere -/
theorem step_directly (c : Context) (b : Blocks) (haround : Directly around) {name : String}
    (hname : name ∉ ["slot", "endcomponent"]) (args : String) (position : Position) :
    c.step (b.inside around) (.tag name args position) =
      Blocks.inside around <$> c.step b (.tag name args position) := by
  refine step_inside fun _ hends => ?_
  obtain ⟨other, args', position', htoken, frame, hframe, hends⟩ := hends
  cases htoken
  rw [haround frame hframe] at hends
  exact hname hends

/-- a component tag waits for the template of the component that it names -/
theorem read_opening (htags : KeepsComponents c.tags) {args name : String} {words : List Expr.Token} {k : Component}
    (hwords : Expr.tokens args.toList = .ok (.str name :: words)) (hk : c.registry.get? name = some k)
    (position : Position) :
    ∃ a : Arguments, a.words = words ∧
      c.read .start (.tag "component" args position) = .ok (.component ⟨position, name, k, a⟩) := by
  refine ⟨⟨⟨.str name :: words, 1⟩, ⟨c.template, position⟩⟩, rfl, ?_⟩
  simp only [Context.read, Arguments.ofText, hwords, bind, Except.bind]
  simp only [Context.readTag, Blocks.start, Context.startTag, htags.component, Context.openTag, Context.componentTag,
    Arguments.read_eq, Expr.Cursor.words_start, acceptString_read, Except.mapError, bind, Except.bind, hk]
  rfl

theorem block_opening {a : Arguments} {rest : List Expr.Token} {given : List (String × Expr)} {k : Component}
    {t : Template} (hread : componentArguments.read a.words = (.ok (.nothing, given), rest))
    (hname : t.name = inlineTemplateName k.name) (hnodes : t.nodes = headlessNodes) (position : Position)
    (name : String) :
    ComponentTag.block ⟨position, name, k, a⟩ t = .ok (headlessBlock (useOf k t position .nothing given)) := by
  have hgiven : a.readAll componentArguments = .ok (.nothing, given) := Arguments.readAll_eq_ok.2 ⟨rest, hread⟩
  rw [ComponentTag.block, hgiven, hname, hnodes]
  rfl

/-- the tag of a wrapper opens its block; nothing is cached -/
theorem step_opening (hc : c.Provides ws) (hw : w ∈ ws) {args : String} (hargs : w.Written args) (position : Position)
    (cache : Dict Template) :
    ∃ use, Stems [w] use ∧ (c.step .start (.tag "component" args position)).outcome cache =
      (.ok (Blocks.start.opened (headlessBlock use)), cache) := by
  obtain ⟨words, rest, hwords, hread⟩ := hargs
  obtain ⟨k, hregistry, hk⟩ := hc.known w hw
  obtain ⟨compile, hcompile, htemplate⟩ := hc.template
  obtain ⟨t, ht, hname, hnodes⟩ := htemplate k hk cache
  refine ⟨useOf k t position .nothing w.given, useOf_stems hk.2 t position w, ?_⟩
  obtain ⟨a, rfl, hopening⟩ := read_opening hc.tags hwords hregistry position
  have hopened : (c.openComponent .start ⟨position, w.name, k, a⟩).outcome cache =
      (.ok (Blocks.start.opened (headlessBlock (useOf k t position .nothing w.given))), cache) := by
    simp only [Context.openComponent, hcompile]
    rw [outcome_bind_ok ht]
    simp only [block_opening hread hname hnodes]
    rfl
  unfold Context.step
  rw [hopening]
  exact hopened

/-- the end tag makes a node of the block -/
theorem step_closing (c : Context) (use : ComponentUse) (around : List Frame) (nodes : List Node) (props : List String)
    (fragments : Dict (List Node)) {args : String} (hargs : Expr.tokens args.toList = .ok []) (position : Position)
    (cache : Dict Template) :
    (c.step (Blocks.inside (⟨headlessBlock use, []⟩ :: around) ⟨nodes, [], props, fragments⟩)
        (.tag "endcomponent" args position)).outcome cache =
      (.ok (Blocks.inside around ⟨enclose [use] nodes, [], props, fragments⟩), cache) := by
  have hreading : c.read (Blocks.inside (⟨headlessBlock use, []⟩ :: around) ⟨nodes, [], props, fragments⟩)
      (.tag "endcomponent" args position) =
      .ok (.ready (Blocks.inside around ⟨enclose [use] nodes, [], props, fragments⟩)) := by
    simp only [Context.read, Arguments.ofText, hargs]
    rfl
  unfold Context.step
  rw [hreading]
  rfl

/-- **Wrapped tokens compile** to the nodes of the content inside of headless uses, at the level of the content. -/
theorem wrapped_compiles (hc : c.Provides ws) {content all : List Token} (hwrapped : Wrapped content ws all)
    (haround : Directly around) {b : Blocks} (htop : b.frames = []) (hfree : ¬ DeclaresSlot b.nodes)
    (hcontent : (content.foldlM c.step .start).outcome cache = (.ok b, cache')) :
    ∃ uses, uses.length = ws.length ∧ (∀ use ∈ uses, Stems ws use) ∧
      (all.foldlM c.step (Blocks.start.inside around)).outcome cache =
        (.ok ({ b with nodes := enclose uses b.nodes }.inside around), cache') := by
  obtain ⟨nodes, frames, props, fragments⟩ := b
  cases htop
  induction hwrapped generalizing around with
  | content => exact ⟨[], rfl, by simp, fold_inside hc.tags haround hcontent (mt declares_nil.1 hfree)⟩
  | @within w ws tokens args args' position position' hopen hclose hwrapped ih =>
    have hrest : c.Provides ws := ⟨hc.tags, fun w hw => hc.known w (List.mem_cons_of_mem _ hw), hc.template⟩
    obtain ⟨use, huse, hopening⟩ := step_opening hc List.mem_cons_self hopen position cache
    obtain ⟨uses, hlength, huses, htokens⟩ := ih hrest (directly_headless use [] around)
    refine ⟨use :: uses, by simp [hlength], ?_, ?_⟩
    · refine List.forall_mem_cons.2 ⟨huse.mono (by simp), fun use huse => ?_⟩
      exact (huses use huse).mono (List.subset_cons_self w ws)
    · have hinside : (c.step (Blocks.start.inside around) (.tag "component" args position)).outcome cache =
          (.ok (Blocks.start.inside (⟨headlessBlock use, []⟩ :: around)), cache) := by
        rw [step_directly c .start haround (by decide)]
        exact outcome_map_ok (Blocks.inside around) hopening
      rw [List.foldlM_cons, outcome_bind_ok hinside, List.foldlM_append, outcome_bind_ok htokens, List.foldlM_cons]
      have hclosing := step_closing c use around (enclose uses nodes) props fragments hclose position' cache'
      rw [outcome_bind_ok hclosing]
      rfl

end Template

/-! ## Pages -/

namespace TemplateSet

open Template

/-- what the tags of a page are compiled against -/
def pageContext (s : TemplateSet) (name : String) : Context :=
  s.context name 0
    (match s.options.maxDepth with
    | 0 => none
    | levels + 1 => some (s.compileComponent (s.compileWithin levels)))

theorem compile_eq (s : TemplateSet) (name source : String) :
    s.compile name source = s.compileSource (s.pageContext name) source := by
  unfold compile pageContext
  cases hdepth : s.options.maxDepth with
  | zero => simp only [compileWithin, hdepth]
  | succ levels => simp only [compileWithin, hdepth, Nat.sub_self]

variable {s : TemplateSet}

theorem pageContext_provides (hpasses : s.passes = []) (htags : KeepsComponents s.tags)
    (hdepth : 1 ≤ s.options.maxDepth) (name : String) {ws : List Wrapper}
    (hknown : ∀ w ∈ ws, ∃ k, s.registry.get? w.name = some k ∧ k.Wraps) : (s.pageContext name).Provides ws where
  tags := htags
  known := hknown
  template := by
    obtain ⟨levels, hlevels⟩ : ∃ levels, s.options.maxDepth = levels + 1 := ⟨_, (Nat.succ_pred_eq_of_pos hdepth).symm⟩
    refine ⟨s.compileComponent (s.compileWithin levels), ?_, fun k hk cache =>
      compileComponent_headless hpasses levels hk cache⟩
    unfold pageContext
    rw [hlevels]
    rfl

/-- **Headless components are transparent.** A page that is some content inside of uses of headless components, one or
more, compiles like the content alone. On every scope it writes what the content writes on a child scope, without
white space at the ends, or fails as the content does, and it leaves the scope as it was; an output inside is escaped
once. The depth limit must let the page use components at all; how many uses are nested does not matter. -/
theorem headless_transparent (hpasses : s.passes = []) (htags : KeepsComponents s.tags)
    (hdepth : 1 ≤ s.options.maxDepth) {name source : String} {content all : List Token} {ws : List Wrapper}
    (hne : ws ≠ []) (hknown : ∀ w ∈ ws, ∃ k, s.registry.get? w.name = some k ∧ k.Wraps)
    (hall : tokens (s.preprocess source) = .ok all) (hwrapped : Wrapped content ws all) {b : Blocks}
    {position : Position} {cache' : Dict Template}
    (hcontent : ((s.pageContext name).document content position).outcome s.cache = (.ok b, cache'))
    (hfree : ¬ DeclaresSlot b.nodes) :
    ∃ t : Template, (s.compile name source).outcome s.cache = (.ok t, cache') ∧ t.props = b.props ∧
      t.fragments = b.fragments ∧
      ∀ (scope : Scope) (out : String), (∀ w ∈ ws, ∀ pair ∈ w.given, ∃ v, pair.2.eval scope = .ok v) →
        renderAll t.page t.nodes scope out =
            ((textOf t.page b.nodes scope.child).map fun text => (scope, out ++ slotText text)) ∧
          ∀ e place v, b.nodes = [.output e place] → e.eval scope = .ok v →
            renderAll t.page t.nodes scope out = .ok (scope, out ++ slotText v.toHtml) := by
  obtain ⟨final, between, hfold, hfinish⟩ := outcome_bind_eq_ok.1 hcontent
  obtain ⟨htop, rfl⟩ := finish_eq_ok.1 (outcome_ofExcept_eq_ok.1 hfinish).1
  obtain rfl := (outcome_ofExcept_eq_ok.1 hfinish).2
  obtain ⟨nodes, frames, props, fragments⟩ := final
  cases htop
  have hprovides := pageContext_provides hpasses htags hdepth name hknown
  obtain ⟨uses, hlength, hstems, htokens⟩ := wrapped_compiles hprovides hwrapped directly_nil rfl hfree hfold
  have huses : uses ≠ [] := by
    rintro rfl
    exact hne (List.eq_nil_of_length_eq_zero hlength.symm)
  refine ⟨s.assemble name (s.preprocess source) ⟨enclose uses nodes, [], props, fragments⟩, ?_, rfl, rfl, ?_⟩
  · rw [compile_eq]
    unfold compileSource
    simp only [hall]
    have hdocument : ((s.pageContext name).document all (endOf (s.preprocess source))).outcome s.cache =
        (.ok ⟨enclose uses nodes, [], props, fragments⟩, between) :=
      outcome_bind_eq_ok.2 ⟨_, between, htokens, rfl⟩
    exact outcome_bind_ok hdocument
  · intro scope out hvalues
    have hpasses : ∀ use ∈ uses, use.Passes scope := fun use huse => (hstems use huse).passes hvalues
    have hrender : renderAll ⟨name, s.options.sharedKeys⟩ (enclose uses nodes) scope out =
        (textOf ⟨name, s.options.sharedKeys⟩ nodes scope.child).map fun text => (scope, out ++ slotText text) :=
      render_enclosed huses hpasses nodes out
    refine ⟨hrender, fun e place v hnodes hv => hrender.trans ?_⟩
    cases hnodes
    rw [textOf_output (e.eval_child scope ▸ hv)]
    rfl

/-- a tag of the host that writes a rule -/
def ruleTag : CustomTag :=
  ⟨none, fun _ _ => none, fun _ _ => "<hr>", fun _ _ => ""⟩

/-- a set with two headless components and a tag of the host, in which components nest one level deep and the slot is a
shared variable -/
def wrapSet : TemplateSet :=
  (((new (.memory .empty) ⟨some defaultTagPrefix, none, ["slot"], 1⟩).register (.headless "outer" [] none)).register
    (.headless "inner" ["flag"] none)).registerTag "rule" ruleTag

/-- an output inside of two headless uses -/
def wrapPage : String :=
  "<x-outer><x-inner :flag=\"on\"> \x7b\x7b v \x7d\x7d </x-inner></x-outer>"

/-- the outer use, which passes nothing -/
def outerUse : Wrapper := ⟨"outer", []⟩

/-- the inner use, which passes a flag -/
def innerUse : Wrapper := ⟨"inner", [("flag", .var "on")]⟩

/-- what stands inside of all uses -/
def wrapContent : List Token :=
  [.text " ", .output "v" ⟨67, 0, 67⟩, .text " "]

/-- the nodes of the content -/
def wrapNodes : List Node :=
  [.text " ", .output (.var "v") ⟨67, 0, 67⟩, .text " "]

theorem wrapPage_wrapped :
    ∃ all, tokens (wrapSet.preprocess wrapPage) = .ok all ∧ Wrapped wrapContent [outerUse, innerUse] all := by
  have houter : outerUse.Written "\"outer\"" := ⟨[], [], rfl, rfl⟩
  have hinner : innerUse.Written "\"inner\" withAttrs \"flag\"=on" :=
    ⟨[.ident "withAttrs", .str "flag", .symbol .assign, .ident "on"], [], rfl, rfl⟩
  have hall : tokens (wrapSet.preprocess wrapPage) = .ok
      (.tag "component" "\"outer\"" .start ::
        (.tag "component" "\"inner\" withAttrs \"flag\"=on" ⟨23, 0, 23⟩ ::
          (wrapContent ++ [.tag "endcomponent" "" ⟨75, 0, 75⟩]) ++ [.tag "endcomponent" "" ⟨93, 0, 93⟩])) := by
    decide +kernel
  exact ⟨_, hall, .within houter rfl (.within hinner rfl .content)⟩

theorem wrapSet_known (w : Wrapper) (hw : w ∈ [outerUse, innerUse]) :
    ∃ k, wrapSet.registry.get? w.name = some k ∧ k.Wraps := by
  have houter : ∃ k, wrapSet.registry.get? "outer" = some k ∧ k.Wraps := ⟨_, rfl, rfl, rfl⟩
  have hinner : ∃ k, wrapSet.registry.get? "inner" = some k ∧ k.Wraps := ⟨_, rfl, rfl, rfl⟩
  simp only [List.mem_cons, List.not_mem_nil, or_false] at hw
  rcases hw with rfl | rfl
  · exact houter
  · exact hinner

/-- a scope with a slot of its own -/
def wrapScope : Scope :=
  .root (.ofList [("on", .bool true), ("slot", .str "kept"), ("v", .str "<3>")])

/-- two levels deep, with a limit of one, the output is escaped once and nothing else is written -/
theorem headless_transparent_twice :
    wrapSet.options.maxDepth = 1 ∧ ∃ t : Template,
      (wrapSet.compile "page.html" wrapPage).outcome wrapSet.cache = (.ok t, .empty) ∧
        renderAll t.page t.nodes wrapScope "so: " = .ok (wrapScope, "so: &lt;3&gt;") := by
  obtain ⟨all, hall, hwrapped⟩ := wrapPage_wrapped
  have htags : KeepsComponents wrapSet.tags := builtinTags_keepsComponents.insert (.custom ruleTag) (by decide)
  have hcontent : ((wrapSet.pageContext "page.html").document wrapContent .start).outcome wrapSet.cache =
      (.ok ⟨wrapNodes, [], [], .empty⟩, .empty) := by
    rfl
  have hfree : ¬ DeclaresSlot wrapNodes := by simp [DeclaresSlot, wrapNodes]
  obtain ⟨t, ht, -, -, hrender⟩ := headless_transparent rfl htags (by decide) (List.cons_ne_nil _ _) wrapSet_known hall
    hwrapped hcontent hfree
  have hvalues : ∀ w ∈ [outerUse, innerUse], ∀ pair ∈ w.given, ∃ v, pair.2.eval wrapScope = .ok v := by
    simp [outerUse, innerUse, Expr.eval]
  obtain ⟨hwrites, -⟩ := hrender wrapScope "so: " hvalues
  exact ⟨rfl, t, ht, hwrites.trans rfl⟩

end TemplateSet

end Templating
