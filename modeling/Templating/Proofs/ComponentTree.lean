/-
Where the component nodes of compiled templates come from.

`TemplateSet.FromTags`: a component node is what a component tag of a source gives, with the template of a registered
component, and its slots are those of the `slot` tags behind it, in the order of the source, and the default slot. A
block that is open is as good as the node that it would be if it ended at once, so every token keeps what is there that
way, whatever tags the host adds.

- `Compile.Keeps`: a compilation that keeps what holds of the cache, and gives something that satisfies a property.
- `TemplateSet.step_keeps`, `TemplateSet.compileWithin_keeps`: one more token, and by induction a source.
- `TemplateSet.Reached.fromTags`: the templates that a set gives, in any state.
-/
import Mathlib.Data.List.Forall2
import Mathlib.Logic.Relation
import Templating.Proofs.CacheCoherence
import Templating.Proofs.Written

namespace Templating

/-! ## nodes below a node -/

namespace Node

/-- a node that stands in another, which may be itself; component templates are looked into -/
def Below (root node : Node) : Prop :=
  Relation.ReflTransGen (fun parent child => child ∈ parent.children true) root node

/-- every node that stands in another has the property -/
def Every (P : Node → Prop) (root : Node) : Prop :=
  ∀ node, root.Below node → P node

variable {P Q : Node → Prop}

theorem every_iff {root : Node} : root.Every P ↔ P root ∧ ∀ child ∈ root.children true, child.Every P := by
  constructor
  · intro h
    exact ⟨h root .refl, fun child hchild node hnode => h node (.head hchild hnode)⟩
  · rintro ⟨hroot, hchildren⟩ node hnode
    rcases Relation.ReflTransGen.cases_head hnode with rfl | ⟨child, hchild, hnode⟩
    · exact hroot
    · exact hchildren child hchild node hnode

theorem Every.mono (hPQ : ∀ node, P node → Q node) {root : Node} (h : root.Every P) : root.Every Q :=
  fun node hnode => hPQ node (h node hnode)

end Node

/-! ## component nodes of a source -/

namespace Template

/-- a tag inside of a component that starts the slot of the name -/
def Opens (token : Token) (name : String) : Prop :=
  ∃ args position rest, token = .tag "slot" args position ∧ Expr.tokens args.toList = .ok (.str name :: rest)

end Template

namespace TemplateSet

/-- the name of the template of a component -/
def templateName (s : TemplateSet) (c : Component) : String :=
  match c.source with
  | .file path => s.resolveName path
  | .inline _ => inlineTemplateName c.name

/-- a use of a component is what a tag gives that names the component, with the template of the component -/
def UseFromTag (s : TemplateSet) (opening : Template.Token) (use : ComponentUse) (template : String)
    (body : List Node) : Prop :=
  ∃ (word args : String) (tag : Template.ComponentTag) (t : Template) (slotData : SlotData)
    (given : List (String × Expr)),
    opening = .tag word args tag.position ∧ Expr.tokens args.toList = .ok (.str tag.name :: tag.arguments.words) ∧
    s.registry.get? tag.name = some tag.component ∧
    tag.arguments.readAll Template.componentArguments = .ok (slotData, given) ∧
    use = Template.useOf tag.component t tag.position slotData given ∧
    t.name = s.templateName tag.component ∧ template = t.name ∧ body = t.nodes

/-- a component node is what a component tag among the tokens gives; its slots are those of `slot` tags behind it, in
their order, and the default slot -/
def FromTags (s : TemplateSet) (tokens : List Template.Token) : Node → Prop
  | .component use template body slots =>
    ∃ opening starts named content, s.UseFromTag opening use template body ∧ (opening :: starts).Sublist tokens ∧
      List.Forall₂ Template.Opens starts (named.map (·.1)) ∧ slots = named ++ [(defaultSlot, content)]
  | _ => True

/-- a node of a compiled template: it comes from the tokens so far, or from those of a source of which it is part -/
def Sourced (s : TemplateSet) (read : List Template.Token) (node : Node) : Prop :=
  s.FromTags read node ∨ ∃ source tokens, Template.tokens (s.preprocess source) = .ok tokens ∧ s.FromTags tokens node

/-- a node that comes from the tokens so far, with everything that stands in it -/
structure Grown (s : TemplateSet) (read : List Template.Token) (node : Node) : Prop where
  self : s.FromTags read node
  children : ∀ child ∈ node.children true, child.Every (s.Sourced read)

variable {s : TemplateSet} {read more : List Template.Token}

theorem FromTags.append {node : Node} (h : s.FromTags read node) : s.FromTags (read ++ more) node := by
  cases node with
  | component use template body slots =>
    obtain ⟨opening, starts, named, content, huse, hsub, hstarts, hslots⟩ := h
    exact ⟨opening, starts, named, content, huse, hsub.trans (List.sublist_append_left read more), hstarts, hslots⟩
  | _ => trivial

theorem Sourced.append {node : Node} (h : s.Sourced read node) : s.Sourced (read ++ more) node :=
  h.imp_left FromTags.append

theorem Grown.append {node : Node} (h : s.Grown read node) : s.Grown (read ++ more) node where
  self := h.self.append
  children child hchild := (h.children child hchild).mono fun _ => Sourced.append

theorem Grown.every {node : Node} (h : s.Grown read node) : node.Every (s.Sourced read) :=
  Node.every_iff.2 ⟨.inl h.self, h.children⟩

theorem fromTags_component {use : ComponentUse} {template : String} {body : List Node}
    {named : List (String × List Node)} {content : List Node} :
    s.FromTags read (.component use template body (named ++ [(defaultSlot, content)])) ↔
      ∃ opening starts, s.UseFromTag opening use template body ∧ (opening :: starts).Sublist read ∧
        List.Forall₂ Template.Opens starts (named.map (·.1)) := by
  constructor
  · rintro ⟨opening, starts, named', content', huse, hsub, hstarts, hslots⟩
    obtain ⟨rfl, -⟩ := List.append_inj' hslots rfl
    exact ⟨opening, starts, huse, hsub, hstarts⟩
  · rintro ⟨opening, starts, huse, hsub, hstarts⟩
    exact ⟨opening, starts, named, content, huse, hsub, hstarts, rfl⟩

end TemplateSet

open TemplateSet

/-! ## open blocks -/

namespace Template

variable {s : TemplateSet} {read more : List Token}

/-- the block comes from the tokens as far as it goes -/
def Block.Grown (s : TemplateSet) (read : List Token) (block : Block) : Prop :=
  s.Grown read (block.closed [])

/-- an open block is as good as the node that it would be if it ended at once -/
theorem closed_grown (block : Block) (nodes : List Node) :
    s.Grown read (block.closed nodes) ↔ block.Grown s read ∧ ∀ node ∈ nodes, node.Every (s.Sourced read) := by
  have hself : s.FromTags read (block.closed nodes) ↔ s.FromTags read (block.closed []) := by
    cases block with
    | component use template body slots => simp only [Block.closed, fromTags_component]
    | namedSlot use template body slots name content =>
      have hsplit : ∀ nodes : List Node, slots ++ [(name, nodes), (defaultSlot, content)] =
          (slots ++ [(name, nodes)]) ++ [(defaultSlot, content)] := fun nodes => by simp
      simp only [Block.closed, hsplit, fromTags_component, List.map_append, List.map_cons, List.map_nil]
    | _ => exact Iff.rfl
  have hchildren : ∀ child, child ∈ (block.closed nodes).children true ↔
      child ∈ (block.closed []).children true ∨ child ∈ nodes := by
    intro child
    cases block <;> simp [Block.closed, Node.children] <;> grind
  constructor
  · intro h
    exact ⟨⟨hself.1 h.self, fun child hchild => h.children child ((hchildren child).2 (.inl hchild))⟩,
      fun node hnode => h.children node ((hchildren node).2 (.inr hnode))⟩
  · rintro ⟨hblock, hnodes⟩
    exact ⟨hself.2 hblock.self, fun child hchild => ((hchildren child).1 hchild).elim (hblock.children child)
      (hnodes child)⟩

/-- what an end tag makes of a block comes from the tokens -/
def Closing.Grown (s : TemplateSet) (read : List Token) : Closing → Prop
  | .resumed block nodes => block.Grown s read ∧ ∀ node ∈ nodes, node.Every (s.Sourced read)
  | .complete node _ => s.Grown read node

theorem readAll_acceptString {arguments : Arguments} {name : String}
    (h : arguments.readAll Expr.acceptString = .ok (some name)) : ∃ rest, arguments.words = .str name :: rest := by
  obtain ⟨rest, hread⟩ := Arguments.readAll_eq_ok.1 h
  exact ⟨rest, acceptString_some hread⟩

theorem finish_grown {block : Block} {tag args : String} (position : Position) {arguments : Arguments}
    {nodes : List Node} {closing : Closing} (h : block.finish tag arguments nodes = .ok closing)
    (hends : tag ∈ block.ends) (hargs : Expr.tokens args.toList = .ok arguments.words) (hblock : block.Grown s read)
    (hnodes : ∀ node ∈ nodes, node.Every (s.Sourced read)) :
    closing.Grown s (read ++ [.tag tag args position]) := by
  have hclosed : s.Grown (read ++ [.tag tag args position]) (block.closed nodes) :=
    ((closed_grown block nodes).2 ⟨hblock, hnodes⟩).append
  cases block with
  | arm position' done condition =>
    simp only [Block.finish] at h
    split_ifs at h
    · obtain ⟨next, -, h⟩ := bind_eq_ok.1 h
      cases h
      refine ⟨⟨trivial, fun child hchild => ?_⟩, by simp⟩
      exact hclosed.children child (by simpa [Block.closed, Node.children] using hchild)
    · obtain ⟨_, -, h⟩ := bind_eq_ok.1 h
      cases h
      exact ⟨hclosed, by simp⟩
    · obtain ⟨_, -, h⟩ := bind_eq_ok.1 h
      cases h
      exact hclosed
  | loop position' head =>
    obtain ⟨_, -, h⟩ := bind_eq_ok.1 h
    split_ifs at h <;> cases h
    · exact ⟨hclosed, by simp⟩
    · exact hclosed
  | component use template body slots =>
    simp only [Block.finish] at h
    split_ifs at h with hend
    · obtain ⟨_, -, h⟩ := bind_eq_ok.1 h
      cases h
      exact hclosed
    · obtain ⟨name, hname, h⟩ := bind_eq_ok.1 h
      cases name with
      | none => cases h
      | some name =>
        cases h
        -- the tag is one more start of a slot, behind those that the block has seen
        obtain rfl : tag = "slot" := by simpa [Block.ends, hend] using hends
        obtain ⟨rest, hwords⟩ := readAll_acceptString hname
        obtain ⟨opening, starts, huse, hsub, hstarts⟩ := fromTags_component.1 hblock.self
        have hstart : Opens (.tag "slot" args position) name := ⟨args, position, rest, rfl, by rw [hargs, hwords]⟩
        have hall : List.Forall₂ Opens (starts ++ [.tag "slot" args position]) (slots.map (·.1) ++ [name]) :=
          List.rel_append hstarts (.cons hstart .nil)
        have hself : s.FromTags (read ++ [.tag "slot" args position])
            (.component use template body ((slots ++ [(name, [])]) ++ [(defaultSlot, nodes)])) :=
          fromTags_component.2 ⟨opening, _, huse, hsub.append (List.Sublist.refl _), by simpa using hall⟩
        refine ⟨⟨by simpa [Block.closed] using hself, fun child hchild => ?_⟩, by simp⟩
        exact hclosed.children child (by simpa [Block.closed, Node.children] using hchild)
  | namedSlot use template body slots name content =>
    obtain ⟨_, -, h⟩ := bind_eq_ok.1 h
    cases h
    have hsame : (Block.namedSlot use template body slots name content).closed nodes =
        (Block.component use template body (slots ++ [(name, nodes)])).closed content := by simp [Block.closed]
    rw [hsame, closed_grown] at hclosed
    exact hclosed
  | otherwise | loopEmpty | outlet | fragment =>
    obtain ⟨_, -, h⟩ := bind_eq_ok.1 h
    cases h
    exact hclosed
  | custom host use closing =>
    cases h
    exact hclosed

/-! ## tokens -/

/-- what is there of a template comes from the tokens -/
structure Blocks.Grown (s : TemplateSet) (read : List Token) (b : Blocks) : Prop where
  nodes : ∀ node ∈ b.nodes, node.Every (s.Sourced read)
  frames : ∀ frame ∈ b.frames, frame.block.Grown s read ∧ ∀ node ∈ frame.outer, node.Every (s.Sourced read)

namespace Blocks.Grown

variable {b : Blocks}

theorem append (hb : b.Grown s read) (more : List Token) : b.Grown s (read ++ more) where
  nodes node hnode := (hb.nodes node hnode).mono fun _ => Sourced.append
  frames frame hframe :=
    ⟨(hb.frames frame hframe).1.append, fun node hnode => ((hb.frames frame hframe).2 node hnode).mono fun _ =>
      Sourced.append⟩

theorem push (hb : b.Grown s read) {node : Node} (h : node.Every (s.Sourced read)) : (b.push node).Grown s read where
  nodes := by simpa [Blocks.push, or_imp, forall_and] using ⟨hb.nodes, h⟩
  frames := hb.frames

theorem opened (hb : b.Grown s read) {block : Block} (h : block.Grown s read) : (b.opened block).Grown s read where
  nodes := by simp [Blocks.opened]
  frames := List.forall_mem_cons.2 ⟨⟨h, hb.nodes⟩, hb.frames⟩

end Blocks.Grown

theorem start_grown : Blocks.start.Grown s [] := ⟨by simp [Blocks.start], by simp [Blocks.start]⟩

theorem close_grown {b b' : Blocks} (hb : b.Grown s read) {frame : Frame} {outer : List Frame}
    (hframes : b.frames = frame :: outer) {tag args : String} {position : Position} {arguments : Arguments}
    (hends : tag ∈ frame.block.ends) (hargs : Expr.tokens args.toList = .ok arguments.words)
    (h : b.close frame outer tag arguments = .ok b') : b'.Grown s (read ++ [.tag tag args position]) := by
  have hmore := (hb.append [.tag tag args position]).frames
  have hframe := hb.frames frame (by simp [hframes])
  rw [hframes, List.forall_mem_cons] at hmore
  obtain ⟨⟨-, hbefore⟩, houter⟩ := hmore
  obtain ⟨closing, hclosing, h⟩ := bind_eq_ok.1 h
  have hgrown := finish_grown position hclosing hends hargs hframe.1 hb.nodes
  cases closing with
  | resumed next kept =>
    cases h
    exact ⟨hgrown.2, List.forall_mem_cons.2 ⟨⟨hgrown.1, hbefore⟩, houter⟩⟩
  | complete node fragment =>
    cases h
    exact ⟨by simpa [or_imp, forall_and] using ⟨hbefore, hgrown.every⟩, houter⟩

/-- a block without nodes that is not one of a component -/
theorem grown_leaf {node : Node} (hself : s.FromTags read node) (hleaf : node.children true = []) :
    s.Grown read node :=
  ⟨hself, by simp [hleaf]⟩

/-- a tag that starts something else than a component gives no component node -/
theorem openTag_grown {c : Context} {b b' : Blocks} (hb : b.Grown s read) {tag : Tag} {position : Position}
    {arguments : Arguments} (h : c.openTag b tag position arguments = .ok (.ready b')) : b'.Grown s read := by
  cases tag with
  | component =>
    obtain ⟨tag, -, h⟩ := map_eq_ok.1 h
    cases h
  | custom host =>
    obtain ⟨b'', h, hb''⟩ := map_eq_ok.1 h
    cases hb''
    unfold Context.customTag at h
    dsimp only at h
    cases hrefusal : host.refusal ⟨c.template, c.depth⟩ arguments.count with
    | some message => simp [hrefusal] at h
    | none =>
      cases hclosing : host.closing with
      | some closing =>
        simp only [hrefusal, hclosing, Except.ok.injEq] at h
        subst h
        exact hb.opened (grown_leaf trivial rfl)
      | none =>
        simp only [hrefusal, hclosing, Except.ok.injEq] at h
        subst h
        exact hb.push (Grown.every (grown_leaf trivial rfl))
  | conditional | loop | outlet =>
    obtain ⟨_, -, h⟩ := bind_eq_ok.1 h
    cases h
    exact hb.opened (grown_leaf trivial rfl)
  | assign =>
    obtain ⟨_, -, h⟩ := bind_eq_ok.1 h
    cases h
    exact hb.push (Grown.every (grown_leaf trivial rfl))
  | props =>
    obtain ⟨list, -, h⟩ := bind_eq_ok.1 h
    have hnode : ∀ defaults, (Node.defaults position defaults).Every (s.Sourced read) := fun _ =>
      Grown.every (grown_leaf trivial rfl)
    cases h
    exact ⟨(hb.push (hnode _)).nodes, hb.frames⟩
  | fragment =>
    obtain ⟨name, -, h⟩ := bind_eq_ok.1 h
    cases name <;> cases h
    exact hb.opened (grown_leaf trivial rfl)

/-- a token that is read at once keeps what is there -/
theorem read_grown {c : Context} {b b' : Blocks} (hb : b.Grown s read) {token : Token}
    (h : c.read b token = .ok (.ready b')) : b'.Grown s (read ++ [token]) := by
  cases token with
  | text text =>
    cases h
    exact (hb.append _).push (Grown.every (grown_leaf trivial rfl))
  | output expr position =>
    obtain ⟨arguments, -, h⟩ := bind_eq_ok.1 h
    obtain ⟨e, -, h⟩ := bind_eq_ok.1 h
    cases h
    exact (hb.append _).push (Grown.every (grown_leaf trivial rfl))
  | tag name args position =>
    obtain ⟨arguments, harguments, h⟩ := bind_eq_ok.1 h
    rcases readTag_cases h with ⟨frame, outer, b'', hframes, hends, hclose, hb''⟩ | ⟨tag, -, h⟩
    · cases hb''
      exact close_grown hb hframes hends (ofText_words harguments) hclose
    · exact openTag_grown (hb.append _) h

/-- the block of a component tag, whose template comes from a source of its own -/
theorem block_grown {c : Context} {b : Blocks} {token : Token} {tag : ComponentTag} {t : Template} {block : Block}
    (hregistry : c.registry = s.registry) (hread : c.read b token = .ok (.component tag))
    (hname : t.name = s.templateName tag.component) (h : tag.block t = .ok block)
    (ht : ∀ node ∈ t.nodes, node.Every (s.Sourced [])) : block.Grown s (read ++ [token]) := by
  obtain ⟨word, args, rfl, -, hargs, hcomponent⟩ := read_component hread
  obtain ⟨⟨slotData, given⟩, hgiven, h⟩ := bind_eq_ok.1 h
  cases h
  have huse : s.UseFromTag (.tag word args tag.position) (useOf tag.component t tag.position slotData given) t.name
      t.nodes :=
    ⟨word, args, tag, t, slotData, given, rfl, hargs, hregistry ▸ hcomponent, hgiven, rfl, hname, rfl, rfl⟩
  have hself : s.FromTags (read ++ [.tag word args tag.position])
      (.component (useOf tag.component t tag.position slotData given) t.name t.nodes ([] ++ [(defaultSlot, [])])) :=
    fromTags_component.2 ⟨_, [], huse, List.sublist_append_right _ _, .nil⟩
  refine ⟨hself, fun child hchild => ?_⟩
  have hmem : child ∈ t.nodes := by simpa [Block.closed, Node.children] using hchild
  exact (ht child hmem).mono fun node hnode => (hnode.append : s.Sourced ([] ++ (read ++ _)) node)

end Template

/-! ## compilations -/

namespace Compile

variable {α β : Type} {K : Dict Template → Prop}

/-- on a cache of which `K` holds, the compilation leaves one of which it does, and what it gives satisfies `Q` -/
def Keeps (K : Dict Template → Prop) (Q : α → Prop) (x : Compile α) : Prop :=
  ∀ cache, K cache → K (x.outcome cache).2 ∧ ∀ a, (x.outcome cache).1 = .ok a → Q a

theorem keeps_ofExcept {Q : α → Prop} {e : Except TemplateError α} (h : ∀ a, e = .ok a → Q a) :
    Keeps K Q (ofExcept e) :=
  fun _ hcache => ⟨hcache, h⟩

theorem keeps_throw {Q : α → Prop} (e : TemplateError) : Keeps K Q (throw e) :=
  fun _ hcache => ⟨hcache, fun _ h => nomatch h⟩

theorem keeps_pure {Q : α → Prop} {a : α} (h : Q a) : Keeps K Q (pure a) :=
  fun _ hcache => ⟨hcache, fun b hb => by cases hb; exact h⟩

theorem Keeps.bind {Q : α → Prop} {R : β → Prop} {x : Compile α} {f : α → Compile β} (hx : Keeps K Q x)
    (hf : ∀ a, Q a → Keeps K R (f a)) : Keeps K R (x >>= f) := by
  intro cache hcache
  have h := hx cache hcache
  rw [outcome_bind]
  rcases hout : x.outcome cache with ⟨e | a, cache'⟩ <;> rw [hout] at h
  · exact ⟨h.1, fun b hb => nomatch hb⟩
  · exact hf a (h.2 a rfl) cache' h.1

end Compile

open Compile

namespace TemplateSet

/-- the template goes by the name, and its component nodes come from tags -/
def GrownAs (s : TemplateSet) (name : String) (t : Template) : Prop :=
  t.name = name ∧ ∀ node ∈ t.nodes, node.Every (s.Sourced [])

/-- the templates of the cache go by their paths, and their component nodes come from tags -/
def CacheGrown (s : TemplateSet) (cache : Dict Template) : Prop :=
  ∀ path t, cache.get? path = some t → s.GrownAs path t

variable {s : TemplateSet} {c : Template.Context} {compile : (name source : String) → Compile Template}

/-- the context reads against the registry of the set, and its component templates come from tags -/
structure Fits (s : TemplateSet) (c : Template.Context) : Prop where
  registry : c.registry = s.registry
  templates : ∀ compile, c.componentTemplate = some compile → ∀ k,
    Keeps s.CacheGrown (fun t? => ∀ t ∈ t?, s.GrownAs (s.templateName k) t) (compile k)

theorem step_keeps (hc : s.Fits c) {b : Template.Blocks} {read : List Template.Token} (hb : b.Grown s read)
    (token : Template.Token) : Keeps s.CacheGrown (·.Grown s (read ++ [token])) (c.step b token) := by
  unfold Template.Context.step
  have hread : Keeps s.CacheGrown (fun reading => c.read b token = .ok reading) (Compile.ofExcept (c.read b token)) :=
    keeps_ofExcept fun _ h => h
  refine hread.bind fun reading hreading => ?_
  cases reading with
  | ready b' => exact keeps_pure (Template.read_grown hb hreading)
  | component tag =>
    dsimp only
    unfold Template.Context.openComponent
    cases hcompile : c.componentTemplate with
    | none => exact keeps_throw _
    | some compile =>
      refine (hc.templates compile hcompile tag.component).bind fun t? ht => ?_
      cases t? with
      | none => exact keeps_throw _
      | some t =>
        obtain ⟨hname, hnodes⟩ := ht t rfl
        have hblock : Keeps s.CacheGrown (·.Grown s (read ++ [token])) (Compile.ofExcept (tag.block t)) :=
          keeps_ofExcept fun block h => Template.block_grown hc.registry hreading hname h hnodes
        exact hblock.bind fun block hblock => keeps_pure ((hb.append [token]).opened hblock)

theorem fold_keeps (hc : s.Fits c) (tokens : List Template.Token) {b : Template.Blocks} {read : List Template.Token}
    (hb : b.Grown s read) : Keeps s.CacheGrown (·.Grown s (read ++ tokens)) (tokens.foldlM c.step b) := by
  induction tokens generalizing b read with
  | nil => exact keeps_pure (by simpa using hb)
  | cons token tokens ih =>
    rw [List.foldlM_cons]
    refine (step_keeps hc hb token).bind fun b' hb' => ?_
    simpa using ih hb'

theorem compileSource_keeps (hc : s.Fits c) (source : String) :
    Keeps s.CacheGrown (s.GrownAs c.template) (s.compileSource c source) := by
  unfold compileSource
  dsimp only
  cases htokens : Template.tokens (s.preprocess source) with
  | error fault => exact keeps_throw _
  | ok tokens =>
    have hfinish : ∀ b : Template.Blocks, b.Grown s tokens →
        Keeps s.CacheGrown (·.Grown s tokens)
          (Compile.ofExcept (c.finish b (Template.endOf (s.preprocess source)))) := by
      intro b hb
      refine keeps_ofExcept fun b' hb' => ?_
      unfold Template.Context.finish at hb'
      cases hframes : b.frames <;> rw [hframes] at hb' <;> cases hb'
      exact hb
    have hdocument := (fold_keeps hc tokens Template.start_grown).bind hfinish
    refine hdocument.bind fun b hb => ?_
    refine keeps_pure ⟨rfl, fun node hnode => ?_⟩
    -- the tokens are those of a source now, so nothing depends on where they are read any more
    refine (hb.nodes node hnode).mono fun below hbelow => ?_
    rcases hbelow with hbelow | hbelow
    · exact .inr ⟨source, tokens, htokens, hbelow⟩
    · exact .inr hbelow

theorem compileFile_keeps (h : ∀ name source, Keeps s.CacheGrown (s.GrownAs name) (compile name source))
    (name : String) : Keeps s.CacheGrown (s.GrownAs (s.resolveName name)) (s.compileFile compile name) := by
  intro cache hcache
  rw [compileFile_outcome]
  cases hget : cache.get? (s.resolveName name) with
  | some t => exact ⟨hcache, fun u hu => by cases hu; exact hcache _ _ hget⟩
  | none =>
    dsimp only
    cases s.loadSource (s.resolveName name) with
    | error e => exact ⟨hcache, fun u hu => nomatch hu⟩
    | ok source =>
      have hcompile := h (s.resolveName name) source cache hcache
      dsimp only
      rcases hout : (compile (s.resolveName name) source).outcome cache with ⟨e | t, cache'⟩ <;> rw [hout] at hcompile
      · exact ⟨hcompile.1, fun u hu => nomatch hu⟩
      · have ht := hcompile.2 t rfl
        refine ⟨fun path u hu => ?_, fun u hu => by cases hu; exact ht⟩
        rw [Dict.get?_insert] at hu
        split_ifs at hu with hpath
        · cases hu
          subst hpath
          exact ht
        · exact hcompile.1 path u hu

theorem compileComponent_keeps (h : ∀ name source, Keeps s.CacheGrown (s.GrownAs name) (compile name source))
    (k : Component) :
    Keeps s.CacheGrown (fun t? => ∀ t ∈ t?, s.GrownAs (s.templateName k) t) (s.compileComponent compile k) := by
  unfold compileComponent templateName
  cases k.source with
  | file path =>
    dsimp only
    split_ifs
    · exact keeps_pure (by simp)
    · exact (compileFile_keeps h path).bind fun t ht => keeps_pure (by simpa using ht)
  | inline source =>
    dsimp only
    split_ifs
    · exact keeps_pure (by simp)
    · exact (h (inlineTemplateName k.name) source).bind fun t ht => keeps_pure (by simpa using ht)

/-- **Compiled component nodes** come from tags, by induction on the levels of component templates. -/
theorem compileWithin_keeps (s : TemplateSet) (levels : Nat) (name source : String) :
    Keeps s.CacheGrown (s.GrownAs name) (s.compileWithin levels name source) := by
  induction levels generalizing name source with
  | zero => exact compileSource_keeps ⟨rfl, fun compile hcompile => by cases hcompile⟩ source
  | succ levels ih =>
    refine compileSource_keeps ⟨rfl, fun compile hcompile k => ?_⟩ source
    cases hcompile
    exact compileComponent_keeps ih k

/-! ## sets -/

/-- a set that operations, tags of the host and other loaders have made of a new one -/
inductive Reached : TemplateSet → Prop
  | new (loader : Loader) (options : Options) : Reached (new loader options)
  | apply {s : TemplateSet} (hs : Reached s) (op : Operation) : Reached (op.apply s)
  | tag {s : TemplateSet} (hs : Reached s) (name : String) (tag : CustomTag) : Reached (s.registerTag name tag)
  | load {s : TemplateSet} (hs : Reached s) (loader : Loader) : Reached { s with loader }

theorem obtain_grown (hs : s.CacheGrown s.cache) (request : Request) :
    s.CacheGrown (s.obtain request).2.cache ∧
      ∀ t, (s.obtain request).1 = .ok t → ∀ node ∈ t.nodes, node.Every (s.Sourced []) := by
  have hcompile : ∀ name source, Keeps s.CacheGrown (s.GrownAs name) (s.compile name source) :=
    s.compileWithin_keeps s.options.maxDepth
  cases request with
  | file name =>
    obtain ⟨hcache, ht⟩ := compileFile_keeps hcompile name s.cache hs
    exact ⟨hcache, fun t h => (ht t h).2⟩
  | text source =>
    obtain ⟨hcache, ht⟩ := hcompile stringTemplateName source s.cache hs
    exact ⟨hcache, fun t h => (ht t h).2⟩

theorem Reached.cacheGrown (hs : s.Reached) : s.CacheGrown s.cache := by
  induction hs with
  | new loader options =>
    intro path t h
    cases h
  | apply hs op ih =>
    rename_i s
    rcases Operation.apply_cases s op with ⟨request, hop⟩ | ⟨registry, passes, hop⟩
    · obtain ⟨cache, hset⟩ := Operation.obtain_set s request
      have hgrown := (obtain_grown ih request).1
      rw [hop, hset] at *
      exact hgrown
    · rw [hop]
      simp [CacheGrown]
  | tag hs name tag ih => exact ih
  | load hs loader ih => exact ih

/-- **The component nodes of the templates that a set gives** come from tags of sources, in any state of the set. -/
theorem Reached.fromTags (hs : s.Reached) {request : Request} {t : Template} (ht : (s.obtain request).1 = .ok t)
    {root node : Node} (hroot : root ∈ t.nodes) (hnode : root.Below node) :
    s.FromTags [] node ∨ ∃ source tokens, Template.tokens (s.preprocess source) = .ok tokens ∧ s.FromTags tokens node :=
  (obtain_grown hs.cacheGrown request).2 t ht root hroot node hnode

end TemplateSet

end Templating
