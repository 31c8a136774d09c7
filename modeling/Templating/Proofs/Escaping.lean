/-
What autoescaping keeps out of a page.

A template in which no text of its own holds a character of markup, and no expression asks for an exception, writes
none of these characters, whatever the data is: every safe text that comes up on the way is made of escaped values and
of texts of the templates.

- `render_clean`: what one node preserves, by induction over the tree: scopes stay clean, and the text stays free of
  the character.
- `render_escapes`: every page of such a template of a set is free of the character.
-/
import Templating.Proofs.CacheCoherence
import Templating.Proofs.CleanValue
import Templating.Proofs.Written
import Templating.Template.Render

namespace Templating

open Text (Free escaped)

variable {c : Char}

/-! ## Renderings -/

/-- a rendering that succeeds leaves a clean scope and a text without the character -/
def CleanRun (c : Char) (r : Rendered) : Prop :=
  ∀ scope out, r = .ok (scope, out) → scope.Clean c ∧ Free c out

theorem cleanRun_ok {scope : Scope} {out : String} (hscope : scope.Clean c) (hout : Free c out) :
    CleanRun c (.ok (scope, out)) := by
  intro scope' out' h
  cases h
  exact ⟨hscope, hout⟩

theorem cleanRun_error (e : TemplateError) : CleanRun c (.error e) := by
  intro scope out h
  cases h

theorem CleanRun.bind {r : Rendered} (h : CleanRun c r) {f : Scope × String → Rendered}
    (hf : ∀ scope out, scope.Clean c → Free c out → CleanRun c (f (scope, out))) : CleanRun c (r >>= f) := by
  intro scope out hok
  obtain ⟨⟨scope₁, out₁⟩, hr, hok⟩ := bind_eq_ok.1 hok
  obtain ⟨hscope, hout⟩ := h scope₁ out₁ hr
  exact hf scope₁ out₁ hscope hout scope out hok

/-- a step before the rendering, of whose result something is known -/
theorem cleanRun_bind {α : Type} {y : Except TemplateError α} {f : α → Rendered}
    (hf : ∀ a, y = .ok a → CleanRun c (f a)) : CleanRun c (y >>= f) := by
  intro scope out hok
  obtain ⟨a, ha, hok⟩ := bind_eq_ok.1 hok
  exact hf a ha scope out hok

/-! ## Expressions of tags -/

namespace Page

variable {page : Page} {scope : Scope}

theorem eval_ok {position : Position} {e : Expr} {v : Value} (h : page.eval position scope e = .ok v) :
    e.eval scope = .ok v := by
  unfold Page.eval at h
  cases he : e.eval scope with
  | error fault => rw [he] at h; cases h
  | ok w => rw [he] at h; cases h; rfl

theorem eval_clean (hs : scope.Clean c) {position : Position} {e : Expr} (he : e.Clean c) {v : Value}
    (h : page.eval position scope e = .ok v) : v.Clean c :=
  he scope v hs (eval_ok h)

theorem evalPairs_clean (hs : scope.Clean c) {position : Position} {pairs : List (String × Expr)}
    (hpairs : ∀ pair ∈ pairs, pair.2.Clean c) {values : List (String × Value)}
    (h : page.evalPairs position scope pairs = .ok values) : ∀ value ∈ values, value.2.Clean c := by
  induction pairs generalizing values with
  | nil =>
    cases h
    simp
  | cons pair rest ih =>
    rw [List.forall_mem_cons] at hpairs
    obtain ⟨v, hv, h⟩ := bind_eq_ok.1 h
    obtain ⟨others, hothers, h⟩ := bind_eq_ok.1 h
    cases h
    exact List.forall_mem_cons.2 ⟨eval_clean hs hpairs.1 hv, ih hpairs.2 hothers⟩

theorem applyDefaults_clean (hs : scope.Clean c) {position : Position} {props : List (String × Expr)}
    (hprops : ∀ prop ∈ props, prop.2.Clean c) {scope' : Scope}
    (h : page.applyDefaults position props scope = .ok scope') : scope'.Clean c := by
  induction props generalizing scope with
  | nil =>
    cases h
    exact hs
  | cons prop rest ih =>
    obtain ⟨key, e⟩ := prop
    rw [List.forall_mem_cons] at hprops
    unfold applyDefaults at h
    split_ifs at h
    · obtain ⟨v, hv, h⟩ := bind_eq_ok.1 h
      exact ih (hs.set key (eval_clean hs hprops.1 hv)) hprops.2 h
    · exact ih hs hprops.2 h

theorem share_clean (hs : scope.Clean c) {data : Data} (hdata : Data.Clean c data) :
    Data.Clean c (page.share scope data) := by
  unfold share
  generalize page.sharedKeys = keys
  induction keys generalizing data with
  | nil => exact hdata
  | cons key keys ih =>
    rw [List.foldl_cons]
    cases hget : scope.get? key with
    | none => exact ih hdata
    | some v => exact ih (hdata.insert key (hs.get hget))

end Page

/-! ## Loops and components -/

theorem pairs_clean {v : Value} (hv : v.Clean c) {pairs : List (Value × Value)} (h : v.pairs? = some pairs) :
    ∀ pair ∈ pairs, pair.1.Clean c ∧ pair.2.Clean c := by
  cases v with
  | null =>
    cases h
    simp
  | list items =>
    cases h
    simpa using Value.clean_list.1 hv
  | map entries =>
    cases h
    intro pair hpair
    obtain ⟨entry, hentry, rfl⟩ := List.mem_map.1 hpair
    exact ⟨Value.clean_str, Value.clean_map.1 hv entry hentry⟩
  | attrs a =>
    cases h
    intro pair hpair
    obtain ⟨entry, -, rfl⟩ := List.mem_map.1 hpair
    exact ⟨Value.clean_str, Value.clean_str⟩
  | _ => cases h

theorem iteration_clean {around : Scope} (hs : around.Clean c) (head : LoopHead) (index total : Nat)
    {pair : Value × Value} (hpair : pair.1.Clean c ∧ pair.2.Clean c) :
    (head.scope around index total pair).Clean c := by
  have hstate : (loopState index total).Clean c := Value.clean_map.2 (Data.clean_ofList (by simp))
  have hkeyed := hs.child.set head.key hpair.1
  unfold LoopHead.scope
  cases head.value with
  | none => exact hkeyed.set _ hstate
  | some name => exact (hkeyed.set name hpair.2).set _ hstate

theorem slotScope_clean {around : Scope} (hs : around.Clean c) {bindings : List (String × Value)}
    (h : ∀ binding ∈ bindings, binding.2.Clean c) : (slotScope around bindings).Clean c := by
  unfold slotScope
  have hchild := hs.child
  generalize around.child = start at hchild
  induction bindings generalizing start with
  | nil => exact hchild
  | cons binding rest ih =>
    rw [List.forall_mem_cons] at h
    exact ih h.2 _ (hchild.set binding.1 h.1)

theorem bindings_clean {data : Data} (h : Data.Clean c data) (slotData : SlotData) :
    ∀ binding ∈ slotData.bindings data, binding.2.Clean c := by
  cases slotData with
  | nothing => simp [SlotData.bindings]
  | everything name => simpa [SlotData.bindings] using h
  | keys list =>
    intro binding hbinding
    obtain ⟨key, -, rfl⟩ := List.mem_map.1 hbinding
    exact h.getD key.name

theorem slotValue_clean {content : String} (h : Free c content) : (slotValue content).Clean c := by
  simp only [slotValue, Value.clean_safe, Free, String.toList_ofList]
  exact fun hmem => h (Text.mem_of_mem_trim hmem)

theorem ComponentUse.data_clean {page : Page} {scope : Scope} (hs : scope.Clean c) {use : ComponentUse}
    (hprops : ∀ prop ∈ use.props, prop.2.Clean c) {data : Data} (h : use.data page scope = .ok data) :
    Data.Clean c data := by
  obtain ⟨props, hvalues, h⟩ := bind_eq_ok.1 h
  obtain ⟨attributes, -, h⟩ := bind_eq_ok.1 h
  cases h
  exact (Data.clean_ofList (Page.evalPairs_clean hs hprops hvalues)).insert _ Value.clean_attrs

/-! ## Nodes -/

namespace Node

/-- the node itself holds no text with the character, and its expressions do not apply `safe` -/
def isQuiet (c : Char) (node : Node) : Bool :=
  node.exprs.all (·.all Expr.isQuiet) &&
    match node with
    | text s => !s.toList.contains c
    | _ => true

/-- rendering keeps clean scopes clean and texts free of the character -/
def Keeps (c : Char) (node : Node) : Prop :=
  ∀ page scope out, scope.Clean c → Free c out → CleanRun c (node.render page scope out)

end Node

variable {page : Page} {scope : Scope} {out : String}

theorem renderAll_clean {nodes : List Node} (hnodes : ∀ node ∈ nodes, node.Keeps c) (hs : scope.Clean c)
    (hout : Free c out) : CleanRun c (renderAll page nodes scope out) := by
  induction nodes generalizing scope out with
  | nil => exact cleanRun_ok hs hout
  | cons node rest ih =>
    rw [List.forall_mem_cons] at hnodes
    simp only [renderAll]
    exact (hnodes.1 page scope out hs hout).bind fun scope out hs hout => ih hnodes.2 hs hout

theorem renderArms_clean {position : Position} {arms : List (Expr × List Node)}
    (harms : ∀ node ∈ arms.flatMap (·.2), node.Keeps c) {otherwise : Scope → String → Rendered}
    (hotherwise : CleanRun c (otherwise scope out)) (hs : scope.Clean c) (hout : Free c out) :
    CleanRun c (renderArms page position arms otherwise scope out) := by
  induction arms with
  | nil => exact hotherwise
  | cons arm rest ih =>
    obtain ⟨condition, body⟩ := arm
    simp only [List.flatMap_cons, List.forall_mem_append] at harms
    simp only [renderArms]
    refine cleanRun_bind fun v _ => ?_
    split_ifs
    · exact renderAll_clean harms.1 hs hout
    · exact ih harms.2

theorem iterate_clean {body : Scope → String → Rendered} (head : LoopHead)
    (hbody : ∀ scope out, scope.Clean c → Free c out → CleanRun c (body scope out)) (hs : scope.Clean c)
    {total index : Nat} {pairs : List (Value × Value)} (hpairs : ∀ pair ∈ pairs, pair.1.Clean c ∧ pair.2.Clean c)
    (hout : Free c out) {out' : String} (h : head.iterate body scope total index pairs out = .ok out') :
    Free c out' := by
  induction pairs generalizing index out with
  | nil =>
    cases h
    exact hout
  | cons pair rest ih =>
    rw [List.forall_mem_cons] at hpairs
    obtain ⟨⟨inner, out₁⟩, hrun, h⟩ := bind_eq_ok.1 h
    have hscope := iteration_clean hs head index total hpairs.1
    exact ih hpairs.2 (hbody _ out hscope hout inner out₁ hrun).2 h

theorem renderSlots_clean {slots : List (String × List Node)} (hslots : ∀ node ∈ slots.flatMap (·.2), node.Keeps c)
    (hs : scope.Clean c) {data data' : Data} (hdata : Data.Clean c data)
    (h : renderSlots page scope slots data = .ok data') : Data.Clean c data' := by
  induction slots generalizing data with
  | nil =>
    simp only [renderSlots] at h
    cases h
    exact hdata
  | cons slot rest ih =>
    obtain ⟨name, body⟩ := slot
    simp only [List.flatMap_cons, List.forall_mem_append] at hslots
    simp only [renderSlots] at h
    obtain ⟨⟨inner, content⟩, hrun, h⟩ := bind_eq_ok.1 h
    have hcontent := (renderAll_clean hslots.1 hs Text.free_empty inner content hrun).2
    exact ih hslots.2 (hdata.insert name (slotValue_clean hcontent)) h

/-- a use of a component: its slots become safe texts, which its template sees with the data -/
theorem component_keeps {use : ComponentUse} (hsetup : use.setup = none) (hprops : ∀ prop ∈ use.props, prop.2.Clean c)
    (template : String) {body : List Node} (hbody : ∀ node ∈ body, node.Keeps c) {slots : List (String × List Node)}
    (hslots : ∀ node ∈ slots.flatMap (·.2), node.Keeps c) : (Node.component use template body slots).Keeps c := by
  intro page scope out hs hout
  simp only [Node.render, ComponentUse.prepared, hsetup]
  refine cleanRun_bind fun given hgiven => ?_
  have hdata : Data.Clean c (page.share scope given) := Page.share_clean hs (ComponentUse.data_clean hs hprops hgiven)
  refine cleanRun_bind fun data hslotted => ?_
  have hinner := slotScope_clean hs (bindings_clean hdata use.slotData)
  have hvars := renderSlots_clean hslots hinner hdata hslotted
  exact (renderAll_clean hbody (Scope.clean_root hvars) hout).bind fun _ out _ hout => cleanRun_ok hs hout

/-- **What one node preserves.** -/
theorem render_clean (hc : c ∈ escaped) (node : Node) (hwritten : node.Written)
    (hquiet : node.all true (Node.isQuiet c) = true) : node.Keeps c := by
  induction node using Node.induct true with
  | h node ih =>
    obtain ⟨hself, hchildren⟩ := (Node.all_iff node).1 hwritten
    obtain ⟨hown, hbelow⟩ := (Node.all_iff node).1 hquiet
    have hkeeps : ∀ child ∈ node.children true, child.Keeps c := fun child hchild =>
      ih child hchild (hchildren child hchild) (hbelow child hchild)
    have hexprs : ∀ e ∈ node.exprs, e.Clean c := by
      intro e he
      simp only [Node.isWritten, Node.isQuiet, Bool.and_eq_true, List.all_eq_true] at hself hown
      exact Expr.eval_clean hc (hself.1 e he) (hown.1 e he)
    intro page scope out hs hout
    cases node with
    | text s =>
      simp only [Node.isQuiet, Bool.and_eq_true, Bool.not_eq_true', List.contains_eq_mem,
        decide_eq_false_iff_not] at hown
      exact cleanRun_ok hs (Text.free_append.2 ⟨hout, hown.2⟩)
    | output e position =>
      refine cleanRun_bind fun v hv => ?_
      have hclean := Page.eval_clean hs (hexprs e (by simp [Node.exprs])) hv
      exact cleanRun_ok hs (Text.free_append.2 ⟨hout, Value.free_toHtml hc hclean⟩)
    | conditional position arms otherwise =>
      obtain ⟨harms, hotherwise⟩ := List.forall_mem_append.1 hkeeps
      exact renderArms_clean harms (renderAll_clean hotherwise hs hout) hs hout
    | loop position head body empty =>
      obtain ⟨hbody, hempty⟩ := List.forall_mem_append.1 hkeeps
      refine cleanRun_bind fun v hv => ?_
      have hclean := Page.eval_clean hs (hexprs head.items (by simp [Node.exprs])) hv
      split
      · exact cleanRun_error _
      · exact renderAll_clean hempty hs hout
      · next pairs hpairs =>
        refine cleanRun_bind fun out' hout' => cleanRun_ok hs ?_
        exact iterate_clean head (fun _ _ => renderAll_clean hbody) hs (pairs_clean hclean hpairs) hout hout'
    | assign position name e =>
      refine cleanRun_bind fun v hv => ?_
      have hclean := Page.eval_clean hs (hexprs e (by simp [Node.exprs])) hv
      exact cleanRun_ok (hs.set name hclean) hout
    | defaults position props =>
      refine cleanRun_bind fun scope' hscope' => ?_
      have hprops : ∀ prop ∈ props, prop.2.Clean c := fun prop hprop =>
        hexprs prop.2 (List.mem_map_of_mem (f := (·.2)) hprop)
      exact cleanRun_ok (Page.applyDefaults_clean hs hprops hscope') hout
    | outlet slot fallback =>
      simp only [Node.render]
      split_ifs
      · exact cleanRun_ok hs (Text.free_append.2 ⟨hout, Value.free_toHtml hc (hs.getD slot)⟩)
      · exact renderAll_clean hkeeps hs hout
    | fragment body => exact renderAll_clean hkeeps hs hout
    | component use template body slots =>
      obtain ⟨hbody, hslots⟩ := List.forall_mem_append.1 hkeeps
      simp only [Node.isWritten, Bool.and_eq_true, Option.isNone_iff_eq_none] at hself
      have hprops : ∀ prop ∈ use.props, prop.2.Clean c := fun prop hprop =>
        hexprs prop.2 (List.mem_append_left _ (List.mem_map_of_mem (f := (·.2)) hprop))
      exact component_keeps hself.2 hprops template hbody hslots page scope out hs hout
    | custom tag use body => simp [Node.isWritten] at hself

/-! ## Pages -/

/-- a written template without the character and without exceptions renders clean data to text without it -/
theorem Template.render_free (hc : c ∈ escaped) {t : Template} (hwritten : ∀ node ∈ t.nodes, node.Written)
    (hquiet : ∀ node ∈ t.nodes, node.all true (Node.isQuiet c) = true) {data : Data} (hdata : Data.Clean c data)
    {html : String} (h : t.render data = .ok html) : Free c html := by
  have hkeeps : ∀ node ∈ t.nodes, node.Keeps c := fun node hnode =>
    render_clean hc node (hwritten node hnode) (hquiet node hnode)
  have hrun : CleanRun c (renderAll t.page t.nodes (.root data) "") :=
    renderAll_clean hkeeps (Scope.clean_root hdata) Text.free_empty
  unfold Template.render Template.renderTo Template.renderNodesTo at h
  cases hall : renderAll t.page t.nodes (.root data) "" with
  | error e =>
    rw [hall] at h
    cases h
  | ok written =>
    rw [hall] at h
    cases h
    exact (hrun written.1 written.2 hall).2

/-- **Autoescaping is sound.** After any operations on a new set, whose components have no setups: a template of the set
in which, with all component templates that it uses, no text holds a character and no expression applies `safe`,
renders JSON data to a page without the character, be it a bracket of a tag or the single quote. -/
theorem TemplateSet.render_escapes (loader : Loader) (options : Options) (ops : List Operation) (request : Request)
    (t : Template) (json : Json) (data : Data) (html : String) (hc : c ∈ ['<', '>', '\''])
    (hsetups : ∀ name k, ((new loader options).after ops).registry.get? name = some k → k.setup = none)
    (ht : (((new loader options).after ops).obtain request).1 = .ok t)
    (hquiet : ∀ node ∈ t.nodes, node.all true (Node.isQuiet c) = true) (hdata : Value.dataOfJson? json = some data)
    (hhtml : t.render data = .ok html) : c ∉ html.toList := by
  have hhost := after_noHostTags loader options ops
  obtain ⟨source, -, levels, hfresh⟩ := obtain_fresh hhost (new_after_coherent loader options ops) ht
  exact t.render_free hc (fresh_written hhost hsetups hfresh) hquiet (Data.clean_dataOfJson hdata) hhtml

/-- a card with a title and a slot is registered -/
def registerCard : List Operation :=
  [.register ⟨"card", .inline "\x7b\x7b title \x7d\x7d: \x7b\x7b slot \x7d\x7d", ["title"], none⟩]

/-- a page that gives the card a name twice, once as it comes and once escaped already -/
def cardPage : Request :=
  .text "\x7b% component \"card\" withAttrs \"title\"=name %\x7d\x7b\x7b name|escape \x7d\x7d\x7b% endcomponent %\x7d"

/-- the set of the card, without component markup -/
def cardSet : TemplateSet :=
  (TemplateSet.new (.memory .empty) { Options.standard with tagPrefix := none }).after registerCard

/-- a name with markup -/
def markedName : Data := .ofList [("name", .str "<b>")]

theorem cardSet_setup (name : String) (k : Component) (h : cardSet.registry.get? name = some k) : k.setup = none := by
  simp only [cardSet, TemplateSet.after, registerCard, List.foldl_cons, List.foldl_nil, Operation.apply,
    TemplateSet.register, TemplateSet.clearCache, TemplateSet.new, Registry.register, Dict.get?_insert,
    Dict.get?_empty] at h
  split_ifs at h
  cases h
  rfl

theorem render_escapes_card :
    ∃ t html, (cardSet.obtain cardPage).1 = .ok t ∧ t.render markedName = .ok html ∧ html = "&lt;b&gt;: &lt;b&gt;" ∧
      '<' ∉ html.toList := by
  have hrun : ((cardSet.obtain cardPage).1.toOption.any fun t =>
      t.nodes.all (·.all true (Node.isQuiet '<')) &&
        (t.render markedName).toOption == some "&lt;b&gt;: &lt;b&gt;") = true := by decide +kernel
  obtain ⟨t, ht, hrun⟩ := (Option.any_eq_true _ _).1 hrun
  simp only [Bool.and_eq_true, List.all_eq_true, beq_iff_eq] at hrun
  have hobtain := eq_ok_of_toOption ht
  have hrender := eq_ok_of_toOption hrun.2
  refine ⟨t, _, hobtain, hrender, rfl, ?_⟩
  exact TemplateSet.render_escapes _ _ registerCard cardPage t (.object (.ofList [("name", .str "<b>")])) markedName _
    (by simp) cardSet_setup hobtain hrun.1 rfl hrender

end Templating
