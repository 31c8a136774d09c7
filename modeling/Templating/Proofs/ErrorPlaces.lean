/-
Where a render error points.

A node keeps the position of its tag, so a failure is told where the tag of the node starts, in the template whose nodes
are rendered. The nodes of a template come from the tokens of its source (`TagAt`), so what failed is written at that
place. A conditional has one position and several tags: the condition of a further arm is written in a tag of its own,
and yet the first tag is told.

- `Derives.writtenAt`: what fails in a node is written in its terminals.
- `Gives.derives`, `Gives.component_node`: the templates whose nodes are rendered are those of the page and of
  components.
- `Reaches.gives`, `Stops.gives`: so the nodes that are rendered, and the one that fails, are theirs, by induction on
  the way to them.
- `renderTo_error_place`: an error names the template and the place where what failed is written, but for further arms.
- `elif_told_at_if`: those are told at another tag.
-/
import Templating.Proofs.KeptContent
import Templating.Proofs.RenderFailure
import Templating.Proofs.TokenPlaces

namespace Templating

open Template (Terminal)

/-! ## What is written in a tag -/

namespace Template

namespace Terminal

/-- where the output or the tag starts, when it is one that can fail -/
def position? : Terminal → Option Position
  | output _ position | assign position _ _ | props position _ | conditional position _ | arm position _
  | loop position _ => some position
  | component use _ => some use.position
  | text _ | slot _ _ | fragment _ | ending _ _ => none

/-- the expressions that are written in it -/
def exprs : Terminal → List Expr
  | output e _ | assign _ _ e | conditional _ e | arm _ e => [e]
  | props _ list => list.filterMap (·.2)
  | loop _ head => [head.items]
  | component use _ => use.props.map (·.2) ++ use.attributes.map (·.2)
  | text _ | slot _ _ | fragment _ | ending _ _ => []

end Terminal

end Template

/-- what failed is written in the tag at the position; but the condition of a further arm is written elsewhere, and the
tag at the position is the first of a conditional. `place` says what starts where. -/
def Cause.WrittenAt (place : Position → Terminal → Prop) (position : Position) : Cause → Prop
  | expression e _ | items e _ => ∃ x, place position x ∧ e ∈ x.exprs
  | laterArm e _ =>
    (∃ first, place position (.conditional position first)) ∧
      ∃ position', position' ≠ position ∧ place position' (.arm position' e)
  | setup use _ => ∃ t, place position (.component use t)

namespace Template

variable {own : List Terminal} {place : Position → Terminal → Prop}

/-- the conditions of a conditional up to the start of an arm: the first is in its first tag, the others in further
ones -/
theorem Derives.conditions {position : Position} {done : List (Expr × List Node)} {e : Expr}
    (h : Derives own (.arms position done e)) :
    ∃ first later, done.map (·.1) ++ [e] = first :: later ∧ .conditional position first ∈ own ∧
      ∀ e' ∈ later, ∃ position', .arm position' e' ∈ own := by
  generalize hphrase : Phrase.arms position done e = phrase at h
  induction h generalizing position done e with
  | first =>
    cases hphrase
    exact ⟨_, [], rfl, List.mem_cons_self, by simp⟩
  | @next ts ts' _ position' done' e₀ e' nodes _ _ ihfront _ =>
    cases hphrase
    obtain ⟨first, later, hconditions, hfirst, hlater⟩ := ihfront rfl
    refine ⟨first, later ++ [e'], ?_, by simp [hfirst], fun e₁ he₁ => ?_⟩
    · simp [← List.cons_append, ← hconditions]
    · rcases List.mem_append.1 he₁ with he₁ | he₁
      · obtain ⟨position₁, harm⟩ := hlater e₁ he₁
        exact ⟨position₁, by simp [harm]⟩
      · obtain rfl := List.mem_singleton.1 he₁
        exact ⟨position', by simp⟩
  | _ => cases hphrase

/-- so are those of the whole conditional -/
theorem Derives.conditional_conditions {direct : Bool} {position : Position} {arms : List (Expr × List Node)}
    {otherwise : List Node} (h : Derives own (.part direct (.conditional position arms otherwise))) :
    ∃ first later, arms.map (·.1) = first :: later ∧ .conditional position first ∈ own ∧
      ∀ e ∈ later, ∃ position', .arm position' e ∈ own := by
  cases h with
  | @single _ x _ hnode => cases x <;> cases hnode
  | conditional hfront _ | otherwise hfront _ _ =>
    obtain ⟨first, later, hconditions, hfirst, hlater⟩ := hfront.conditions
    refine ⟨first, later, by simpa using hconditions, by simp [hfirst], fun e he => ?_⟩
    obtain ⟨position', harm⟩ := hlater e he
    exact ⟨position', by simp [harm]⟩

/-- a loop starts with its tag -/
theorem Derives.loop_mem {direct : Bool} {position : Position} {head : LoopHead} {body empty : List Node}
    (h : Derives own (.part direct (.loop position head body empty))) : .loop position head ∈ own := by
  cases h with
  | @single _ x _ hnode => cases x <;> cases hnode
  | loop | loopEmpty => simp

/-- and a component with the tag that uses it -/
theorem Derives.component_mem {direct : Bool} {use : ComponentUse} {template : String} {body : List Node}
    {slots : List (String × List Node)} (h : Derives own (.part direct (.component use template body slots))) :
    ∃ t, .component use t ∈ own := by
  obtain ⟨t, inner, items, rfl, -⟩ := h.component_items
  exact ⟨t, by simp⟩

/-- **What fails in a node** is written in its terminals. -/
theorem Derives.writtenAt {direct : Bool} {node : Node} {page : Page} {scope : Scope} {position : Position}
    {cause : Cause} (hpart : Derives own (.part direct node)) (hfails : node.Fails page scope position cause)
    (hplace : ∀ x ∈ own, ∀ p, x.position? = some p → place p x)
    (hapart : ∀ p e e', place p (.conditional p e) → ¬place p (.arm p e')) : cause.WrittenAt place position := by
  cases hfails with
  | output hfails =>
    cases hpart with
    | @single _ x _ hnode =>
      cases x <;> cases hnode
      exact ⟨_, hplace _ List.mem_cons_self _ rfl, List.mem_cons_self⟩
  | assign hfails =>
    cases hpart with
    | @single _ x _ hnode =>
      cases x <;> cases hnode
      exact ⟨_, hplace _ List.mem_cons_self _ rfl, List.mem_cons_self⟩
  | @default _ front key e rest _ _ _ _ _ hfails =>
    cases hpart with
    | @single _ x _ hnode =>
      cases x <;> simp only [Terminal.node?, reduceCtorEq, Option.some.injEq, Node.defaults.injEq] at hnode
      next position' list =>
      obtain ⟨rfl, hlist⟩ := hnode
      refine ⟨_, hplace _ List.mem_cons_self _ rfl, ?_⟩
      have hmem : (key, e) ∈ Terminal.defaultsOf list := by simp [hlist]
      obtain ⟨⟨key', found⟩, hfound, hkey⟩ := List.mem_filterMap.1 hmem
      obtain ⟨e', he', heq⟩ := Option.map_eq_some_iff.1 hkey
      cases heq
      exact List.mem_filterMap.2 ⟨_, hfound, he'⟩
  | items hfails | notIterable hv hfails =>
    exact ⟨_, hplace _ hpart.loop_mem _ rfl, List.mem_cons_self⟩
  | @argument use _ _ _ front key e rest _ _ _ hargs _ hfails =>
    obtain ⟨t, hcomponent⟩ := hpart.component_mem
    refine ⟨.component use t, hplace _ hcomponent _ rfl, ?_⟩
    have hmem : (key, e) ∈ use.props ++ use.attributes := by simp [hargs]
    rw [Terminal.exprs, ← List.map_append]
    exact List.mem_map_of_mem hmem
  | setup hstart hfails =>
    obtain ⟨t, hcomponent⟩ := hpart.component_mem
    exact ⟨t, hplace _ hcomponent _ rfl⟩
  | firstArm hfails =>
    obtain ⟨first, later, hconditions, hfirst, -⟩ := hpart.conditional_conditions
    obtain ⟨rfl, -⟩ := List.cons_eq_cons.1 hconditions
    exact ⟨_, hplace _ hfirst _ rfl, List.mem_cons_self⟩
  | @laterArm _ arm front e _ _ _ _ _ _ hfails =>
    obtain ⟨first, later, hconditions, hfirst, hlater⟩ := hpart.conditional_conditions
    have hmem : e ∈ later := by
      obtain ⟨-, rfl⟩ := List.cons_eq_cons.1 hconditions
      simp
    obtain ⟨position', harm⟩ := hlater e hmem
    have hfirst := hplace _ hfirst _ rfl
    have harm := hplace _ harm _ rfl
    refine ⟨⟨first, hfirst⟩, position', ?_, harm⟩
    rintro rfl
    exact hapart _ _ _ hfirst harm

/-! ## Tokens and terminals -/

theorem exists_of_mem_right {α β : Type} {R : α → β → Prop} {as : List α} {bs : List β} (h : List.Forall₂ R as bs)
    {b : β} (hb : b ∈ bs) : ∃ a ∈ as, R a b := by
  induction h with
  | nil => cases hb
  | cons hhead _ ih =>
    rcases List.mem_cons.1 hb with rfl | hb
    · exact ⟨_, List.mem_cons_self, hhead⟩
    · obtain ⟨a, ha, hab⟩ := ih hb
      exact ⟨a, List.mem_cons_of_mem _ ha, hab⟩

variable {c : Context} {compile : Component → Except TemplateError (Option Template)} {token : Token} {x : Terminal}

/-- a terminal has the position of its token -/
theorem Context.Stands.position (h : c.Stands compile token x) {p : Position} (hp : x.position? = some p) :
    ∃ text, token.code? = some (p, text) := by
  rcases h with hword | ⟨tag, t, hword, -, hx⟩
  · cases token with
    | text s =>
      cases hword
      cases hp
    | output expr position =>
      obtain ⟨arguments, -, hword⟩ := bind_eq_ok.1 hword
      obtain ⟨e, -, hword⟩ := bind_eq_ok.1 hword
      cases hword
      cases hp
      exact ⟨_, rfl⟩
    | tag name args position =>
      obtain ⟨arguments, -, hword⟩ := bind_eq_ok.1 hword
      rcases tagWord_ready_cases hword with ⟨_, rfl⟩ | ⟨_, rfl⟩ | ⟨_, rfl⟩ | ⟨_, _, rfl⟩ | ⟨_, rfl⟩ | ⟨_, _, rfl⟩ |
        ⟨_, rfl⟩ | ⟨_, _, rfl⟩ <;> cases hp <;> exact ⟨_, rfl⟩
  · obtain ⟨name, args, rfl, -⟩ := word_component hword
    obtain ⟨given, -, hx⟩ := bind_eq_ok.1 hx
    cases hx
    cases hp
    exact ⟨_, rfl⟩

/-- a component terminal comes from a tag that names a registered component, and has its template -/
theorem Context.Stands.component {use : ComponentUse} {t : Template} (h : c.Stands compile token (.component use t)) :
    ∃ name k, c.registry.get? name = some k ∧ compile k = .ok (some t) := by
  rcases h with hword | ⟨tag, t', hword, hcompile, hx⟩
  · cases token with
    | text s => cases hword
    | output expr position =>
      obtain ⟨arguments, -, hword⟩ := bind_eq_ok.1 hword
      obtain ⟨e, -, hword⟩ := bind_eq_ok.1 hword
      cases hword
    | tag name args position =>
      obtain ⟨arguments, -, hword⟩ := bind_eq_ok.1 hword
      simpa using tagWord_ready_cases hword
  · obtain ⟨-, -, -, hregistry⟩ := word_component hword
    obtain ⟨given, -, hx⟩ := bind_eq_ok.1 hx
    cases hx
    exact ⟨_, _, hregistry, hcompile⟩

/-- no token is both the first tag of a conditional and a further one -/
theorem Context.Stands.not_arm {compile' : Component → Except TemplateError (Option Template)} {p p' : Position}
    {e e' : Expr} (h : c.Stands compile token (.conditional p e)) : ¬c.Stands compile' token (.arm p' e') := by
  intro h'
  rcases h with hword | ⟨tag, t, -, -, hx⟩
  · rcases h' with hword' | ⟨tag, t, hword', -, -⟩ <;> cases hword.symm.trans hword'
  · obtain ⟨given, -, hx⟩ := bind_eq_ok.1 hx
    cases hx

end Template

namespace TemplateSet

/-- an output or a tag that is this terminal starts at the position of the source of the template -/
def TagAt (s : TemplateSet) (u : Template) (position : Position) (x : Terminal) : Prop :=
  ∃ token levels, Template.TokenAt u.source.toList position token ∧
    (s.reading u.name).Stands (s.below u.name levels) token x

theorem TagAt.not_arm {s : TemplateSet} {u : Template} {position p p' : Position} {e e' : Expr}
    (h : s.TagAt u position (.conditional p e)) : ¬s.TagAt u position (.arm p' e') := by
  rintro ⟨token', levels', hat', hstands'⟩
  obtain ⟨token, levels, hat, hstands⟩ := h
  obtain rfl := hat.unique hat'
  exact hstands.not_arm hstands'

/-! ## Templates -/

/-- a template that is rendered for a request: the one that the set gives for it, or that of a registered component -/
inductive Gives (s : TemplateSet) (request : Request) : Template → Prop
  | page {t} (ht : (s.obtain request).1 = .ok t) : Gives s request t
  | component {name k levels u} (hk : s.registry.get? name = some k)
    (hu : s.freshComponent (s.fresh levels) k = .ok (some u)) : Gives s request u

variable {s : TemplateSet} {request : Request} {u : Template}

/-- the set has the built-in tags only, and its cache has what its sources give -/
structure Usual (s : TemplateSet) : Prop where
  tags : s.tags = Template.builtinTags
  coherent : s.Coherent s.cache

theorem usual_after (loader : Loader) (options : Options) (ops : List Operation) :
    ((new loader options).after ops).Usual where
  tags := Operation.after_tags _ ops
  coherent := new_after_coherent loader options ops

/-- a template that is rendered is compiled from its source -/
theorem Gives.fresh (hs : s.Usual) (h : s.Gives request u) :
    ∃ levels name source, s.fresh levels name source = .ok u := by
  cases h with
  | page ht =>
    obtain ⟨source, -, levels, hfresh⟩ := obtain_fresh (noHostTags_of_builtin hs.tags) hs.coherent ht
    exact ⟨levels, _, source, hfresh⟩
  | component _ hu =>
    rcases freshComponent_eq_ok.1 hu with ⟨path, source, -, -, -, hfresh⟩ | ⟨source, -, -, hfresh⟩ <;>
      exact ⟨_, _, _, hfresh⟩

/-- a template that is rendered is what the tokens of its source derive -/
theorem Gives.derives (hs : s.Usual) (h : s.Gives request u) :
    ∃ levels tokens terminals, Template.tokens u.source = .ok tokens ∧
      List.Forall₂ ((s.reading u.name).Stands (s.below u.name levels)) tokens terminals ∧
      Template.Derives terminals (.body false u.nodes) := by
  obtain ⟨levels, name, source, hfresh⟩ := h.fresh hs
  obtain ⟨tokens, terminals, htokens, hall, hderives, rfl, hsource⟩ := fresh_derives hs.tags hfresh
  exact ⟨levels, tokens, terminals, by rw [hsource, htokens], hall, hderives⟩

/-- the page of a template that is rendered shares the variables that the set shares -/
theorem Gives.page_eq (hs : s.Usual) (h : s.Gives request u) : u.page = ⟨u.name, s.options.sharedKeys⟩ := by
  obtain ⟨levels, name, source, hfresh⟩ := h.fresh hs
  obtain ⟨tokens, terminals, b, -, -, -, -, rfl⟩ := fresh_runs hs.tags hfresh
  rfl

/-- the terminals of a template start where they stand in its source -/
theorem tagAt_of_mem {levels : Nat} {tokens : List Template.Token} {terminals : List Terminal}
    (htokens : Template.tokens u.source = .ok tokens)
    (hall : List.Forall₂ ((s.reading u.name).Stands (s.below u.name levels)) tokens terminals) {x : Terminal}
    (hx : x ∈ terminals) {position : Position} (hposition : x.position? = some position) :
    s.TagAt u position x := by
  obtain ⟨token, htoken, hstands⟩ := Template.exists_of_mem_right hall hx
  obtain ⟨text, hcode⟩ := hstands.position hposition
  exact ⟨token, levels, Template.exists_tokenAt htokens htoken hcode, hstands⟩

/-- a component in a template that is rendered has a template that is rendered too -/
theorem Gives.component_node (hs : s.Usual) (h : s.Gives request u) {root : Node} (hroot : root ∈ u.nodes)
    {use : ComponentUse} {template : String} {body : List Node} {slots : List (String × List Node)}
    (hwithin : root.Within (.component use template body slots)) :
    ∃ v, s.Gives request v ∧ template = v.name ∧ body = v.nodes := by
  obtain ⟨levels, tokens, terminals, -, hall, hderives⟩ := h.derives hs
  obtain ⟨direct, own, hown, hpart⟩ := hderives.exists_part root hroot _ hwithin
  obtain ⟨v, inner, items, rfl, -, htemplate, hbody, -⟩ := hpart.component_items
  have hmem : Terminal.component use v ∈ terminals := hown.subset List.mem_cons_self
  obtain ⟨token, -, hstands⟩ := Template.exists_of_mem_right hall hmem
  obtain ⟨name, k, hk, hbelow⟩ := hstands.component
  cases levels with
  | zero => cases hbelow
  | succ levels => exact ⟨v, .component hk hbelow, htemplate, hbody⟩

/-- what fails in a node of a template is written in its source -/
theorem Gives.writtenAt (hs : s.Usual) (h : s.Gives request u) {root node : Node} (hroot : root ∈ u.nodes)
    (hwithin : root.Within node) {page : Page} {scope : Scope} {position : Position} {cause : Cause}
    (hfails : node.Fails page scope position cause) : cause.WrittenAt (s.TagAt u) position := by
  obtain ⟨levels, tokens, terminals, htokens, hall, hderives⟩ := h.derives hs
  obtain ⟨direct, own, hown, hpart⟩ := hderives.exists_part root hroot node hwithin
  refine hpart.writtenAt hfails (fun x hx p hp => ?_) fun p e e' => TagAt.not_arm
  exact tagAt_of_mem htokens hall (hown.subset hx) hp

end TemplateSet

/-! ## Errors -/

theorem Stops.fails {page : Page} {nodes : List Node} {scope : Scope} {failure : Failure}
    (h : Stops page nodes scope failure) :
    ∃ scope', failure.node.Fails failure.page scope' failure.position failure.cause := by
  obtain ⟨scope', -, hfails⟩ := h.reaches
  exact ⟨scope', hfails⟩

theorem Node.Within.child {root node child : Node} (h : root.Within node) (hchild : child ∈ node.children false) :
    root.Within child :=
  Relation.ReflTransGen.tail h hchild

/-- **A node that is rendered** is one of a template that is rendered, and it is rendered on the page of this
template. -/
theorem Reaches.gives {s : TemplateSet} (hs : s.Usual) {request : Request} {page page' : Page} {nodes : List Node}
    {scope scope' : Scope} {node : Node} (h : Reaches page nodes scope page' node scope') {u : Template}
    (hu : s.Gives request u) (hpage : page = u.page) (hnodes : ∀ node ∈ nodes, ∃ root ∈ u.nodes, root.Within node) :
    ∃ v, s.Gives request v ∧ page' = v.page ∧ ∃ root ∈ v.nodes, root.Within node := by
  induction h generalizing u with
  | here => exact ⟨u, hu, hpage, hnodes _ List.mem_cons_self⟩
  | behind _ _ ih => exact ih hu hpage fun node hnode => hnodes node (List.mem_cons_of_mem _ hnode)
  | inside henters _ ih =>
    obtain ⟨root, hroot, hwithin⟩ := hnodes _ List.mem_cons_self
    rcases henters.cases with ⟨rfl, hsub⟩ | ⟨use, template, body, slots, rfl, rfl, rfl⟩
    · exact ih hu hpage fun child hchild => ⟨root, hroot, hwithin.child (hsub hchild)⟩
    · -- the nodes of a component are those of its template, which stand in no other tree
      obtain ⟨v, hv, rfl, rfl⟩ := hu.component_node hs hroot hwithin
      refine ih hv ?_ fun node hnode => ⟨node, hnode, .refl⟩
      rw [hpage, hu.page_eq hs, hv.page_eq hs]

/-- **The node that fails** is one of a template that is rendered, and this template is named. -/
theorem Stops.gives {s : TemplateSet} (hs : s.Usual) {request : Request} {page : Page} {nodes : List Node}
    {scope : Scope} {failure : Failure} (h : Stops page nodes scope failure) {u : Template} (hu : s.Gives request u)
    (hpage : page = u.page) (hnodes : ∀ node ∈ nodes, ∃ root ∈ u.nodes, root.Within node) :
    ∃ v, s.Gives request v ∧ failure.page.template = v.name ∧ ∃ root ∈ v.nodes, root.Within failure.node := by
  obtain ⟨scope', hreaches, -⟩ := h.reaches
  obtain ⟨v, hv, hname, hnode⟩ := hreaches.gives hs hu hpage hnodes
  exact ⟨v, hv, by rw [hname]; rfl, hnode⟩

/-- **A render error points at what failed.** When a template that a set of components and built-in tags gives does not
render, then rendering stopped at a node of its own tree or of that of a component, the error names this template, and
what failed is written in the output or the tag that starts at the position of the error in the source of the template.
The condition of a further arm alone is written in another tag: there the first tag of the conditional is told. -/
theorem renderTo_error_place (loader : Loader) (options : Options) (ops : List Operation) (request : Request)
    (t : Template) (data : Data) (out : String) (e : TemplateError) :
    let s := (TemplateSet.new loader options).after ops
    (s.obtain request).1 = .ok t → (t.renderTo data out).1 = .error e →
      ∃ failure u, Stops t.page t.nodes (.root data) failure ∧ s.Gives request u ∧
        (∃ root ∈ u.nodes, root.Within failure.node) ∧
        e = .render ⟨u.name, failure.position⟩ failure.cause.fault ∧
        failure.cause.WrittenAt (s.TagAt u) failure.position := by
  intro s ht he
  have hs : s.Usual := TemplateSet.usual_after loader options ops
  have herror : renderAll t.page t.nodes (.root data) out = .error e := by
    unfold Template.renderTo Template.renderNodesTo at he
    split at he
    · cases he
    · cases he
      assumption
  obtain ⟨failure, hstops, rfl⟩ := renderAll_eq_error.1 herror
  obtain ⟨scope', hfails⟩ := hstops.fails
  obtain ⟨u, hu, hname, root, hroot, hwithin⟩ :=
    hstops.gives hs (.page ht) rfl fun node hnode => ⟨node, hnode, .refl⟩
  exact ⟨failure, u, hstops, hu, ⟨root, hroot, hwithin⟩, by rw [Failure.error, hname],
    hu.writtenAt hs hroot hwithin hfails⟩

/-- a set with a sign that shows its slot and negates its title, without component markup -/
def signSet : TemplateSet :=
  (TemplateSet.new (.memory .empty) { Options.standard with tagPrefix := none }).after
    [.register ⟨"sign", .inline "\x7b\x7b slot \x7d\x7d\n\x7b\x7b -title \x7d\x7d", ["title"], none⟩]

/-- a page with a sign whose title is a text -/
def signPage : String :=
  "a\x7b% component \"sign\" withAttrs \"title\"='x' %\x7db\x7b% endcomponent %\x7d"

/-- where a rendering stopped -/
def stoppedAt? : Except TemplateError Unit → Option Site
  | .error (.render site _) => some site
  | _ => none

theorem error_of_stoppedAt {rendered : Except TemplateError Unit} {site : Site} (h : stoppedAt? rendered = some site) :
    ∃ fault, rendered = .error (.render site fault) := by
  unfold stoppedAt? at h
  split at h <;> cases h
  exact ⟨_, rfl⟩

theorem renderTo_error_place_sign :
    ∃ t failure u, (signSet.obtain (.text signPage)).1 = .ok t ∧ Stops t.page t.nodes (.root .empty) failure ∧
      signSet.Gives (.text signPage) u ∧ u.name = "<component sign>" ∧ failure.position = ⟨11, 1, 0⟩ ∧
      failure.cause.WrittenAt (signSet.TagAt u) ⟨11, 1, 0⟩ := by
  have hrun : (signSet.obtain (.text signPage)).1.toOption.any
      (fun t => stoppedAt? (t.renderTo .empty "").1 = some ⟨"<component sign>", ⟨11, 1, 0⟩⟩) = true := by
    decide +kernel
  obtain ⟨t, ht, hsite⟩ := (Option.any_eq_true _ _).1 hrun
  have hobtain := eq_ok_of_toOption ht
  obtain ⟨fault, herror⟩ := error_of_stoppedAt (of_decide_eq_true hsite)
  obtain ⟨failure, u, hstops, hu, -, he, hwritten⟩ :=
    renderTo_error_place (.memory .empty) _ [.register _] (.text signPage) t .empty "" _ hobtain herror
  obtain ⟨hplace, -⟩ := (TemplateError.render.injEq ..).mp he
  obtain ⟨hname, hposition⟩ := (Site.mk.injEq ..).mp hplace
  exact ⟨t, failure, u, hobtain, hstops, hu, hname.symm, hposition.symm, hposition ▸ hwritten⟩

/-- a page whose second condition has no value -/
def elifPage : String :=
  "\x7b% if false %\x7da\x7b% elif -'x' %\x7db\x7b% endif %\x7d"

/-- the second condition -/
def textNegated : Expr :=
  .neg (.literal (.str "x"))

/-- a conditional with these two conditions -/
def elifNode (first second otherwise : List Node) : Node :=
  .conditional .start ((.literal (.bool false), first) :: [] ++ [(textNegated, second)]) otherwise

theorem elifNode_fails (page : Page) (first second otherwise : List Node) :
    (elifNode first second otherwise).Fails page (.root .empty) .start
      (.laterArm textNegated (.notNumeric "string")) := by
  have hfalse : Untrue (.root .empty) [(.literal (.bool false), first)] := by
    simp [Untrue, Expr.eval, Value.isTruthy]
  exact .laterArm hfalse rfl

/-- the page is such a conditional -/
def isElif (t : Template) : Bool :=
  match t.nodes with
  | [.conditional position [(.literal (.bool false), _), (.neg (.literal (.str "x")), _)] _] =>
    position == .start && t.source == elifPage
  | _ => false

theorem elif_told_at_if :
    ∃ t node, (signSet.obtain (.text elifPage)).1 = .ok t ∧
      Stops t.page t.nodes (.root .empty) ⟨t.page, node, .start, .laterArm textNegated (.notNumeric "string")⟩ ∧
      (t.renderTo .empty "").1 = .error (.render ⟨t.name, .start⟩ (.evaluation (.notNumeric "string"))) ∧
      signSet.TagAt t ⟨15, 0, 15⟩ (.arm ⟨15, 0, 15⟩ textNegated) ∧
      ∀ x, signSet.TagAt t .start x → textNegated ∉ x.exprs := by
  have hrun : (signSet.obtain (.text elifPage)).1.toOption.any isElif = true := by decide +kernel
  obtain ⟨t, ht, helif⟩ := (Option.any_eq_true _ _).1 hrun
  have hobtain := eq_ok_of_toOption ht
  unfold isElif at helif
  split at helif
  · next position first second otherwise hnodes =>
    simp only [Bool.and_eq_true, beq_iff_eq] at helif
    obtain ⟨rfl, hsource⟩ := helif
    have htokens : Template.tokens elifPage =
        .ok [.tag "if" "false" .start, .text "a", .tag "elif" "-'x'" ⟨15, 0, 15⟩, .text "b",
          .tag "endif" "" ⟨31, 0, 31⟩] := by rfl
    have hstops : Stops t.page t.nodes (.root .empty)
        ⟨t.page, elifNode first second otherwise, .start, .laterArm textNegated (.notNumeric "string")⟩ := by
      rw [hnodes]
      exact .here (elifNode_fails t.page first second otherwise)
    have herror : (t.renderTo .empty "").1 =
        .error (.render ⟨t.name, .start⟩ (.evaluation (.notNumeric "string"))) := by
      rw [Template.renderTo, Template.renderNodesTo, hstops.render]
      rfl
    have hfirst : Template.TokenAt elifPage.toList .start (.tag "if" "false" .start) :=
      Template.exists_tokenAt htokens List.mem_cons_self rfl
    have hfirstWord : (signSet.reading t.name).word (.tag "if" "false" .start) =
        .ok (.ready (.conditional .start (.literal (.bool false)))) := rfl
    have hlater : Template.TokenAt elifPage.toList ⟨15, 0, 15⟩ (.tag "elif" "-'x'" ⟨15, 0, 15⟩) :=
      Template.exists_tokenAt htokens (List.mem_cons_of_mem _ (List.mem_cons_of_mem _ List.mem_cons_self)) rfl
    have hlaterWord : (signSet.reading t.name).word (.tag "elif" "-'x'" ⟨15, 0, 15⟩) =
        .ok (.ready (.arm ⟨15, 0, 15⟩ textNegated)) := rfl
    rw [← hsource] at hfirst hlater
    have harm : signSet.TagAt t ⟨15, 0, 15⟩ (.arm ⟨15, 0, 15⟩ textNegated) := ⟨_, 0, hlater, .inl hlaterWord⟩
    refine ⟨t, elifNode first second otherwise, hobtain, hstops, herror, harm, ?_⟩
    rintro x ⟨token, levels, hat, hstands⟩
    obtain rfl := hat.unique hfirst
    rcases hstands with hword | ⟨tag, u, hword, -, -⟩ <;> cases hfirstWord.symm.trans hword
    simp [textNegated, Terminal.exprs]
  · cases helif

end Templating
