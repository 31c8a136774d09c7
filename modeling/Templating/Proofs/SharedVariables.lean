/-
How far shared variables go.

A component template starts on data of its own, but what the page shares is written into it behind the setup, as the
caller sees it. So a shared variable goes from template to template, as long as none of them gives the name to something
else. `Assigns` says when nodes do that in the scope that they go on with, `Node.Binds` when a tag does it in the scope
that it gives to its body, and `ReachesWithout` is a way to a node on which neither happens.

- `Node.keepsValue`: behind a node that does not assign the variable it has the value that it has in front.
- `Node.Enters.keepsValue`: inside of a node that does not bind it, too, when it is shared.
- `ReachesWithout.render`: the node at the end of the way is rendered there, and its failure is that of the page.
- `ReachesWithout.get?`: so the variable has this value at the end of the way.
- `shared_variables`: this for the pages of a set.
-/
import Templating.Proofs.ErrorPlaces

namespace Templating

/-! ## What gives a name to something else -/

/-- the names that a loop gives to an iteration -/
def LoopHead.names (head : LoopHead) : List String :=
  head.key :: head.value.toList ++ ["forloop"]

/-- the names that a component gives to its slots -/
def SlotData.names : SlotData → List String
  | nothing => []
  | everything name => [name]
  | keys list => list.map SlotKey.binding

/-- the nodes write the variable into the scope that they go on with: one of them sets it, or gives it a default where
it is none, or comes to nodes in the same scope that do -/
inductive Assigns (page : Page) (key : String) : List Node → Scope → Prop
  | set {position e rest scope} : Assigns page key (.assign position key e :: rest) scope
  | default {position front e props rest scope behind} (hfront : page.applyDefaults position front scope = .ok behind)
    (hnull : ((behind.get? key).getD .null).isNull = true) :
    Assigns page key (.defaults position (front ++ (key, e) :: props) :: rest) scope
  | inside {node nodes rest scope} (hblock : ∀ use template body slots, node ≠ .component use template body slots)
    (henters : node.Enters page scope page nodes scope) (hassigns : Assigns page key nodes scope) :
    Assigns page key (node :: rest) scope
  | behind {node rest scope scope' text} (hfirst : node.render page scope "" = .ok (scope', text))
    (hassigns : Assigns page key rest scope') : Assigns page key (node :: rest) scope

/-- the node gives the variable to something else in the scope of the nodes that it comes to: it is a variable of the
loop, or of the slots of the component, or the name of a slot of its template -/
inductive Node.Binds (page : Page) (key : String) : Node → Scope → Page → List Node → Scope → Prop
  | iteration {position head body empty scope index total pair} (hkey : key ∈ head.names) :
    Binds page key (.loop position head body empty) scope page body (head.scope scope index total pair)
  | slot {use template body slots nodes scope data} (hkey : key ∈ use.slotData.names) :
    Binds page key (.component use template body slots) scope page nodes
      (slotScope scope (use.slotData.bindings data))
  | template {use template body slots scope data} (hkey : key ∈ slots.map (·.1)) :
    Binds page key (.component use template body slots) scope { page with template } body (.root data)

/-- the way to a node that is rendered, on which nothing gives the variable to something else -/
inductive ReachesWithout (key : String) : Page → List Node → Scope → Page → Node → Scope → Prop
  | here {page node rest scope} : ReachesWithout key page (node :: rest) scope page node scope
  | inside {page node rest scope page₁ nodes scope₁ page' node' scope'}
    (henters : node.Enters page scope page₁ nodes scope₁) (hbinds : ¬node.Binds page key scope page₁ nodes scope₁)
    (hreaches : ReachesWithout key page₁ nodes scope₁ page' node' scope') :
    ReachesWithout key page (node :: rest) scope page' node' scope'
  | behind {page node rest scope scope₁ text page' node' scope'}
    (hfirst : node.render page scope "" = .ok (scope₁, text)) (hassigns : ¬Assigns page key [node] scope)
    (hreaches : ReachesWithout key page rest scope₁ page' node' scope') :
    ReachesWithout key page (node :: rest) scope page' node' scope'

/-- a component binds the names of its slots in its template, and no others -/
theorem Node.binds_template {page : Page} {key : String} {use : ComponentUse} {template : String} {body : List Node}
    {slots : List (String × List Node)} {scope : Scope} {data : Data} :
    (component use template body slots).Binds page key scope { page with template } body (.root data) ↔
      key ∈ slots.map (·.1) := by
  refine ⟨fun h => ?_, .template⟩
  generalize hpage : { page with template } = page', hroot : Scope.root data = scope' at h
  cases h with
  | slot =>
    rw [Scope.slotScope_eq] at hroot
    cases hroot
  | template hkey => exact hkey

/-- a default is assigned where the variable is none -/
theorem assigns_defaults_singleton {page : Page} {key : String} {position : Position} {e : Expr} {scope : Scope} :
    Assigns page key [.defaults position [(key, e)]] scope ↔ ((scope.get? key).getD .null).isNull = true := by
  constructor
  · intro h
    generalize hprops : [(key, e)] = props at h
    cases h with
    | inside _ henters => cases henters
    | behind _ hassigns => cases hassigns
    | @default _ front _ _ _ _ _ hfront hnull =>
      obtain rfl : front = [] := by
        cases front <;> simp_all
      cases hfront
      exact hnull
  · intro hnull
    have hfront : page.applyDefaults position [] scope = .ok scope := rfl
    exact .default hfront hnull

variable {page page' : Page} {key : String} {node : Node} {nodes : List Node} {scope scope' : Scope}
  {out out' : String} {v : Value}

/-! ## Behind nodes -/

theorem Assigns.head (h : Assigns page key [node] scope) (rest : List Node) :
    Assigns page key (node :: rest) scope := by
  cases h with
  | set => exact .set
  | default hfront hnull => exact .default hfront hnull
  | inside hblock henters hassigns => exact .inside hblock henters hassigns
  | behind _ hassigns => cases hassigns

/-- rendering the node leaves the variable as it was, unless the node assigns it -/
def Node.KeepsValue (page : Page) (key : String) (node : Node) : Prop :=
  ∀ scope out scope' out', node.render page scope out = .ok (scope', out') → ¬Assigns page key [node] scope →
    scope'.get? key = scope.get? key

theorem renderAll_keepsValue (hnodes : ∀ node ∈ nodes, node.KeepsValue page key)
    (h : renderAll page nodes scope out = .ok (scope', out')) (hassigns : ¬Assigns page key nodes scope) :
    scope'.get? key = scope.get? key := by
  induction nodes generalizing scope out with
  | nil =>
    cases h
    rfl
  | cons node rest ih =>
    rw [renderAll] at h
    obtain ⟨⟨scope₁, out₁⟩, hfirst, h⟩ := bind_eq_ok.1 h
    have hkept := hnodes node List.mem_cons_self _ _ _ _ hfirst fun hnode => hassigns (hnode.head rest)
    rw [Node.render_alone] at hfirst
    obtain ⟨⟨_, text⟩, halone, heq⟩ := map_eq_ok.1 hfirst
    obtain ⟨rfl, -⟩ := Prod.mk.inj heq
    have hrest := ih (fun node hnode => hnodes node (List.mem_cons_of_mem _ hnode)) h fun hrest =>
      hassigns (.behind halone hrest)
    exact hrest.trans hkept

theorem applyDefaults_keepsValue {position : Position} {props : List (String × Expr)}
    (h : page.applyDefaults position props scope = .ok scope')
    (hassigns : ∀ front e more behind, props = front ++ (key, e) :: more →
      page.applyDefaults position front scope = .ok behind → ((behind.get? key).getD .null).isNull = false) :
    scope'.get? key = scope.get? key := by
  induction props generalizing scope with
  | nil =>
    cases h
    rfl
  | cons prop rest ih =>
    obtain ⟨name, e⟩ := prop
    rw [Page.applyDefaults] at h
    split_ifs at h with hnull
    · obtain ⟨v, hv, h⟩ := bind_eq_ok.1 h
      have hne : key ≠ name := by
        rintro rfl
        rw [hassigns [] e rest scope rfl rfl] at hnull
        cases hnull
      rw [ih h fun front e' more behind hrest hfront => ?_, Scope.get?_set, if_neg hne]
      refine hassigns ((name, e) :: front) e' more behind (by rw [hrest, List.cons_append]) ?_
      rw [Page.applyDefaults, if_pos hnull]
      exact bind_eq_ok.2 ⟨v, hv, hfront⟩
    · refine ih h fun front e' more behind hrest hfront => ?_
      refine hassigns ((name, e) :: front) e' more behind (by rw [hrest, List.cons_append]) ?_
      rwa [Page.applyDefaults, if_neg hnull]

theorem conditional_keepsValue {position : Position} {arms : List (Expr × List Node)} {otherwise : List Node}
    (hnodes : ∀ node ∈ arms.flatMap (·.2) ++ otherwise, node.KeepsValue page key) :
    (Node.conditional position arms otherwise).KeepsValue page key := by
  intro scope out scope' out' h hassigns
  rw [Node.render] at h
  rcases untrue_or_first scope arms with harms | ⟨front, e, body, rest, rfl, hfront, ⟨fault, hfails⟩ | ⟨v, hv, htrue⟩⟩
  · have huntrue := renderArms_untrue harms page position [] (fun scope out => renderAll page otherwise scope out) out
    rw [List.append_nil] at huntrue
    rw [huntrue, renderArms] at h
    refine renderAll_keepsValue (fun node hnode => hnodes node (List.mem_append_right _ hnode)) h fun hbody => ?_
    exact hassigns (.inside (by simp) (.otherwise harms) hbody)
  · rw [renderArms_untrue hfront, renderArms, Page.eval_eq_error.2 ⟨fault, hfails, rfl⟩] at h
    cases h
  · rw [renderArms_untrue hfront, renderArms, Page.eval_eq_ok.2 hv] at h
    simp only [bind, Except.bind, htrue, if_true] at h
    refine renderAll_keepsValue (fun node hnode => hnodes node (by simp [hnode])) h fun hbody => ?_
    exact hassigns (.inside (by simp) (.arm hfront hv htrue) hbody)

theorem loop_keepsValue {position : Position} {head : LoopHead} {body empty : List Node}
    (hnodes : ∀ node ∈ empty, node.KeepsValue page key) :
    (Node.loop position head body empty).KeepsValue page key := by
  intro scope out scope' out' h hassigns
  rw [Node.render] at h
  obtain ⟨v, hv, h⟩ := bind_eq_ok.1 h
  rw [Page.eval_eq_ok] at hv
  split at h
  · cases h
  · next hpairs =>
    refine renderAll_keepsValue hnodes h fun hbody => ?_
    exact hassigns (.inside (by simp) (.empty hv hpairs) hbody)
  · obtain ⟨written, -, h⟩ := bind_eq_ok.1 h
    cases h
    rfl

/-- **A node that does not assign the variable** leaves it as it was. -/
theorem Node.keepsValue (page : Page) (key : String) (node : Node) : node.KeepsValue page key := by
  induction node using Node.induct false with
  | h node ih =>
    -- blocks that go on in the same scope pass on what their nodes keep; the others give the scope back
    cases node with
    | conditional position arms otherwise => exact conditional_keepsValue ih
    | loop position head body empty => exact loop_keepsValue fun node hnode => ih node (List.mem_append_right _ hnode)
    | text s =>
      intro scope out scope' out' h _
      cases h
      rfl
    | output e position =>
      intro scope out scope' out' h _
      obtain ⟨v, -, h⟩ := bind_eq_ok.1 h
      cases h
      rfl
    | assign position name e =>
      intro scope out scope' out' h hassigns
      obtain ⟨v, -, h⟩ := bind_eq_ok.1 h
      cases h
      have hne : key ≠ name := by
        rintro rfl
        exact hassigns .set
      rw [Scope.get?_set, if_neg hne]
    | defaults position props =>
      intro scope out scope' out' h hassigns
      obtain ⟨behind, hdefaults, h⟩ := bind_eq_ok.1 h
      cases h
      refine applyDefaults_keepsValue hdefaults fun front e more behind hprops hfront => ?_
      rw [← Bool.not_eq_true]
      intro hnull
      subst hprops
      exact hassigns (.default hfront hnull)
    | outlet slot fallback =>
      intro scope out scope' out' h hassigns
      rw [Node.render] at h
      split_ifs at h with hslot
      · cases h
        rfl
      · refine renderAll_keepsValue ih h fun hbody => ?_
        exact hassigns (.inside (by simp) (.fallback (Bool.eq_false_iff.2 hslot)) hbody)
    | fragment body =>
      intro scope out scope' out' h hassigns
      exact renderAll_keepsValue ih h fun hbody => hassigns (.inside (by simp) .fragment hbody)
    | component use template body slots =>
      intro scope out scope' out' h _
      rw [component_keeps_scope h]
    | custom tag use body =>
      intro scope out scope' out' h _
      obtain ⟨written, -, h⟩ := bind_eq_ok.1 h
      cases h
      rfl

/-! ## Inside of nodes -/

/-- an iteration sees what is around the loop, but for the names that the loop gives to it -/
theorem LoopHead.get?_scope {head : LoopHead} (hkey : key ∉ head.names) (around : Scope) (index total : Nat)
    (pair : Value × Value) : (head.scope around index total pair).get? key = around.get? key := by
  unfold LoopHead.scope
  unfold names at hkey
  cases hvalue : head.value with
  | none => simp_all [Scope.get?_set, Scope.get?_child]
  | some name => simp_all [Scope.get?_set, Scope.get?_child]

theorem SlotData.bindings_names (data : Data) (slotData : SlotData) :
    (slotData.bindings data).map (·.1) = slotData.names := by
  cases slotData with
  | nothing => rfl
  | everything name => rfl
  | keys list => simp [bindings, names]

/-- a slot sees what is around the component, but for the names that the component gives to it -/
theorem get?_slotScope {bindings : List (String × Value)} (hkey : key ∉ bindings.map (·.1)) (around : Scope) :
    (slotScope around bindings).get? key = around.get? key := by
  have hnone : Dict.last key bindings = none := by rwa [← Dict.isSome_last, Option.not_isSome_iff_eq_none] at hkey
  rw [Scope.slotScope_eq, Scope.get?, List.findSome?_cons, Dict.get?_ofList, hnone]
  rfl

/-- the data of a component template has the shared variables of the caller, but for the names of slots -/
theorem ComponentUse.get?_input {use : ComponentUse} {slots : List (String × List Node)} {data : Data}
    (hinput : use.input page slots scope = .ok (some data)) (hshared : key ∈ page.sharedKeys)
    (hkey : key ∉ slots.map (·.1)) (hvalue : scope.get? key = some v) : data.get? key = some v := by
  obtain ⟨given, prepared, contents, -, -, hcontents, rfl⟩ := input_eq_some.1 hinput
  have hnone : Dict.last key contents = none := by
    rw [← slotsWrite_names hcontents] at hkey
    rwa [← Dict.isSome_last, Option.not_isSome_iff_eq_none] at hkey
  rw [(withSlots_fills page scope prepared contents).value, hnone, Page.shared?, if_pos hshared, hvalue]
  rfl

theorem Node.Enters.sharedKeys_eq (h : node.Enters page scope page' nodes scope') :
    page'.sharedKeys = page.sharedKeys := by
  rcases h.cases with ⟨rfl, -⟩ | ⟨use, template, body, slots, -, rfl, -⟩ <;> rfl

/-- **Inside of a node that does not bind the variable** it has the value that it has in front of the node. -/
theorem Node.Enters.keepsValue (h : node.Enters page scope page' nodes scope') (hshared : key ∈ page.sharedKeys)
    (hbinds : ¬node.Binds page key scope page' nodes scope') (hvalue : scope.get? key = some v) :
    scope'.get? key = some v := by
  cases h with
  | arm | otherwise | empty | fallback | fragment => exact hvalue
  | iteration => rw [LoopHead.get?_scope fun hkey => hbinds (.iteration hkey), hvalue]
  | slot =>
    rw [get?_slotScope, hvalue]
    rw [SlotData.bindings_names]
    exact fun hkey => hbinds (.slot hkey)
  | template hinput =>
    have hdata := ComponentUse.get?_input hinput hshared (fun hkey => hbinds (.template hkey)) hvalue
    simpa [Scope.get?, Scope.root] using hdata
  | custom => rw [Scope.get?_child, hvalue]

/-- the way is one that rendering takes -/
theorem ReachesWithout.reaches (h : ReachesWithout key page nodes scope page' node scope') :
    Reaches page nodes scope page' node scope' := by
  induction h with
  | here => exact .here
  | inside henters _ _ ih => exact .inside henters ih
  | behind hfirst _ _ ih => exact .behind hfirst ih

/-- **A node at the end of the way** is rendered on its page and its scope: when it fails, the nodes that the way starts
at end with its error. -/
theorem ReachesWithout.render {e : TemplateError} (h : ReachesWithout key page nodes scope page' node scope')
    (hfails : node.render page' scope' "" = .error e) (out : String) : renderAll page nodes scope out = .error e :=
  h.reaches.render hfails out

/-- **At the end of the way** the shared variable has the value that it has at the start. -/
theorem ReachesWithout.get? (h : ReachesWithout key page nodes scope page' node scope')
    (hshared : key ∈ page.sharedKeys) (hvalue : scope.get? key = some v) : scope'.get? key = some v := by
  induction h with
  | here => exact hvalue
  | inside henters hbinds _ ih =>
    refine ih ?_ (henters.keepsValue hshared hbinds hvalue)
    rwa [henters.sharedKeys_eq]
  | behind hfirst hassigns _ ih =>
    refine ih hshared ?_
    rw [Node.keepsValue _ key _ _ _ _ _ hfirst hassigns, hvalue]

namespace TemplateSet

/-- **Shared variables.** Nodes are rendered on the page of a template that a set gives, all of them or those of a
fragment, and on data that has a value for a variable which the set shares. Wherever rendering comes, through any
nesting of component templates, slots, loops and branches, and whatever arguments are passed and setups do, a look-up of
the variable gives this value, unless on the way the variable was set, given a default where it was none, or made a
variable of a loop, a variable of slots or the name of a slot. -/
theorem shared_variables (loader : Loader) (options : Options) (ops : List Operation) (request : Request) {t : Template}
    (ht : (((new loader options).after ops).obtain request).1 = .ok t) {key : String}
    (hkey : key ∈ options.sharedKeys) {data : Data} {v : Value} (hvalue : data.get? key = some v) {nodes : List Node}
    {page : Page} {node : Node} {scope : Scope}
    (hreaches : ReachesWithout key t.page nodes (.root data) page node scope) : scope.get? key = some v := by
  have hshared : t.page.sharedKeys = options.sharedKeys := by
    rw [Gives.page_eq (usual_after loader options ops) (.page ht), Operation.after_options]
    rfl
  refine hreaches.get? (hshared ▸ hkey) ?_
  simpa [Scope.get?, Scope.root] using hvalue

/-- a leaf that has a default for its theme and shows it; its setup forgets the theme that it is given -/
def leaf : Component :=
  ⟨"leaf", .inline "\x7b% props theme='dark' %\x7d\x7b\x7b theme \x7d\x7d", [],
    some (SetupStep.setup [.delete "theme"])⟩

/-- the set of the leaf, which shares the theme -/
def leafSet : TemplateSet :=
  (new (.memory .empty) { Options.standard with tagPrefix := none, sharedKeys := ["theme"] }).after [.register leaf]

/-- a page with a leaf that is given a theme -/
def leafPage : String :=
  "\x7b% component \"leaf\" withAttrs \"theme\"='red' %\x7d\x7b% endcomponent %\x7d"

/-- the theme of the page -/
def leafData : Data :=
  .ofList [("theme", .str "light")]

/-- the page is one leaf, whose template is rendered -/
def isLeafPage (t : Template) : Bool :=
  match t.nodes with
  | [.component use _ [.defaults _ [("theme", _)], .output (.var "theme") _] slots] =>
    slots.map (·.1) == [defaultSlot] && (use.input t.page slots (.root leafData)).toOption.join.isSome
  | _ => false

theorem shared_variables_leaf :
    ∃ t page position data, (leafSet.obtain (.text leafPage)).1 = .ok t ∧
      ReachesWithout "theme" t.page t.nodes (.root leafData) page (.output (.var "theme") position) (.root data) ∧
      (Scope.root data).get? "theme" = some (.str "light") := by
  have hrun : (leafSet.obtain (.text leafPage)).1.toOption.any isLeafPage = true := by decide +kernel
  obtain ⟨t, ht, hleaf⟩ := (Option.any_eq_true _ _).1 hrun
  have hobtain := eq_ok_of_toOption ht
  unfold isLeafPage at hleaf
  split at hleaf
  · next use template position e position' slots hnodes =>
    simp only [Bool.and_eq_true, beq_iff_eq] at hleaf
    obtain ⟨hnames, hsome⟩ := hleaf
    obtain ⟨data, hinput⟩ := exists_eq_ok_some hsome
    -- the leaf sees the theme of the page, so its default is not used
    have hshared : "theme" ∈ t.page.sharedKeys := by
      rw [Gives.page_eq (usual_after _ _ [.register leaf]) (.page hobtain)]
      exact List.mem_singleton_self _
    have htheme : data.get? "theme" = some (.str "light") :=
      ComponentUse.get?_input hinput hshared (by rw [hnames]; decide) (by rfl)
    have hscope : (Scope.root data).get? "theme" = some (.str "light") := by simpa [Scope.get?, Scope.root] using htheme
    have hdefaults : (Node.defaults position [("theme", e)]).render { t.page with template } (.root data) "" =
        .ok (.root data, "") := by
      rw [Node.render, Page.applyDefaults, hscope]
      rfl
    have hreaches : ReachesWithout "theme" t.page t.nodes (.root leafData) { t.page with template }
        (.output (.var "theme") position') (.root data) := by
      rw [hnodes]
      refine .inside (.template hinput) ?_ (.behind hdefaults ?_ .here)
      · rw [Node.binds_template, hnames]
        decide
      · rw [assigns_defaults_singleton, hscope]
        decide
    have hvalue := shared_variables (.memory .empty) _ [.register leaf] (.text leafPage) hobtain (by decide) (by rfl)
      hreaches
    exact ⟨t, _, position', data, hobtain, hreaches, hvalue⟩
  · cases hleaf

end TemplateSet

end Templating
