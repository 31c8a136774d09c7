/-
What a use of a component hands to the template of the component.

A use evaluates its arguments, asks the setup, takes the shared variables of the caller and renders its slots;
`ComponentUse.input` is all of that, and what is left is the rendering of the template on it. `ComponentUse.Outcome`
says the same without the order in which the maps are written: which value stands under each key of each of them, and
where a use stops.

- `Node.render_component`: a use renders its input, if there is one, on a scope that holds nothing else.
- `ComponentUse.data_eq_ok`, `Page.share_shares`, `Scope.shows_iff`, `renderSlots_eq_ok`: the maps have these values.
- `Node.outcome`, `Node.outcome_unique`: rendering a use has this outcome and, when the setup keeps maps in order, no
  other.
- `component_data`: these for the component nodes that tags are compiled to.
-/
import Templating.Proofs.ComponentTree
import Templating.Proofs.DictLaws

namespace Templating

/-- the data that the template of the component is rendered on, none when the setup wants nothing rendered. This repeats
what `Node.render` does at a component before it comes to the template, since the slots are rendered there by the
recursion of `Node.render` itself; only `Node.render_component` keeps the two alike. -/
def ComponentUse.input (use : ComponentUse) (page : Page) (slots : List (String × List Node)) (scope : Scope) :
    Except TemplateError (Option Data) := do
  let given ← use.data page scope
  match use.prepared given with
  | .failed cause => .error (.render ⟨page.template, use.position⟩ (.setupFailed use.name cause))
  | .noContent => return none
  | .render prepared =>
    let data := page.share scope prepared
    let data ← renderSlots page (slotScope scope (use.slotData.bindings data)) slots data
    return some data

/-- a use renders the template of the component on its input, and the scope of the caller stays as it was -/
theorem Node.render_component (page : Page) (use : ComponentUse) (template : String) (body : List Node)
    (slots : List (String × List Node)) (scope : Scope) (out : String) :
    (component use template body slots).render page scope out =
      match use.input page slots scope with
      | .error e => .error e
      | .ok none => .ok (scope, out)
      | .ok (some data) =>
        (renderAll { page with template } body (.root data) out).map fun ended => (scope, ended.2) := by
  rw [Node.render, ComponentUse.input]
  cases use.data page scope with
  | error e => rfl
  | ok given =>
    simp only [bind, Except.bind]
    cases use.prepared given with
    | failed cause => rfl
    | noContent => rfl
    | render prepared =>
      simp only
      generalize renderSlots page _ slots _ = filled
      cases filled with
      | error e => rfl
      | ok data =>
        simp only [pure, Except.pure]
        cases renderAll { page with template } body (.root data) out <;> rfl

/-! ## what a use is given -/

/-- the expressions have these values, each under its key -/
def Evaluated (scope : Scope) : List (String × Expr) → List (String × Value) → Prop :=
  List.Forall₂ fun pair value => value.1 = pair.1 ∧ pair.2.eval scope = .ok value.2

/-- the data that a use starts with: under `attributes` the attributes by first place and last value, and under every
other key the last prop of that name -/
inductive ComponentUse.Starts (use : ComponentUse) (scope : Scope) : Data → Prop
  | intro {props attributes : List (String × Value)} {set : Attributes} {data : Data}
    (hprops : Evaluated scope use.props props) (hattributes : Evaluated scope use.attributes attributes)
    (horder : set.order = (attributes.map (·.1)).eraseDups)
    (hvalues : ∀ key, set.values.get? key = Dict.last key (attributes.map fun (key, value) => (key, value.text)))
    (hdata : ∀ key, data.get? key = if key = attributesKey then some (.attrs set) else Dict.last key props)
    (hsorted : set.values.Sorted ∧ data.Sorted) : Starts use scope data

theorem ComponentUse.Starts.sorted {use : ComponentUse} {scope : Scope} {data : Data} (h : use.Starts scope data) :
    data.Sorted := by
  obtain ⟨_, _, _, _, _, _, hsorted⟩ := h
  exact hsorted

namespace Page

variable {page : Page} {position : Position} {scope : Scope}

theorem eval_eq_ok {e : Expr} {v : Value} : page.eval position scope e = .ok v ↔ e.eval scope = .ok v := by
  unfold Page.eval
  cases e.eval scope <;> simp

theorem eval_eq_error {expr : Expr} {e : TemplateError} :
    page.eval position scope expr = .error e ↔
      ∃ fault, expr.eval scope = .error fault ∧ e = .render ⟨page.template, position⟩ (.evaluation fault) := by
  unfold Page.eval
  cases expr.eval scope <;> simp [eq_comm]

theorem evalPairs_eq_ok {pairs : List (String × Expr)} {values : List (String × Value)} :
    page.evalPairs position scope pairs = .ok values ↔ Evaluated scope pairs values := by
  induction pairs generalizing values with
  | nil => cases values <;> simp [evalPairs, Evaluated]
  | cons pair rest ih =>
    obtain ⟨key, expr⟩ := pair
    constructor
    · intro h
      obtain ⟨v, hv, h⟩ := bind_eq_ok.1 h
      obtain ⟨others, hothers, h⟩ := bind_eq_ok.1 h
      cases h
      exact .cons ⟨rfl, eval_eq_ok.1 hv⟩ (ih.1 hothers)
    · intro h
      obtain ⟨⟨key', v⟩, others, ⟨rfl, hv⟩, hothers, rfl⟩ := List.forall₂_cons_left_iff.1 h
      exact bind_eq_ok.2 ⟨v, eval_eq_ok.2 hv, bind_eq_ok.2 ⟨others, ih.2 hothers, rfl⟩⟩

theorem evalPairs_append (front rest : List (String × Expr)) :
    page.evalPairs position scope (front ++ rest) = do
      let values ← page.evalPairs position scope front
      let more ← page.evalPairs position scope rest
      return values ++ more := by
  induction front with
  | nil =>
    rw [List.nil_append, evalPairs]
    cases page.evalPairs position scope rest <;> rfl
  | cons pair front ih =>
    obtain ⟨key, expr⟩ := pair
    simp only [List.cons_append, evalPairs, ih]
    cases page.eval position scope expr with
    | error e => rfl
    | ok v =>
      cases page.evalPairs position scope front with
      | error e => rfl
      | ok values => cases page.evalPairs position scope rest <;> rfl

/-- the first expression that fails is the one that is told of -/
theorem evalPairs_eq_error {pairs : List (String × Expr)} {e : TemplateError} :
    page.evalPairs position scope pairs = .error e ↔
      ∃ front key expr rest values fault, pairs = front ++ (key, expr) :: rest ∧ Evaluated scope front values ∧
        expr.eval scope = .error fault ∧ e = .render ⟨page.template, position⟩ (.evaluation fault) := by
  induction pairs with
  | nil => simp [evalPairs]
  | cons pair pairs ih =>
    obtain ⟨key, expr⟩ := pair
    constructor
    · intro h
      rcases bind_eq_error.1 h with h | ⟨v, hv, h⟩
      · obtain ⟨fault, hfault, rfl⟩ := eval_eq_error.1 h
        exact ⟨[], key, expr, pairs, [], fault, rfl, .nil, hfault, rfl⟩
      · rcases bind_eq_error.1 h with h | ⟨others, -, h⟩
        · obtain ⟨front, key', expr', rest, values, fault, rfl, hfront, hfault, rfl⟩ := ih.1 h
          exact ⟨(key, expr) :: front, key', expr', rest, (key, v) :: values, fault, rfl,
            .cons ⟨rfl, eval_eq_ok.1 hv⟩ hfront, hfault, rfl⟩
        · cases h
    · rintro ⟨front, key', expr', rest, values, fault, hpairs, hfront, hfault, rfl⟩
      cases front with
      | nil =>
        cases hpairs
        exact bind_eq_error.2 (.inl (eval_eq_error.2 ⟨fault, hfault, rfl⟩))
      | cons head front =>
        obtain ⟨rfl, rfl⟩ := List.cons_eq_cons.1 hpairs
        obtain ⟨⟨key'', v⟩, others, ⟨rfl, hv⟩, hothers, rfl⟩ := List.forall₂_cons_left_iff.1 hfront
        have hrest := ih.2 ⟨front, key', expr', rest, others, fault, rfl, hothers, hfault, rfl⟩
        exact bind_eq_error.2 (.inr ⟨v, eval_eq_ok.2 hv, bind_eq_error.2 (.inl hrest)⟩)

end Page

namespace ComponentUse

variable {page : Page} {scope : Scope} {use : ComponentUse}

/-- **The data of a use** before its setup. -/
theorem data_eq_ok {data : Data} : use.data page scope = .ok data ↔ use.Starts scope data := by
  constructor
  · intro h
    obtain ⟨props, hprops, h⟩ := bind_eq_ok.1 h
    obtain ⟨attributes, hattributes, h⟩ := bind_eq_ok.1 h
    cases h
    refine .intro (Page.evalPairs_eq_ok.1 hprops) (Page.evalPairs_eq_ok.1 hattributes) ?_ (Attributes.get?_ofList _) ?_
      ⟨?_, ?_⟩
    · rw [Attributes.order_ofList, List.map_map]
      rfl
    · intro key
      rw [Data.setAttributes, Dict.get?_insert, Dict.get?_ofList]
    · rw [Attributes.values_ofList]
      exact Dict.sorted_ofList _
    · exact (Dict.sorted_ofList props).insert _ _
  · rintro ⟨hprops, hattributes, horder, hvalues, hdata, hset, hsorted⟩
    rename_i props attributes set
    have hset' : set = .ofList (attributes.map fun (key, value) => (key, value.text)) := by
      refine Attributes.eq_ofList ?_ hvalues hset
      rw [horder, List.map_map]
      rfl
    have hdata' : data = Data.setAttributes (.ofList props) set := by
      refine hsorted.ext ((Dict.sorted_ofList props).insert _ _) fun key => ?_
      rw [hdata, Data.setAttributes, Dict.get?_insert, Dict.get?_ofList]
    refine bind_eq_ok.2 ⟨props, Page.evalPairs_eq_ok.2 hprops,
      bind_eq_ok.2 ⟨attributes, Page.evalPairs_eq_ok.2 hattributes, ?_⟩⟩
    rw [hdata', hset']
    rfl

/-- an argument that fails is the first that does, of the props and then of the attributes -/
theorem data_eq_error {e : TemplateError} :
    use.data page scope = .error e ↔
      ∃ front key expr rest values fault, use.props ++ use.attributes = front ++ (key, expr) :: rest ∧
        Evaluated scope front values ∧ expr.eval scope = .error fault ∧
        e = .render ⟨page.template, use.position⟩ (.evaluation fault) := by
  have hall : use.data page scope = .error e ↔
      page.evalPairs use.position scope (use.props ++ use.attributes) = .error e := by
    rw [Page.evalPairs_append, data]
    simp [bind_eq_error, pure, Except.pure]
  rw [hall, Page.evalPairs_eq_error]

end ComponentUse

/-! ## what a use renders -/

/-- a shared variable that is in sight -/
def Page.shared? (page : Page) (scope : Scope) (key : String) : Option Value :=
  if key ∈ page.sharedKeys then scope.get? key else none

/-- the data behind the setup with the shared variables that are in sight -/
structure Page.Shares (page : Page) (scope : Scope) (left shown : Data) : Prop where
  value : ∀ key, shown.get? key = (page.shared? scope key).or (left.get? key)
  sorted : left.Sorted → shown.Sorted

/-- an empty scope inside another, but for these variables; of those with one name the last is there -/
structure Scope.Shows (scope : Scope) (bindings : List (String × Value)) (child : Scope) : Prop where
  outer : child.outer = scope.locals :: scope.outer
  value : ∀ name, child.locals.get? name = Dict.last name bindings
  sorted : child.locals.Sorted

/-- each slot, rendered alone on the scope, writes this text -/
def SlotsWrite (page : Page) (scope : Scope) : List (String × List Node) → List (String × String) → Prop :=
  List.Forall₂ fun slot content =>
    content.1 = slot.1 ∧ ∃ behind, renderAll page slot.2 scope "" = .ok (behind, content.2)

/-- the data that the template of a component sees: slots before shared variables before what the setup left -/
structure Page.Fills (page : Page) (scope : Scope) (left : Data) (contents : List (String × String)) (data : Data) :
    Prop where
  value : ∀ key, data.get? key =
    ((Dict.last key contents).map slotValue).or ((page.shared? scope key).or (left.get? key))
  sorted : left.Sorted → data.Sorted

namespace Page

variable {page : Page} {scope : Scope} {left : Data}

theorem share_shares (page : Page) (scope : Scope) (left : Data) : page.Shares scope left (page.share scope left) := by
  unfold share
  constructor
  · intro key
    unfold shared?
    induction page.sharedKeys generalizing left with
    | nil => simp
    | cons head keys ih =>
      rw [List.foldl_cons, ih]
      cases hget : scope.get? head with
      | none =>
        by_cases hkey : key = head
        · subst hkey
          simp [hget]
        · simp [hkey]
      | some v =>
        simp only [Dict.get?_insert]
        by_cases hkey : key = head
        · subst hkey
          by_cases hmem : key ∈ keys <;> simp [hget, hmem]
        · simp [hkey]
  · intro hleft
    induction page.sharedKeys generalizing left with
    | nil => exact hleft
    | cons head keys ih =>
      rw [List.foldl_cons]
      refine ih _ ?_
      split
      · exact hleft.insert head _
      · exact hleft

/-- data that is kept in order is known by its values -/
theorem Shares.eq {shown : Data} (h : page.Shares scope left shown) (hleft : left.Sorted) :
    shown = page.share scope left := by
  have hshare := page.share_shares scope left
  exact (h.sorted hleft).ext (hshare.sorted hleft) fun key => by rw [h.value, hshare.value]

end Page

namespace Scope

theorem slotScope_eq (scope : Scope) (bindings : List (String × Value)) :
    slotScope scope bindings = ⟨.ofList bindings, scope.locals :: scope.outer⟩ := by
  have hset : ∀ around : Scope, bindings.foldl (fun s (name, value) => s.set name value) around =
      ⟨bindings.foldl (fun d (name, value) => d.insert name value) around.locals, around.outer⟩ := by
    induction bindings with
    | nil => exact fun around => rfl
    | cons binding rest ih => exact fun around => ih (around.set binding.1 binding.2)
  exact hset scope.child

theorem shows_iff {scope child : Scope} {bindings : List (String × Value)} :
    scope.Shows bindings child ↔ child = slotScope scope bindings := by
  rw [slotScope_eq]
  constructor
  · rintro ⟨houter, hvalue, hsorted⟩
    have hlocals : child.locals = .ofList bindings :=
      hsorted.ext (Dict.sorted_ofList bindings) fun name => by rw [hvalue, Dict.get?_ofList]
    calc child = ⟨child.locals, child.outer⟩ := rfl
      _ = ⟨.ofList bindings, scope.locals :: scope.outer⟩ := by rw [hlocals, houter]
  · rintro rfl
    exact ⟨rfl, Dict.get?_ofList bindings, Dict.sorted_ofList bindings⟩

end Scope

section slots

variable {page : Page} {scope : Scope}

/-- the data with the texts of slots written over it one after the other -/
def Data.withSlots (data : Data) (contents : List (String × String)) : Data :=
  (contents.map fun (name, content) => (name, slotValue content)).foldl
    (fun d (name, value) => d.insert name value) data

theorem renderSlots_eq_ok {slots : List (String × List Node)} {data data' : Data} :
    renderSlots page scope slots data = .ok data' ↔
      ∃ contents, SlotsWrite page scope slots contents ∧ data' = data.withSlots contents := by
  induction slots generalizing data with
  | nil => simp [renderSlots, SlotsWrite, Data.withSlots, eq_comm]
  | cons slot slots ih =>
    obtain ⟨name, nodes⟩ := slot
    rw [renderSlots, bind_eq_ok]
    constructor
    · rintro ⟨⟨behind, content⟩, hcontent, h⟩
      obtain ⟨contents, hcontents, rfl⟩ := ih.1 h
      exact ⟨(name, content) :: contents, .cons ⟨rfl, behind, hcontent⟩ hcontents, rfl⟩
    · rintro ⟨contents, hcontents, rfl⟩
      obtain ⟨⟨name', content⟩, others, ⟨rfl, behind, hcontent⟩, hothers, rfl⟩ := List.forall₂_cons_left_iff.1 hcontents
      exact ⟨(behind, content), hcontent, ih.2 ⟨others, hothers, rfl⟩⟩

/-- the first slot that fails is the one that is told of -/
theorem renderSlots_eq_error {slots : List (String × List Node)} {data : Data} {e : TemplateError} :
    renderSlots page scope slots data = .error e ↔
      ∃ front name nodes rest contents, slots = front ++ (name, nodes) :: rest ∧ SlotsWrite page scope front contents ∧
        renderAll page nodes scope "" = .error e := by
  induction slots generalizing data with
  | nil => simp [renderSlots]
  | cons slot slots ih =>
    obtain ⟨name, nodes⟩ := slot
    rw [renderSlots, bind_eq_error]
    constructor
    · rintro (h | ⟨⟨behind, content⟩, hcontent, h⟩)
      · exact ⟨[], name, nodes, slots, [], rfl, .nil, h⟩
      · obtain ⟨front, name', nodes', rest, contents, rfl, hfront, hfails⟩ := ih.1 h
        exact ⟨(name, nodes) :: front, name', nodes', rest, (name, content) :: contents, rfl,
          .cons ⟨rfl, behind, hcontent⟩ hfront, hfails⟩
    · rintro ⟨front, name', nodes', rest, contents, hslots, hfront, hfails⟩
      cases front with
      | nil =>
        cases hslots
        exact .inl hfails
      | cons head front =>
        obtain ⟨rfl, rfl⟩ := List.cons_eq_cons.1 hslots
        obtain ⟨⟨_, content⟩, others, ⟨-, behind, hcontent⟩, hothers, -⟩ := List.forall₂_cons_left_iff.1 hfront
        exact .inr ⟨(behind, content), hcontent, ih.2 ⟨front, name', nodes', rest, others, rfl, hothers, hfails⟩⟩

theorem withSlots_fills (page : Page) (scope : Scope) (left : Data) (contents : List (String × String)) :
    page.Fills scope left contents ((page.share scope left).withSlots contents) where
  value key := by rw [Data.withSlots, Dict.get?_insertEach, Dict.last_map, (page.share_shares scope left).value]
  sorted hleft := ((page.share_shares scope left).sorted hleft).insertEach _

theorem Page.Fills.eq {left data : Data} {contents : List (String × String)} (h : page.Fills scope left contents data)
    (hleft : left.Sorted) : data = (page.share scope left).withSlots contents := by
  have hfills := withSlots_fills page scope left contents
  exact (h.sorted hleft).ext (hfills.sorted hleft) fun key => by rw [h.value, hfills.value]

end slots

/-! ## outcomes -/

/-- how the rendering of a use ends: with the scope of the caller and the text behind `out`, or with an error -/
inductive ComponentUse.Outcome (use : ComponentUse) (page : Page) (template : String) (body : List Node)
    (slots : List (String × List Node)) (scope : Scope) (out : String) : Rendered → Prop
  | argumentFails {front key expr rest values fault}
    (hargs : use.props ++ use.attributes = front ++ (key, expr) :: rest) (hfront : Evaluated scope front values)
    (hfails : expr.eval scope = .error fault) :
    Outcome use page template body slots scope out (.error (.render ⟨page.template, use.position⟩ (.evaluation fault)))
  | setupFails {start cause} (hstart : use.Starts scope start) (hsetup : use.prepared start = .failed cause) :
    Outcome use page template body slots scope out
      (.error (.render ⟨page.template, use.position⟩ (.setupFailed use.name cause)))
  | nothing {start} (hstart : use.Starts scope start) (hsetup : use.prepared start = .noContent) :
    Outcome use page template body slots scope out (.ok (scope, out))
  | slotFails {start left shown inside front name nodes rest contents e} (hstart : use.Starts scope start)
    (hsetup : use.prepared start = .render left) (hshown : page.Shares scope left shown)
    (hinside : scope.Shows (use.slotData.bindings shown) inside) (hslots : slots = front ++ (name, nodes) :: rest)
    (hfront : SlotsWrite page inside front contents) (hfails : renderAll page nodes inside "" = .error e) :
    Outcome use page template body slots scope out (.error e)
  | rendered {start left shown inside contents data} (hstart : use.Starts scope start)
    (hsetup : use.prepared start = .render left) (hshown : page.Shares scope left shown)
    (hinside : scope.Shows (use.slotData.bindings shown) inside) (hslots : SlotsWrite page inside slots contents)
    (hdata : page.Fills scope left contents data) :
    Outcome use page template body slots scope out
      ((renderAll { page with template } body (.root data) out).map fun ended => (scope, ended.2))

namespace Node

variable (use : ComponentUse) (page : Page) (template : String) (body : List Node)
  (slots : List (String × List Node)) (scope : Scope) (out : String)

/-- **Rendering a use of a component** has an outcome. -/
theorem outcome :
    use.Outcome page template body slots scope out ((component use template body slots).render page scope out) := by
  rw [render_component, ComponentUse.input]
  cases hgiven : use.data page scope with
  | error e =>
    obtain ⟨front, key, expr, rest, values, fault, hargs, hfront, hfails, rfl⟩ := ComponentUse.data_eq_error.1 hgiven
    exact .argumentFails hargs hfront hfails
  | ok start =>
    have hstart := ComponentUse.data_eq_ok.1 hgiven
    simp only [bind, Except.bind]
    cases hsetup : use.prepared start with
    | failed cause => exact .setupFails hstart hsetup
    | noContent => exact .nothing hstart hsetup
    | render left =>
      have hshown := page.share_shares scope left
      have hinside := Scope.shows_iff.2 (rfl : _ = slotScope scope (use.slotData.bindings (page.share scope left)))
      simp only
      cases hfilled : renderSlots page _ slots (page.share scope left) with
      | error e =>
        obtain ⟨front, name, nodes, rest, contents, hslots, hfront, hfails⟩ := renderSlots_eq_error.1 hfilled
        exact .slotFails hstart hsetup hshown hinside hslots hfront hfails
      | ok data =>
        obtain ⟨contents, hslots, rfl⟩ := renderSlots_eq_ok.1 hfilled
        exact .rendered hstart hsetup hshown hinside hslots (withSlots_fills page scope left contents)

/-- **It has no other**, when the setup leaves data in order that was given to it in order. -/
theorem outcome_unique
    (hsetup : ∀ start left, start.Sorted → use.prepared start = .render left → left.Sorted) {r : Rendered}
    (hr : use.Outcome page template body slots scope out r) :
    r = (component use template body slots).render page scope out := by
  rw [render_component, ComponentUse.input]
  cases hr with
  | argumentFails hargs hfront hfails =>
    rw [ComponentUse.data_eq_error.2 ⟨_, _, _, _, _, _, hargs, hfront, hfails, rfl⟩]
    rfl
  | setupFails hstart hprepared =>
    rw [ComponentUse.data_eq_ok.2 hstart]
    simp only [bind, Except.bind, hprepared]
  | nothing hstart hprepared =>
    rw [ComponentUse.data_eq_ok.2 hstart]
    simp only [bind, Except.bind, hprepared]
    rfl
  | slotFails hstart hprepared hshown hinside hslots hfront hfails =>
    have hleft := hsetup _ _ hstart.sorted hprepared
    rw [hshown.eq hleft] at hinside
    rw [ComponentUse.data_eq_ok.2 hstart]
    simp only [bind, Except.bind, hprepared]
    rw [← Scope.shows_iff.1 hinside, renderSlots_eq_error.2 ⟨_, _, _, _, _, hslots, hfront, hfails⟩]
  | rendered hstart hprepared hshown hinside hslots hdata =>
    have hleft := hsetup _ _ hstart.sorted hprepared
    rw [hshown.eq hleft] at hinside
    rw [ComponentUse.data_eq_ok.2 hstart]
    simp only [bind, Except.bind, hprepared]
    rw [← Scope.shows_iff.1 hinside, renderSlots_eq_ok.2 ⟨_, hslots, hdata.eq hleft⟩]
    rfl

end Node

/-! ## compiled uses -/

/-- **The data of components.** In the templates that a set gives, in any state, a component node is what a component
tag of a source is compiled to, with its named slots in the order of the source before the default slot. Rendering it
has the outcome that its arguments, the setup, the shared variables and the slots have by the rules of
`ComponentUse.Outcome`, and no other when the setup leaves data in order that was given to it in order. -/
theorem component_data :
    (∀ (s : TemplateSet), s.Reached → ∀ (request : Request) (t : Template), (s.obtain request).1 = .ok t →
      ∀ root ∈ t.nodes, ∀ use template body slots, root.Below (.component use template body slots) →
        ∃ source tokens opening starts named content, Template.tokens (s.preprocess source) = .ok tokens ∧
          s.UseFromTag opening use template body ∧ (opening :: starts).Sublist tokens ∧
          List.Forall₂ Template.Opens starts (named.map (·.1)) ∧ slots = named ++ [(defaultSlot, content)]) ∧
    ∀ (use : ComponentUse) (page : Page) (template : String) (body : List Node) (slots : List (String × List Node))
      (scope : Scope) (out : String),
      use.Outcome page template body slots scope out
        ((Node.component use template body slots).render page scope out) ∧
      ((∀ start left, start.Sorted → use.prepared start = .render left → left.Sorted) →
        ∀ r, use.Outcome page template body slots scope out r →
          r = (Node.component use template body slots).render page scope out) := by
  refine ⟨fun s hs request t ht root hroot use template body slots hbelow => ?_, ?_⟩
  · rcases hs.fromTags ht hroot hbelow with ⟨_, _, _, _, -, hsub, -⟩ | ⟨source, tokens, htokens, hfrom⟩
    · simp at hsub
    · obtain ⟨opening, starts, named, content, huse, hsub, hstarts, hslots⟩ := hfrom
      exact ⟨source, tokens, opening, starts, named, content, htokens, huse, hsub, hstarts, hslots⟩
  · intro use page template body slots scope out
    exact ⟨Node.outcome use page template body slots scope out, fun hsetup r hr =>
      Node.outcome_unique use page template body slots scope out hsetup hr⟩

/-- a setup that adds a kind -/
def addKind : Setup := SetupStep.setup [.set "kind" (.str "plain")]

/-- a box with a kind, which shows its title, its kind and its slots -/
def box : Component :=
  ⟨"box", .inline "\x7b\x7b title \x7d\x7d \x7b\x7b kind \x7d\x7d \x7b\x7b head \x7d\x7d \x7b\x7b slot \x7d\x7d",
    ["title"], some addKind⟩

/-- a page with a box that has a head -/
def boxPage : String :=
  "\x7b% component \"box\" withAttrs \"title\"=\"a\" \"title\"=\"b\" %\x7d" ++
    "\x7b% slot \"head\" %\x7d h \x7b% endslot %\x7d c \x7b% endcomponent %\x7d"

/-- the set of the box, without component markup -/
def boxSet : TemplateSet :=
  (TemplateSet.new (.memory .empty) { Options.standard with tagPrefix := none }).after [.register box]

theorem boxSet_reached : boxSet.Reached :=
  .apply (.new (.memory .empty) { Options.standard with tagPrefix := none }) (.register box)

theorem addKind_sorted {start left : Data} (hstart : start.Sorted) (h : addKind start = .render left) :
    left.Sorted := by
  cases h
  exact hstart.insert _ _

theorem boxSet_component (name : String) (k : Component) (h : boxSet.registry.get? name = some k) : k = box := by
  simp only [boxSet, TemplateSet.after, List.foldl_cons, List.foldl_nil, Operation.apply, TemplateSet.register,
    TemplateSet.clearCache, TemplateSet.new, Registry.register, Dict.get?_insert, Dict.get?_empty] at h
  split_ifs at h
  cases h
  rfl

/-- the page is one component with two slots, and this is what it writes -/
def writesBox (t : Template) : Bool :=
  match t.nodes with
  | [.component use template body slots] =>
    slots.map (·.1) == ["head", defaultSlot] &&
      ((Node.component use template body slots).render t.page (.root .empty) "").toOption.any (·.2 == "b plain h c")
  | _ => false

theorem component_data_box :
    ∃ t use template body slots ended, (boxSet.obtain (.text boxPage)).1 = .ok t ∧
      t.nodes = [.component use template body slots] ∧ slots.map (·.1) = ["head", defaultSlot] ∧
      (∀ r, use.Outcome t.page template body slots (.root .empty) "" r ↔ r = .ok ended) ∧ ended.2 = "b plain h c" := by
  have hrun : (boxSet.obtain (.text boxPage)).1.toOption.any writesBox = true := by decide +kernel
  obtain ⟨t, ht, hrun⟩ := (Option.any_eq_true _ _).1 hrun
  have hobtain := eq_ok_of_toOption ht
  unfold writesBox at hrun
  split at hrun
  · next use template body slots hnodes =>
    simp only [Bool.and_eq_true, beq_iff_eq] at hrun
    obtain ⟨hnames, hrun⟩ := hrun
    obtain ⟨ended, hended, htext⟩ := (Option.any_eq_true _ _).1 hrun
    have hrender := eq_ok_of_toOption hended
    obtain ⟨_, _, _, _, _, _, -, huse, -, -, -⟩ := component_data.1 boxSet boxSet_reached (.text boxPage) t hobtain
      (.component use template body slots) (by simp [hnodes]) use template body slots .refl
    obtain ⟨_, _, tag, _, _, _, -, -, hregistry, -, husedOf, -, -, -⟩ := huse
    have hsetup : use.setup = some addKind := by
      rw [husedOf, Template.useOf, boxSet_component tag.name tag.component hregistry]
      rfl
    obtain ⟨houtcome, hunique⟩ := component_data.2 use t.page template body slots (.root .empty) ""
    refine ⟨t, use, template, body, slots, ended, hobtain, hnodes, hnames, fun r => ⟨fun hr => ?_, ?_⟩, ?_⟩
    · rw [← hrender]
      refine hunique (fun start left hstart hleft => ?_) r hr
      rw [ComponentUse.prepared, hsetup] at hleft
      exact addKind_sorted hstart hleft
    · rintro rfl
      rw [← hrender]
      exact houtcome
    · simpa using htext
  · cases hrun

end Templating
