/-
Where assignments are seen.

Nodes pass the scope on to the nodes behind them. Only `set` and `props` tags write into it; what a loop does in an
iteration and a component in its slots happens in child scopes. `Node.assigns` lists the names that nodes can write into
the scope that they are given.

- `render_keeps`: a node leaves every other variable as it was.
- `iterateEach_append`: an iteration adds the text that its body writes alone, whatever earlier bodies assigned.
- `slotsWrite_append`: a slot holds the text that its body writes alone, whatever other slots assigned.
- `assignments_stay`: these together.
-/
import Templating.Proofs.Buffer

namespace Templating

/-! ## Names that nodes assign -/

namespace Node

mutual

/-- the names that the node can write into its scope -/
def assigns : Node → List String
  | text _ | output _ _ | component _ _ _ _ | custom _ _ _ => []
  | conditional _ arms otherwise => assignsOfArms arms ++ assignsOf otherwise
  | loop _ _ _ empty => assignsOf empty
  | assign _ name _ => [name]
  | defaults _ props => props.map (·.1)
  | outlet _ fallback => assignsOf fallback
  | fragment body => assignsOf body

/-- the names that the nodes can write into their scope -/
def assignsOf : List Node → List String
  | [] => []
  | node :: rest => node.assigns ++ assignsOf rest

/-- the names that the arms of a conditional can write into their scope -/
def assignsOfArms : List (Expr × List Node) → List String
  | [] => []
  | (_, body) :: rest => assignsOf body ++ assignsOfArms rest

end

end Node

/-- the scope is the one before, but for these names in its innermost map -/
structure Scope.DiffersAt (names : List String) (before behind : Scope) : Prop where
  outer : behind.outer = before.outer
  locals : ∀ x, x ∉ names → behind.locals.get? x = before.locals.get? x

namespace Scope.DiffersAt

variable {names more : List String} {s₁ s₂ s₃ : Scope}

theorem refl (names : List String) (s : Scope) : DiffersAt names s s :=
  ⟨rfl, fun _ _ => rfl⟩

theorem mono (h : DiffersAt names s₁ s₂) (hsub : names ⊆ more) : DiffersAt more s₁ s₂ :=
  ⟨h.outer, fun x hx => h.locals x fun hmem => hx (hsub hmem)⟩

theorem trans (h : DiffersAt names s₁ s₂) (h' : DiffersAt names s₂ s₃) : DiffersAt names s₁ s₃ :=
  ⟨h'.outer.trans h.outer, fun x hx => (h'.locals x hx).trans (h.locals x hx)⟩

theorem append (h : DiffersAt names s₁ s₂) (h' : DiffersAt more s₂ s₃) : DiffersAt (names ++ more) s₁ s₃ :=
  (h.mono (List.subset_append_left ..)).trans (h'.mono (List.subset_append_right ..))

theorem set (s : Scope) (name : String) (v : Value) : DiffersAt [name] s (s.set name v) where
  outer := rfl
  locals x hx := by
    have hne : x ≠ name := by simpa using hx
    simp [Scope.set, Dict.get?_insert, hne]

end Scope.DiffersAt

/-! ## Nodes that share a scope -/

/-- rendering the node writes no other names than it assigns -/
def Node.KeepsScope (page : Page) (node : Node) : Prop :=
  ∀ scope out scope' out', node.render page scope out = .ok (scope', out') → Scope.DiffersAt node.assigns scope scope'

variable {page : Page} {scope scope' : Scope} {out out' : String}

theorem applyDefaults_keeps {position : Position} {props : List (String × Expr)}
    (h : page.applyDefaults position props scope = .ok scope') :
    Scope.DiffersAt (props.map (·.1)) scope scope' := by
  induction props generalizing scope with
  | nil =>
    cases h
    exact .refl _ _
  | cons prop rest ih =>
    obtain ⟨key, e⟩ := prop
    rw [Page.applyDefaults] at h
    split_ifs at h
    · obtain ⟨v, -, h⟩ := bind_eq_ok.1 h
      exact (Scope.DiffersAt.set scope key v).append (ih h)
    · exact (ih h).mono (List.subset_cons_self ..)

theorem renderAll_keeps {nodes : List Node} (hnodes : ∀ node ∈ nodes, node.KeepsScope page)
    (h : renderAll page nodes scope out = .ok (scope', out')) :
    Scope.DiffersAt (Node.assignsOf nodes) scope scope' := by
  induction nodes generalizing scope out with
  | nil =>
    cases h
    exact .refl _ _
  | cons node rest ih =>
    rw [renderAll] at h
    obtain ⟨⟨scope₁, out₁⟩, hfirst, h⟩ := bind_eq_ok.1 h
    have hkept := hnodes node List.mem_cons_self _ _ _ _ hfirst
    exact hkept.append (ih (fun node hnode => hnodes node (List.mem_cons_of_mem _ hnode)) h)

theorem renderArms_keeps {position : Position} {arms : List (Expr × List Node)} {names : List String}
    {otherwise : Scope → String → Rendered} (harms : ∀ node ∈ arms.flatMap (·.2), node.KeepsScope page)
    (hotherwise : otherwise scope out = .ok (scope', out') → Scope.DiffersAt names scope scope')
    (h : renderArms page position arms otherwise scope out = .ok (scope', out')) :
    Scope.DiffersAt (Node.assignsOfArms arms ++ names) scope scope' := by
  induction arms with
  | nil => exact hotherwise h
  | cons arm rest ih =>
    obtain ⟨condition, body⟩ := arm
    simp only [List.flatMap_cons, List.mem_append, or_imp, forall_and] at harms
    rw [renderArms] at h
    obtain ⟨v, -, h⟩ := bind_eq_ok.1 h
    rw [Node.assignsOfArms, List.append_assoc]
    split_ifs at h
    · exact (renderAll_keeps harms.1 h).mono (List.subset_append_left ..)
    · exact (ih harms.2 h).mono (List.subset_append_right ..)

/-- a component leaves the scope of its caller as it was -/
theorem component_keeps_scope {use : ComponentUse} {template : String} {body : List Node}
    {slots : List (String × List Node)}
    (h : (Node.component use template body slots).render page scope out = .ok (scope', out')) : scope' = scope := by
  rw [Node.render_component] at h
  split at h
  · cases h
  · cases h
    rfl
  · obtain ⟨ended, -, h⟩ := map_eq_ok.1 h
    cases h
    rfl

/-- **A node leaves every variable as it was** that it does not assign. -/
theorem render_keeps (page : Page) (node : Node) : node.KeepsScope page := by
  induction node using Node.induct false with
  | h node ih =>
    intro scope out scope' out' h
    cases node with
    | text s =>
      cases h
      exact .refl _ _
    | output e position =>
      obtain ⟨v, -, h⟩ := bind_eq_ok.1 h
      cases h
      exact .refl _ _
    | conditional position arms otherwise =>
      refine renderArms_keeps (fun node hnode => ih node (List.mem_append_left _ hnode)) (fun h => ?_) h
      exact renderAll_keeps (fun node hnode => ih node (List.mem_append_right _ hnode)) h
    | loop position head body empty =>
      rw [Node.render] at h
      obtain ⟨v, -, h⟩ := bind_eq_ok.1 h
      split at h
      · cases h
      · exact renderAll_keeps (fun node hnode => ih node (List.mem_append_right _ hnode)) h
      · obtain ⟨written, -, h⟩ := bind_eq_ok.1 h
        cases h
        exact .refl _ _
    | assign position name e =>
      obtain ⟨v, -, h⟩ := bind_eq_ok.1 h
      cases h
      exact .set scope name v
    | defaults position props =>
      obtain ⟨behind, hdefaults, h⟩ := bind_eq_ok.1 h
      cases h
      exact applyDefaults_keeps hdefaults
    | outlet slot fallback =>
      rw [Node.render] at h
      split_ifs at h
      · cases h
        exact .refl _ _
      · exact renderAll_keeps ih h
    | fragment body => exact renderAll_keeps ih h
    | component use template body slots =>
      rw [component_keeps_scope h]
      exact .refl _ _
    | custom tag use body =>
      obtain ⟨written, -, h⟩ := bind_eq_ok.1 h
      cases h
      exact .refl _ _

/-! ## Loops -/

theorem renderAll_singleton (page : Page) (node : Node) (scope : Scope) (out : String) :
    renderAll page [node] scope out = node.render page scope out := by
  rw [renderAll]
  cases node.render page scope out <;> rfl

/-- nodes onto a text put what they write alone behind it -/
theorem renderAll_alone (page : Page) (nodes : List Node) (scope : Scope) (out : String) :
    renderAll page nodes scope out =
      (renderAll page nodes scope "").map fun (behind, text) => (behind, out ++ text) := by
  obtain ⟨result, added, h⟩ := writeAll_follows page nodes scope
  rw [(h out).2, (h "").2]
  cases result <;> simp [Except.map]

/-- the text that nodes write alone -/
def textOf (page : Page) (nodes : List Node) (scope : Scope) : Except TemplateError String :=
  (renderAll page nodes scope "").map (·.2)

theorem renderAll_text (page : Page) (nodes : List Node) (scope : Scope) (out : String) :
    (renderAll page nodes scope out).map Prod.snd = (textOf page nodes scope).map (out ++ ·) := by
  rw [renderAll_alone, textOf]
  cases renderAll page nodes scope "" <;> rfl

/-- the iterations of a loop, each with nodes of its own -/
def LoopHead.iterateEach (head : LoopHead) (page : Page) (around : Scope) (total : Nat) :
    (index : Nat) → List ((Value × Value) × List Node) → String → Except TemplateError String
  | _, [], out => .ok out
  | index, (pair, nodes) :: rest, out => do
    let (_, out) ← renderAll page nodes (head.scope around index total pair) out
    head.iterateEach page around total (index + 1) rest out

variable (head : LoopHead) (around : Scope) (total : Nat)

theorem iterate_eq_each (page : Page) (body : List Node) (index : Nat) (pairs : List (Value × Value)) (out : String) :
    head.iterate (fun scope out => renderAll page body scope out) around total index pairs out =
      head.iterateEach page around total index (pairs.map (·, body)) out := by
  induction pairs generalizing index out with
  | nil => rfl
  | cons pair rest ih =>
    simp only [LoopHead.iterate, List.map_cons, LoopHead.iterateEach]
    exact congrArg _ (funext fun ended => ih (index + 1) ended.2)

/-- **An iteration** adds what its body writes alone on a scope that no other iteration had. -/
theorem iterateEach_append (page : Page) (index : Nat) (front : List ((Value × Value) × List Node))
    (pair : Value × Value) (nodes : List Node) (rest : List ((Value × Value) × List Node)) (out : String) :
    head.iterateEach page around total index (front ++ (pair, nodes) :: rest) out = (do
      let before ← head.iterateEach page around total index front out
      let text ← textOf page nodes (head.scope around (index + front.length) total pair)
      head.iterateEach page around total (index + front.length + 1) rest (before ++ text)) := by
  induction front generalizing index out with
  | nil =>
    simp only [List.nil_append, LoopHead.iterateEach, textOf]
    rw [renderAll_alone]
    cases renderAll page nodes (head.scope around index total pair) "" <;> rfl
  | cons first front ih =>
    obtain ⟨pair', nodes'⟩ := first
    simp only [List.cons_append, LoopHead.iterateEach, List.length_cons, bind_assoc]
    refine congrArg _ (funext fun ended => ?_)
    rw [ih]
    have hindex : index + 1 + front.length = index + (front.length + 1) := by omega
    rw [hindex]

/-! ## Slots -/

theorem slotsWrite_names {slots : List (String × List Node)} {contents : List (String × String)}
    (h : SlotsWrite page scope slots contents) : contents.map (·.1) = slots.map (·.1) := by
  induction h with
  | nil => rfl
  | cons hcontent _ ih => rw [List.map_cons, List.map_cons, hcontent.1, ih]

/-- **A slot** holds what its body writes alone on the scope that all slots start on. -/
theorem slotsWrite_append {front rest : List (String × List Node)} {name : String} {nodes : List Node}
    {contents : List (String × String)} :
    SlotsWrite page scope (front ++ (name, nodes) :: rest) contents ↔
      ∃ before text behind, contents = before ++ (name, text) :: behind ∧ SlotsWrite page scope front before ∧
        textOf page nodes scope = .ok text ∧ SlotsWrite page scope rest behind := by
  have htext : ∀ text, textOf page nodes scope = .ok text ↔
      ∃ scope', renderAll page nodes scope "" = .ok (scope', text) := by
    intro text
    simp [textOf, map_eq_ok]
  induction front generalizing contents with
  | nil =>
    constructor
    · intro h
      obtain ⟨⟨name', text⟩, behind, ⟨rfl, hcontent⟩, hrest, rfl⟩ := List.forall₂_cons_left_iff.1 h
      exact ⟨[], text, behind, rfl, .nil, (htext text).2 hcontent, hrest⟩
    · rintro ⟨before, text, behind, rfl, hbefore, hcontent, hrest⟩
      cases hbefore
      exact .cons ⟨rfl, (htext text).1 hcontent⟩ hrest
  | cons slot front ih =>
    constructor
    · intro h
      obtain ⟨content, others, hcontent, hothers, rfl⟩ := List.forall₂_cons_left_iff.1 h
      obtain ⟨before, text, behind, rfl, hbefore, htext, hrest⟩ := ih.1 hothers
      exact ⟨content :: before, text, behind, rfl, .cons hcontent hbefore, htext, hrest⟩
    · rintro ⟨before, text, behind, rfl, hbefore, htext, hrest⟩
      obtain ⟨content, others, hcontent, hothers, rfl⟩ := List.forall₂_cons_left_iff.1 hbefore
      exact .cons hcontent (ih.2 ⟨others, text, behind, rfl, hothers, htext, hrest⟩)

theorem exists_eq_ok_some {x : Except TemplateError (Option Data)} (h : x.toOption.join.isSome = true) :
    ∃ data, x = .ok (some data) := by
  rcases x with e | _ | data
  · cases h
  · cases h
  · exact ⟨data, rfl⟩

/-- the data that a component template sees: what is there without slots, and a text for each slot -/
theorem input_eq_some {use : ComponentUse} {slots : List (String × List Node)} {data : Data} :
    use.input page slots scope = .ok (some data) ↔
      ∃ given prepared contents, use.data page scope = .ok given ∧ use.prepared given = .render prepared ∧
        SlotsWrite page (slotScope scope (use.slotData.bindings (page.share scope prepared))) slots contents ∧
        data = (page.share scope prepared).withSlots contents := by
  constructor
  · intro h
    obtain ⟨given, hgiven, h⟩ := bind_eq_ok.1 h
    cases hprepared : use.prepared given with
    | failed cause =>
      rw [hprepared] at h
      cases h
    | noContent =>
      rw [hprepared] at h
      cases h
    | render prepared =>
      rw [hprepared] at h
      obtain ⟨filled, hfilled, h⟩ := bind_eq_ok.1 h
      cases h
      obtain ⟨contents, hcontents, heq⟩ := renderSlots_eq_ok.1 hfilled
      exact ⟨given, prepared, contents, hgiven, hprepared, hcontents, heq⟩
  · rintro ⟨given, prepared, contents, hgiven, hprepared, hcontents, heq⟩
    rw [ComponentUse.input, hgiven]
    simp only [bind, Except.bind, hprepared, renderSlots_eq_ok.2 ⟨contents, hcontents, heq⟩]
    rfl

theorem get?_withSlots_last (data : Data) (contents : List (String × String)) (name text : String) :
    (data.withSlots (contents ++ [(name, text)])).get? name = some (slotValue text) := by
  simp [Data.withSlots, Dict.get?_insert]

/-! ## Assignments stay in their block -/

/-- **Assignments stay in their block.** Nodes leave the scope as it was but for the names that they assign outside of
loop bodies, slots and component templates. A loop with items gives the scope back unchanged, and so does a component.
Iteration for iteration, a loop writes what the body of the iteration writes on a scope of its own: whatever else
earlier bodies do, as long as they succeed, the same text is added or the same error told. A slot holds the same text
whatever the other slots of the component do, as long as they succeed. -/
theorem assignments_stay :
    (∀ (page : Page) (nodes : List Node) (scope : Scope) (out : String) (scope' : Scope) (out' : String),
      renderAll page nodes scope out = .ok (scope', out') → Scope.DiffersAt (Node.assignsOf nodes) scope scope') ∧
    (∀ (page : Page) (position : Position) (head : LoopHead) (body empty : List Node) (scope : Scope) (out : String)
      (v : Value) (pair : Value × Value) (pairs : List (Value × Value)),
      page.eval position scope head.items = .ok v → v.pairs? = some (pair :: pairs) →
        (Node.loop position head body empty).render page scope out =
          (head.iterateEach page scope (pairs.length + 1) 0 ((pair :: pairs).map (·, body)) out).map (scope, ·)) ∧
    (∀ (page : Page) (use : ComponentUse) (template : String) (body : List Node) (slots : List (String × List Node))
      (scope : Scope) (out : String) (scope' : Scope) (out' : String),
      (Node.component use template body slots).render page scope out = .ok (scope', out') → scope' = scope) ∧
    (∀ (page : Page) (head : LoopHead) (around : Scope) (total : Nat)
      (earlier earlier' : List ((Value × Value) × List Node)) (pair : Value × Value) (nodes : List Node)
      (out before before' : String),
      earlier.map (·.1) = earlier'.map (·.1) → head.iterateEach page around total 0 earlier out = .ok before →
      head.iterateEach page around total 0 earlier' out = .ok before' →
        let text := textOf page nodes (head.scope around earlier.length total pair)
        head.iterateEach page around total 0 (earlier ++ [(pair, nodes)]) out = text.map (before ++ ·) ∧
          head.iterateEach page around total 0 (earlier' ++ [(pair, nodes)]) out = text.map (before' ++ ·)) ∧
    ∀ (page : Page) (use : ComponentUse) (scope : Scope) (front front' rest rest' : List (String × List Node))
      (name : String) (nodes : List Node) (data data' : Data),
      use.input page (front ++ (name, nodes) :: rest) scope = .ok (some data) →
      use.input page (front' ++ (name, nodes) :: rest') scope = .ok (some data') →
        ∃ left inside text before behind before' behind', scope.Shows (use.slotData.bindings left) inside ∧
          textOf page nodes inside = .ok text ∧ data = Data.withSlots left (before ++ (name, text) :: behind) ∧
          data' = Data.withSlots left (before' ++ (name, text) :: behind') ∧
          before.map (·.1) = front.map (·.1) ∧ behind.map (·.1) = rest.map (·.1) ∧
          before'.map (·.1) = front'.map (·.1) ∧ behind'.map (·.1) = rest'.map (·.1) := by
  refine ⟨?_, ?_, ?_, ?_, ?_⟩
  · intro page nodes scope out scope' out' h
    exact renderAll_keeps (fun node _ => render_keeps page node) h
  · intro page position head body empty scope out v pair pairs hv hpairs
    rw [← iterate_eq_each, Node.render, hv]
    simp only [bind, Except.bind, hpairs]
    rfl
  · intro page use template body slots scope out scope' out' h
    exact component_keeps_scope h
  · intro page head around total earlier earlier' pair nodes out before before' hpairs hbefore hbefore'
    have hlength : earlier.length = earlier'.length := by simpa using congrArg List.length hpairs
    constructor
    · rw [iterateEach_append, hbefore, Nat.zero_add]
      cases textOf page nodes (head.scope around earlier.length total pair) <;> rfl
    · rw [iterateEach_append, hbefore', Nat.zero_add, ← hlength]
      cases textOf page nodes (head.scope around earlier.length total pair) <;> rfl
  · intro page use scope front front' rest rest' name nodes data data' hdata hdata'
    obtain ⟨given, prepared, contents, hgiven, hprepared, hwrite, rfl⟩ := input_eq_some.1 hdata
    obtain ⟨given', prepared', contents', hgiven', hprepared', hwrite', rfl⟩ := input_eq_some.1 hdata'
    cases hgiven.symm.trans hgiven'
    cases hprepared.symm.trans hprepared'
    obtain ⟨before, text, behind, rfl, hbefore, htext, hbehind⟩ := slotsWrite_append.1 hwrite
    obtain ⟨before', text', behind', rfl, hbefore', htext', hbehind'⟩ := slotsWrite_append.1 hwrite'
    cases htext.symm.trans htext'
    exact ⟨_, _, text, before, behind, before', behind', Scope.shows_iff.2 rfl, htext, rfl, rfl,
      slotsWrite_names hbefore, slotsWrite_names hbehind, slotsWrite_names hbefore', slotsWrite_names hbehind'⟩

/-- what a body sees of the one before it, and then something for the one behind it to see -/
def markSeen : List Node :=
  [.conditional .start [(.var "seen", [.text "again"])] [.text "first"],
    .assign .start "seen" (.literal (.bool true))]

/-- a body that assigns nothing -/
def markNothing : List Node :=
  [.text "none"]

/-- a loop that marks every item -/
def markHead : LoopHead := ⟨"item", none, .var "items"⟩

/-- a component that uses nothing but its slots -/
def panelUse : ComponentUse := ⟨.start, "panel", none, [], [], .nothing⟩

/-- a scope with two items -/
def twoItems : Scope := .root (.ofList [("items", .list [.int 1, .int 2])])

theorem assignments_stay_marks :
    (∃ behind text, renderAll ⟨"page", []⟩ [.loop .start markHead markSeen []] twoItems "" = .ok (behind, text) ∧
      behind.locals.get? "seen" = twoItems.locals.get? "seen") ∧
    (Node.loop .start markHead markSeen []).render ⟨"page", []⟩ twoItems "" =
      (markHead.iterateEach ⟨"page", []⟩ twoItems 2 0 [((.int 1, .null), markSeen), ((.int 2, .null), markSeen)] "").map
        (twoItems, ·) ∧
    (∃ text, (Node.component panelUse "panel" [] [("head", markSeen)]).render ⟨"page", []⟩ twoItems "" =
      .ok (twoItems, text)) ∧
    (∃ text : Except TemplateError String,
      markHead.iterateEach ⟨"page", []⟩ twoItems 2 0 [((.int 1, .null), markSeen), ((.int 2, .null), markSeen)] "" =
        text.map ("first" ++ ·) ∧
      markHead.iterateEach ⟨"page", []⟩ twoItems 2 0 [((.int 1, .null), markNothing), ((.int 2, .null), markSeen)] "" =
        text.map ("none" ++ ·)) ∧
    ∃ data data', panelUse.input ⟨"page", []⟩ [("head", markSeen), ("slot", markSeen)] twoItems = .ok (some data) ∧
      panelUse.input ⟨"page", []⟩ [("head", markNothing), ("slot", markSeen)] twoItems = .ok (some data') ∧
      data.get? "slot" = data'.get? "slot" := by
  obtain ⟨hnodes, hloop, hcomponent, hiterations, hslots⟩ := assignments_stay
  refine ⟨?_, ?_, ?_, ?_, ?_⟩
  · obtain ⟨⟨behind, text⟩, h⟩ := exists_eq_ok_of_isOk
      (show (renderAll ⟨"page", []⟩ [.loop .start markHead markSeen []] twoItems "").isOk = true by decide)
    exact ⟨behind, text, h, (hnodes _ _ _ _ _ _ h).locals "seen" (by decide)⟩
  · exact hloop ⟨"page", []⟩ .start markHead markSeen [] twoItems "" (.list [.int 1, .int 2]) (.int 1, .null)
      [(.int 2, .null)] rfl rfl
  · obtain ⟨⟨behind, text⟩, h⟩ := exists_eq_ok_of_isOk
      (show ((Node.component panelUse "panel" [] [("head", markSeen)]).render ⟨"page", []⟩ twoItems "").isOk = true
        by decide)
    exact ⟨text, hcomponent _ _ _ _ _ _ _ _ _ h ▸ h⟩
  · exact ⟨_, hiterations ⟨"page", []⟩ markHead twoItems 2 [((.int 1, .null), markSeen)]
      [((.int 1, .null), markNothing)] (.int 2, .null) markSeen "" "first" "none" rfl rfl rfl⟩
  · obtain ⟨data, hdata⟩ := exists_eq_ok_some
      (show (panelUse.input ⟨"page", []⟩ [("head", markSeen), ("slot", markSeen)] twoItems).toOption.join.isSome = true
        by decide)
    obtain ⟨data', hdata'⟩ := exists_eq_ok_some
      (show (panelUse.input ⟨"page", []⟩ [("head", markNothing), ("slot", markSeen)] twoItems).toOption.join.isSome =
        true by decide)
    obtain ⟨left, inside, text, before, behind, before', behind', -, -, rfl, rfl, -, hbehind, -, hbehind'⟩ :=
      hslots ⟨"page", []⟩ panelUse twoItems [("head", markSeen)] [("head", markNothing)] [] [] "slot" markSeen _ _
        hdata hdata'
    refine ⟨_, _, hdata, hdata', ?_⟩
    rw [List.map_eq_nil_iff.1 hbehind, List.map_eq_nil_iff.1 hbehind', get?_withSlots_last, get?_withSlots_last]

end Templating
