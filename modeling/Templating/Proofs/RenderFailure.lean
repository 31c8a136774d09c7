/-
Why rendering stops.

Rendering goes from node to node and stops at the first that fails. A node fails by itself when an expression of its tag
has no value, when there is nothing to loop over or when a setup fails (`Node.Fails`); otherwise it comes to the nodes
of a body, maybe on another page and scope, after everything before them was fine (`Node.Enters`). `Reaches` is the way
to a node, and `Stops` the way to one that fails.

- `Node.Fails.render`, `Node.Enters.render`: a node that fails, or comes to nodes that do, tells of it.
- `Node.breaks_of_error`: a node that tells of an error does one of the two.
- `Reaches.render`: a node that is reached is rendered, and where it fails the nodes end with its error.
- `renderAll_eq_error`: so nodes end with an error exactly when they stop, and it tells where.
-/
import Templating.Proofs.Assignments

namespace Templating

/-! ## Failures -/

/-- what fails -/
inductive Cause where
  /-- an expression has no value -/
  | expression (e : Expr) (fault : EvalFault)
  /-- the condition of a further arm of a conditional has no value -/
  | laterArm (e : Expr) (fault : EvalFault)
  /-- a loop is over a value without items -/
  | items (e : Expr) (v : Value)
  /-- the setup of a component fails -/
  | setup (use : ComponentUse) (cause : String)

/-- the fault that is told -/
def Cause.fault : Cause → RenderFault
  | expression _ fault | laterArm _ fault => .evaluation fault
  | items _ v => .notIterable v.typeName
  | setup use cause => .setupFailed use.name cause

/-- a node that fails: the page it is rendered on, the position that is told, and what fails -/
structure Failure where
  page : Page
  node : Node
  position : Position
  cause : Cause

/-- the error that tells of a failure -/
def Failure.error (failure : Failure) : TemplateError :=
  .render ⟨failure.page.template, failure.position⟩ failure.cause.fault

/-- no condition of the arms is true -/
def Untrue (scope : Scope) (arms : List (Expr × List Node)) : Prop :=
  ∀ arm ∈ arms, ∃ v, arm.1.eval scope = .ok v ∧ v.isTruthy = false

namespace Node

/-- the node fails by itself, and everything before that was fine -/
inductive Fails (page : Page) : Node → Scope → Position → Cause → Prop
  | output {e position scope fault} (hfails : e.eval scope = .error fault) :
    Fails page (.output e position) scope position (.expression e fault)
  | firstArm {position e body rest otherwise scope fault} (hfails : e.eval scope = .error fault) :
    Fails page (.conditional position ((e, body) :: rest) otherwise) scope position (.expression e fault)
  | laterArm {position arm front e body rest otherwise scope fault} (hfront : Untrue scope (arm :: front))
    (hfails : e.eval scope = .error fault) :
    Fails page (.conditional position (arm :: front ++ (e, body) :: rest) otherwise) scope position (.laterArm e fault)
  | items {position head body empty scope fault} (hfails : head.items.eval scope = .error fault) :
    Fails page (.loop position head body empty) scope position (.expression head.items fault)
  | notIterable {position head body empty scope v} (hv : head.items.eval scope = .ok v) (hfails : v.pairs? = none) :
    Fails page (.loop position head body empty) scope position (.items head.items v)
  | assign {position name e scope fault} (hfails : e.eval scope = .error fault) :
    Fails page (.assign position name e) scope position (.expression e fault)
  | default {position front key e rest scope behind fault}
    (hfront : page.applyDefaults position front scope = .ok behind)
    (hnull : ((behind.get? key).getD .null).isNull = true) (hfails : e.eval behind = .error fault) :
    Fails page (.defaults position (front ++ (key, e) :: rest)) scope position (.expression e fault)
  | argument {use template body slots front key e rest values scope fault}
    (hargs : use.props ++ use.attributes = front ++ (key, e) :: rest) (hfront : Evaluated scope front values)
    (hfails : e.eval scope = .error fault) :
    Fails page (.component use template body slots) scope use.position (.expression e fault)
  | setup {use template body slots start cause scope} (hstart : use.Starts scope start)
    (hfails : use.prepared start = .failed cause) :
    Fails page (.component use template body slots) scope use.position (.setup use cause)

/-- rendering the node comes to the nodes, on the page and the scope, and everything before that was fine -/
inductive Enters (page : Page) : Node → Scope → Page → List Node → Scope → Prop
  | arm {position front e body rest otherwise scope v} (hfront : Untrue scope front) (hv : e.eval scope = .ok v)
    (htrue : v.isTruthy = true) :
    Enters page (.conditional position (front ++ (e, body) :: rest) otherwise) scope page body scope
  | otherwise {position arms otherwise scope} (harms : Untrue scope arms) :
    Enters page (.conditional position arms otherwise) scope page otherwise scope
  | iteration {position head body empty scope v front pair rest text} (hv : head.items.eval scope = .ok v)
    (hpairs : v.pairs? = some (front ++ pair :: rest))
    (hfront : head.iterate (fun scope out => renderAll page body scope out) scope (front ++ pair :: rest).length 0 front
      "" = .ok text) :
    Enters page (.loop position head body empty) scope page body
      (head.scope scope front.length (front ++ pair :: rest).length pair)
  | empty {position head body empty scope v} (hv : head.items.eval scope = .ok v) (hpairs : v.pairs? = some []) :
    Enters page (.loop position head body empty) scope page empty scope
  | fallback {slot fallback scope} (hslot : ((scope.get? slot).getD .null).isTruthy = false) :
    Enters page (.outlet slot fallback) scope page fallback scope
  | fragment {body scope} : Enters page (.fragment body) scope page body scope
  | slot {use template body front name nodes rest start left contents scope} (hstart : use.Starts scope start)
    (hsetup : use.prepared start = .render left)
    (hfront : SlotsWrite page (slotScope scope (use.slotData.bindings (page.share scope left))) front contents) :
    Enters page (.component use template body (front ++ (name, nodes) :: rest)) scope page nodes
      (slotScope scope (use.slotData.bindings (page.share scope left)))
  | template {use template body slots data scope} (hinput : use.input page slots scope = .ok (some data)) :
    Enters page (.component use template body slots) scope { page with template } body (.root data)
  | custom {tag use body scope} : Enters page (.custom tag use body) scope page body scope.child

end Node

/-- the way to the node that fails: it is the first, or it is in what the first comes to, or behind it -/
inductive Stops : Page → List Node → Scope → Failure → Prop
  | here {page node rest scope position cause} (hfails : node.Fails page scope position cause) :
    Stops page (node :: rest) scope ⟨page, node, position, cause⟩
  | inside {page node rest scope page' nodes scope' failure} (henters : node.Enters page scope page' nodes scope')
    (hstops : Stops page' nodes scope' failure) : Stops page (node :: rest) scope failure
  | behind {page node rest scope scope' text failure} (hfirst : node.render page scope "" = .ok (scope', text))
    (hstops : Stops page rest scope' failure) : Stops page (node :: rest) scope failure

/-- the way to a node that is rendered: it is the first, or it is in what the first comes to, or behind it -/
inductive Reaches : Page → List Node → Scope → Page → Node → Scope → Prop
  | here {page node rest scope} : Reaches page (node :: rest) scope page node scope
  | inside {page node rest scope page₁ nodes scope₁ page' node' scope'}
    (henters : node.Enters page scope page₁ nodes scope₁)
    (hreaches : Reaches page₁ nodes scope₁ page' node' scope') : Reaches page (node :: rest) scope page' node' scope'
  | behind {page node rest scope scope₁ text page' node' scope'}
    (hfirst : node.render page scope "" = .ok (scope₁, text))
    (hreaches : Reaches page rest scope₁ page' node' scope') : Reaches page (node :: rest) scope page' node' scope'

/-- rendering that stops has come to the node that fails -/
theorem Stops.reaches {page : Page} {nodes : List Node} {scope : Scope} {failure : Failure}
    (h : Stops page nodes scope failure) :
    ∃ scope', Reaches page nodes scope failure.page failure.node scope' ∧
      failure.node.Fails failure.page scope' failure.position failure.cause := by
  induction h with
  | here hfails => exact ⟨_, .here, hfails⟩
  | inside henters _ ih =>
    obtain ⟨scope', hreaches, hfails⟩ := ih
    exact ⟨scope', .inside henters hreaches, hfails⟩
  | behind hfirst _ ih =>
    obtain ⟨scope', hreaches, hfails⟩ := ih
    exact ⟨scope', .behind hfirst hreaches, hfails⟩

variable {page : Page} {scope : Scope} {out : String} {e : TemplateError} {position : Position}

/-! ## The text before -/

/-- nodes fail on every text or on none -/
theorem renderAll_error_onto (page : Page) (nodes : List Node) (scope : Scope) (out : String) :
    renderAll page nodes scope out = .error e ↔ renderAll page nodes scope "" = .error e := by
  rw [renderAll_alone page nodes scope out, map_eq_error]

/-- so does a node, and the scope behind it does not depend on the text either -/
theorem Node.render_alone (page : Page) (node : Node) (scope : Scope) (out : String) :
    node.render page scope out =
      (node.render page scope "").map fun (behind, added) => (behind, out ++ added) := by
  simpa only [renderAll_singleton] using renderAll_alone page [node] scope out

/-- iterations on a text put what they write alone behind it -/
theorem LoopHead.iterate_alone (head : LoopHead) (page : Page) (body : List Node) (around : Scope) (total index : Nat)
    (pairs : List (Value × Value)) (out : String) :
    head.iterate (fun scope out => renderAll page body scope out) around total index pairs out =
      (head.iterate (fun scope out => renderAll page body scope out) around total index pairs "").map (out ++ ·) := by
  induction pairs generalizing index out with
  | nil => simp [iterate, Except.map]
  | cons pair rest ih =>
    simp only [iterate]
    rw [renderAll_alone]
    cases renderAll page body (head.scope around index total pair) "" with
    | error e => rfl
    | ok ended =>
      simp only [Except.map, bind, Except.bind]
      rw [ih, ih (index + 1) ended.2]
      cases head.iterate _ around total (index + 1) rest "" <;> simp [Except.map, String.append_assoc]

/-- a loop over something writes its iterations -/
theorem Node.render_loop {head : LoopHead} {body empty : List Node} {v : Value} {pairs : List (Value × Value)}
    (hv : head.items.eval scope = .ok v) (hpairs : v.pairs? = some pairs) (hne : pairs ≠ []) :
    (loop position head body empty).render page scope out =
      (head.iterate (fun scope out => renderAll page body scope out) scope pairs.length 0 pairs out).map
        (scope, ·) := by
  obtain ⟨pair, rest, rfl⟩ := List.exists_cons_of_ne_nil hne
  rw [Node.render, Page.eval_eq_ok.2 hv]
  simp only [bind, Except.bind, hpairs]
  cases head.iterate _ scope (pair :: rest).length 0 (pair :: rest) out <;> rfl

/-! ## Arms -/

theorem renderArms_untrue {front : List (Expr × List Node)} (h : Untrue scope front) (page : Page) (position : Position)
    (rest : List (Expr × List Node)) (otherwise : Scope → String → Rendered) (out : String) :
    renderArms page position (front ++ rest) otherwise scope out =
      renderArms page position rest otherwise scope out := by
  induction front with
  | nil => rfl
  | cons arm front ih =>
    obtain ⟨condition, body⟩ := arm
    obtain ⟨⟨v, hv, hfalse⟩, hfront⟩ := List.forall_mem_cons.1 h
    rw [List.cons_append, renderArms, Page.eval_eq_ok.2 hv]
    simp only [bind, Except.bind, hfalse, Bool.false_eq_true, if_false]
    exact ih hfront

/-- no condition is true, or there is a first one that is or that has no value -/
theorem untrue_or_first (scope : Scope) (arms : List (Expr × List Node)) :
    Untrue scope arms ∨ ∃ front e body rest, arms = front ++ (e, body) :: rest ∧ Untrue scope front ∧
      ((∃ fault, e.eval scope = .error fault) ∨ ∃ v, e.eval scope = .ok v ∧ v.isTruthy = true) := by
  induction arms with
  | nil => exact .inl (by simp [Untrue])
  | cons arm arms ih =>
    obtain ⟨e, body⟩ := arm
    have hnone : Untrue scope [] := by simp [Untrue]
    cases hv : e.eval scope with
    | error fault => exact .inr ⟨[], e, body, arms, rfl, hnone, .inl ⟨fault, hv⟩⟩
    | ok v =>
      cases htrue : v.isTruthy with
      | true => exact .inr ⟨[], e, body, arms, rfl, hnone, .inr ⟨v, hv, htrue⟩⟩
      | false =>
        have hcons : ∀ front, Untrue scope front → Untrue scope ((e, body) :: front) :=
          fun front hfront => List.forall_mem_cons.2 ⟨⟨v, hv, htrue⟩, hfront⟩
        rcases ih with h | ⟨front, e', body', rest, rfl, hfront, h⟩
        · exact .inl (hcons arms h)
        · exact .inr ⟨(e, body) :: front, e', body', rest, rfl, hcons front hfront, h⟩

/-! ## Defaults and iterations -/

/-- the first default that fails is the one that is told of -/
theorem Page.applyDefaults_eq_error {props : List (String × Expr)} :
    page.applyDefaults position props scope = .error e ↔
      ∃ front key expr rest behind fault, props = front ++ (key, expr) :: rest ∧
        page.applyDefaults position front scope = .ok behind ∧ ((behind.get? key).getD .null).isNull = true ∧
        expr.eval behind = .error fault ∧ e = .render ⟨page.template, position⟩ (.evaluation fault) := by
  induction props generalizing scope with
  | nil => simp [applyDefaults]
  | cons prop props ih =>
    obtain ⟨key, expr⟩ := prop
    constructor
    · intro h
      rw [applyDefaults] at h
      split_ifs at h with hnull
      · rcases bind_eq_error.1 h with h | ⟨v, hv, h⟩
        · obtain ⟨fault, hfault, rfl⟩ := eval_eq_error.1 h
          exact ⟨[], key, expr, props, scope, fault, rfl, rfl, hnull, hfault, rfl⟩
        · obtain ⟨front, key', expr', rest, behind, fault, rfl, hfront, htold⟩ := ih.1 h
          refine ⟨(key, expr) :: front, key', expr', rest, behind, fault, rfl, ?_, htold⟩
          rw [applyDefaults, if_pos hnull]
          exact bind_eq_ok.2 ⟨v, hv, hfront⟩
      · obtain ⟨front, key', expr', rest, behind, fault, rfl, hfront, htold⟩ := ih.1 h
        exact ⟨(key, expr) :: front, key', expr', rest, behind, fault, rfl, by rwa [applyDefaults, if_neg hnull], htold⟩
    · rintro ⟨front, key', expr', rest, behind, fault, hprops, hfront, hnull', hfault, rfl⟩
      cases front with
      | nil =>
        cases hprops
        cases hfront
        rw [applyDefaults, if_pos hnull']
        exact bind_eq_error.2 (.inl (eval_eq_error.2 ⟨fault, hfault, rfl⟩))
      | cons first front =>
        obtain ⟨rfl, rfl⟩ := List.cons_eq_cons.1 hprops
        rw [applyDefaults] at hfront ⊢
        split_ifs at hfront ⊢ with hnull
        · obtain ⟨v, hv, hfront⟩ := bind_eq_ok.1 hfront
          exact bind_eq_error.2
            (.inr ⟨v, hv, ih.2 ⟨front, key', expr', rest, behind, fault, rfl, hfront, hnull', hfault, rfl⟩⟩)
        · exact ih.2 ⟨front, key', expr', rest, behind, fault, rfl, hfront, hnull', hfault, rfl⟩

/-- the first iteration that fails is the one that is told of -/
theorem LoopHead.iterate_eq_error {head : LoopHead} {body : Scope → String → Rendered} {around : Scope} {total : Nat}
    {index : Nat} {pairs : List (Value × Value)} :
    head.iterate body around total index pairs out = .error e ↔
      ∃ front pair rest text, pairs = front ++ pair :: rest ∧
        head.iterate body around total index front out = .ok text ∧
        body (head.scope around (index + front.length) total pair) text = .error e := by
  induction pairs generalizing index out with
  | nil => simp [iterate]
  | cons pair pairs ih =>
    rw [iterate, bind_eq_error]
    constructor
    · rintro (h | ⟨⟨behind, text⟩, hfirst, h⟩)
      · exact ⟨[], pair, pairs, out, rfl, rfl, h⟩
      · obtain ⟨front, pair', rest, text', rfl, hfront, hfails⟩ := ih.1 h
        refine ⟨pair :: front, pair', rest, text', rfl, ?_, ?_⟩
        · exact bind_eq_ok.2 ⟨(behind, text), hfirst, hfront⟩
        · rwa [List.length_cons, Nat.add_comm front.length, ← Nat.add_assoc]
    · rintro ⟨front, pair', rest, text, hpairs, hfront, hfails⟩
      cases front with
      | nil =>
        cases hpairs
        cases hfront
        exact .inl hfails
      | cons first front =>
        obtain ⟨rfl, rfl⟩ := List.cons_eq_cons.1 hpairs
        obtain ⟨⟨behind, text'⟩, hfirst, hfront⟩ := bind_eq_ok.1 hfront
        refine .inr ⟨(behind, text'), hfirst, ih.2 ⟨front, pair', rest, text, rfl, hfront, ?_⟩⟩
        rwa [List.length_cons, Nat.add_comm front.length, ← Nat.add_assoc] at hfails

/-! ## One node -/

/-- a component whose arguments, setup or slots fail has no input -/
theorem ComponentUse.input_eq_error {use : ComponentUse} {slots : List (String × List Node)} :
    use.input page slots scope = .error e ↔
      use.data page scope = .error e ∨
        ∃ start, use.Starts scope start ∧
          ((∃ cause, use.prepared start = .failed cause ∧
              e = .render ⟨page.template, use.position⟩ (.setupFailed use.name cause)) ∨
            ∃ left front name nodes rest contents, use.prepared start = .render left ∧
              slots = front ++ (name, nodes) :: rest ∧
              SlotsWrite page (slotScope scope (use.slotData.bindings (page.share scope left))) front contents ∧
              renderAll page nodes (slotScope scope (use.slotData.bindings (page.share scope left))) "" =
                .error e) := by
  rw [input, bind_eq_error]
  refine or_congr_right (exists_congr fun start => ?_)
  rw [data_eq_ok]
  refine and_congr_right fun _ => ?_
  cases use.prepared start with
  | failed cause => simp [eq_comm]
  | noContent => simp [pure, Except.pure]
  | render left => simp [bind_eq_error, pure, Except.pure, renderSlots_eq_error]

/-- **A node that fails** tells of it. -/
theorem Node.Fails.render {node : Node} {cause : Cause} (h : node.Fails page scope position cause) (out : String) :
    node.render page scope out = .error (Failure.error ⟨page, node, position, cause⟩) := by
  have heval : ∀ {e : Expr} {fault : EvalFault}, e.eval scope = .error fault →
      page.eval position scope e = .error (.render ⟨page.template, position⟩ (.evaluation fault)) :=
    fun hfails => Page.eval_eq_error.2 ⟨_, hfails, rfl⟩
  cases h with
  | output hfails | assign hfails | items hfails => exact bind_eq_error.2 (.inl (heval hfails))
  | firstArm hfails =>
    rw [Node.render, renderArms]
    exact bind_eq_error.2 (.inl (heval hfails))
  | laterArm hfront hfails =>
    rw [Node.render, renderArms_untrue hfront, renderArms]
    exact bind_eq_error.2 (.inl (heval hfails))
  | notIterable hv hfails =>
    rw [Node.render, Page.eval_eq_ok.2 hv]
    simp only [bind, Except.bind, hfails]
    rfl
  | default hfront hnull hfails =>
    rw [Node.render]
    exact bind_eq_error.2 (.inl (Page.applyDefaults_eq_error.2 ⟨_, _, _, _, _, _, rfl, hfront, hnull, hfails, rfl⟩))
  | argument hargs hfront hfails =>
    rw [Node.render_component, ComponentUse.input_eq_error.2 (.inl (ComponentUse.data_eq_error.2
      ⟨_, _, _, _, _, _, hargs, hfront, hfails, rfl⟩))]
    rfl
  | setup hstart hfails =>
    rw [Node.render_component, ComponentUse.input_eq_error.2 (.inr ⟨_, hstart, .inl ⟨_, hfails, rfl⟩⟩)]
    rfl

/-- **A node that comes to nodes** which fail fails like them. -/
theorem Node.Enters.render {node : Node} {page' : Page} {nodes : List Node} {scope' : Scope}
    (h : node.Enters page scope page' nodes scope') (hfails : renderAll page' nodes scope' "" = .error e)
    (out : String) : node.render page scope out = .error e := by
  have honto : ∀ out, renderAll page' nodes scope' out = .error e :=
    fun out => (renderAll_error_onto page' nodes scope' out).2 hfails
  cases h with
  | arm hfront hv htrue =>
    rw [Node.render, renderArms_untrue hfront, renderArms, Page.eval_eq_ok.2 hv]
    simpa only [bind, Except.bind, htrue, if_true] using honto out
  | @otherwise _ arms _ _ harms =>
    have huntrue := renderArms_untrue harms page ‹_› [] (fun scope out => renderAll page nodes scope out) out
    rw [List.append_nil] at huntrue
    rw [Node.render, huntrue]
    exact honto out
  | @iteration _ head _ _ _ _ front pair rest text hv hpairs hfront =>
    have hall : head.iterate (fun scope out => renderAll page nodes scope out) scope (front ++ pair :: rest).length 0
        (front ++ pair :: rest) "" = .error e := by
      refine LoopHead.iterate_eq_error.2 ⟨front, pair, rest, text, rfl, hfront, ?_⟩
      rw [Nat.zero_add]
      exact honto text
    rw [Node.render_loop hv hpairs (by simp), LoopHead.iterate_alone, hall]
    rfl
  | empty hv hpairs =>
    rw [Node.render, Page.eval_eq_ok.2 hv]
    simpa only [bind, Except.bind, hpairs] using honto out
  | fallback hslot =>
    rw [Node.render]
    simpa only [hslot, Bool.false_eq_true, if_false] using honto out
  | fragment => exact honto out
  | slot hstart hsetup hfront =>
    rw [Node.render_component, ComponentUse.input_eq_error.2
      (.inr ⟨_, hstart, .inr ⟨_, _, _, _, _, _, hsetup, rfl, hfront, hfails⟩⟩)]
  | template hinput =>
    rw [Node.render_component, hinput]
    simp only [honto out, Except.map]
  | custom => exact bind_eq_error.2 (.inl (honto _))

/-- the node fails with the error, or it comes to nodes that do -/
def Node.Breaks (page : Page) (node : Node) (scope : Scope) (e : TemplateError) : Prop :=
  (∃ position cause, node.Fails page scope position cause ∧ e = Failure.error ⟨page, node, position, cause⟩) ∨
    ∃ page' nodes scope', node.Enters page scope page' nodes scope' ∧ renderAll page' nodes scope' "" = .error e

theorem conditional_breaks {arms : List (Expr × List Node)} {otherwise : List Node}
    (h : (Node.conditional position arms otherwise).render page scope out = .error e) :
    (Node.conditional position arms otherwise).Breaks page scope e := by
  rw [Node.render] at h
  rcases untrue_or_first scope arms with harms | ⟨front, expr, body, rest, rfl, hfront, hfirst⟩
  · have huntrue := renderArms_untrue harms page position [] (fun scope out => renderAll page otherwise scope out) out
    rw [List.append_nil] at huntrue
    rw [huntrue, renderArms, renderAll_error_onto] at h
    exact .inr ⟨page, otherwise, scope, .otherwise harms, h⟩
  · rw [renderArms_untrue hfront, renderArms] at h
    rcases hfirst with ⟨fault, hfails⟩ | ⟨v, hv, htrue⟩
    · rw [Page.eval_eq_error.2 ⟨fault, hfails, rfl⟩] at h
      cases h
      cases front with
      | nil => exact .inl ⟨position, .expression expr fault, .firstArm hfails, rfl⟩
      | cons arm front => exact .inl ⟨position, .laterArm expr fault, .laterArm hfront hfails, rfl⟩
    · rw [Page.eval_eq_ok.2 hv] at h
      simp only [bind, Except.bind, htrue, if_true] at h
      exact .inr ⟨page, body, scope, .arm hfront hv htrue, (renderAll_error_onto page body scope out).1 h⟩

theorem loop_breaks {head : LoopHead} {body empty : List Node}
    (h : (Node.loop position head body empty).render page scope out = .error e) :
    (Node.loop position head body empty).Breaks page scope e := by
  cases hv : head.items.eval scope with
  | error fault =>
    rw [Node.render, Page.eval_eq_error.2 ⟨fault, hv, rfl⟩] at h
    cases h
    exact .inl ⟨position, .expression head.items fault, .items hv, rfl⟩
  | ok v =>
    cases hpairs : v.pairs? with
    | none =>
      rw [Node.render, Page.eval_eq_ok.2 hv] at h
      simp only [bind, Except.bind, hpairs] at h
      cases h
      exact .inl ⟨position, .items head.items v, .notIterable hv hpairs, rfl⟩
    | some pairs =>
      by_cases hne : pairs = []
      · subst hne
        rw [Node.render, Page.eval_eq_ok.2 hv] at h
        simp only [bind, Except.bind, hpairs] at h
        exact .inr ⟨page, empty, scope, .empty hv hpairs, (renderAll_error_onto page empty scope out).1 h⟩
      · rw [Node.render_loop hv hpairs hne, LoopHead.iterate_alone, map_eq_error, map_eq_error] at h
        obtain ⟨front, pair, rest, text, rfl, hfront, hfails⟩ := LoopHead.iterate_eq_error.1 h
        rw [Nat.zero_add, renderAll_error_onto] at hfails
        exact .inr ⟨page, body, _, .iteration hv hpairs hfront, hfails⟩

theorem component_breaks {use : ComponentUse} {template : String} {body : List Node} {slots : List (String × List Node)}
    (h : (Node.component use template body slots).render page scope out = .error e) :
    (Node.component use template body slots).Breaks page scope e := by
  rw [Node.render_component] at h
  split at h
  · next error hinput =>
    cases h
    rcases ComponentUse.input_eq_error.1 hinput with hdata | ⟨start, hstart, hsetup | hslot⟩
    · obtain ⟨front, key, expr, rest, values, fault, hargs, hfront, hfails, rfl⟩ := ComponentUse.data_eq_error.1 hdata
      exact .inl ⟨use.position, .expression expr fault, .argument hargs hfront hfails, rfl⟩
    · obtain ⟨cause, hfails, rfl⟩ := hsetup
      exact .inl ⟨use.position, .setup use cause, .setup hstart hfails, rfl⟩
    · obtain ⟨left, front, name, nodes, rest, contents, hprepared, rfl, hfront, hfails⟩ := hslot
      exact .inr ⟨page, nodes, _, .slot hstart hprepared hfront, hfails⟩
  · cases h
  · next data hinput =>
    rw [map_eq_error, renderAll_error_onto] at h
    exact .inr ⟨{ page with template }, body, .root data, .template hinput, h⟩

/-- **A node that tells of an error** fails with it, or comes to nodes that do. -/
theorem Node.breaks_of_error {node : Node} (h : node.render page scope out = .error e) :
    node.Breaks page scope e := by
  cases node with
  | text s => cases h
  | output expr position =>
    rcases bind_eq_error.1 h with h | ⟨v, -, h⟩
    · obtain ⟨fault, hfails, rfl⟩ := Page.eval_eq_error.1 h
      exact .inl ⟨position, .expression expr fault, .output hfails, rfl⟩
    · cases h
  | conditional position arms otherwise => exact conditional_breaks h
  | loop position head body empty => exact loop_breaks h
  | assign position name expr =>
    rcases bind_eq_error.1 h with h | ⟨v, -, h⟩
    · obtain ⟨fault, hfails, rfl⟩ := Page.eval_eq_error.1 h
      exact .inl ⟨position, .expression expr fault, .assign hfails, rfl⟩
    · cases h
  | defaults position props =>
    rcases bind_eq_error.1 h with h | ⟨v, -, h⟩
    · obtain ⟨front, key, expr, rest, behind, fault, rfl, hfront, hnull, hfails, rfl⟩ :=
        Page.applyDefaults_eq_error.1 h
      exact .inl ⟨position, .expression expr fault, .default hfront hnull hfails, rfl⟩
    · cases h
  | outlet slot fallback =>
    rw [Node.render] at h
    split_ifs at h with hslot
    exact .inr ⟨page, fallback, scope, .fallback (eq_false_of_ne_true hslot), (renderAll_error_onto ..).1 h⟩
  | fragment body => exact .inr ⟨page, body, scope, .fragment, (renderAll_error_onto ..).1 h⟩
  | component use template body slots => exact component_breaks h
  | custom tag use body =>
    rcases bind_eq_error.1 h with h | ⟨ended, -, h⟩
    · exact .inr ⟨page, body, scope.child, .custom, (renderAll_error_onto ..).1 h⟩
    · cases h

/-! ## Nodes one after the other -/

/-- a node comes to nodes directly below it: on the same page, or to those of the template of a component -/
theorem Node.Enters.cases {node : Node} {page' : Page} {nodes : List Node} {scope' : Scope}
    (h : node.Enters page scope page' nodes scope') :
    (page' = page ∧ nodes ⊆ node.children false) ∨
      ∃ use template body slots, node = .component use template body slots ∧ page' = { page with template } ∧
        nodes = body := by
  cases h with
  | template => exact .inr ⟨_, _, _, _, rfl, rfl, rfl⟩
  | _ => exact .inl ⟨rfl, by simp [children]⟩

theorem Node.children_subset (node : Node) : node.children false ⊆ node.children true := by
  cases node with
  | component use template body slots => simp [children]
  | _ => exact List.Subset.refl _

theorem Node.Enters.subset {node : Node} {page' : Page} {nodes : List Node} {scope' : Scope}
    (h : node.Enters page scope page' nodes scope') : nodes ⊆ node.children true := by
  rcases h.cases with ⟨-, hsub⟩ | ⟨use, template, body, slots, rfl, -, rfl⟩
  · exact List.Subset.trans hsub node.children_subset
  · simp [children]

/-- nodes that stop end with the error of the failure -/
theorem Stops.render {nodes : List Node} {failure : Failure} (h : Stops page nodes scope failure) (out : String) :
    renderAll page nodes scope out = .error failure.error := by
  induction h generalizing out with
  | here hfails =>
    rw [renderAll]
    exact bind_eq_error.2 (.inl (hfails.render out))
  | inside henters _ ih =>
    rw [renderAll]
    exact bind_eq_error.2 (.inl (henters.render (ih "") out))
  | behind hfirst _ ih =>
    rw [renderAll, Node.render_alone, hfirst]
    exact ih _

/-- a node that is reached is rendered: nodes end with the error that it ends with -/
theorem Reaches.render {nodes : List Node} {page' : Page} {node : Node} {scope' : Scope}
    (h : Reaches page nodes scope page' node scope') (hfails : node.render page' scope' "" = .error e) (out : String) :
    renderAll page nodes scope out = .error e := by
  induction h generalizing out with
  | here =>
    rw [renderAll, Node.render_alone, hfails]
    rfl
  | inside henters _ ih =>
    rw [renderAll]
    exact bind_eq_error.2 (.inl (henters.render (ih hfails "") out))
  | behind hfirst _ ih =>
    rw [renderAll, Node.render_alone, hfirst]
    exact ih hfails _

/-- a node whose children stop where they end with an error -/
theorem stops_of_error {nodes : List Node}
    (hnodes : ∀ node ∈ nodes, ∀ page scope out rest, node.render page scope out = .error e →
      ∃ failure, Stops page (node :: rest) scope failure ∧ e = failure.error)
    (h : renderAll page nodes scope out = .error e) :
    ∃ failure, Stops page nodes scope failure ∧ e = failure.error := by
  induction nodes generalizing scope out with
  | nil => cases h
  | cons node rest ih =>
    rw [renderAll] at h
    rcases bind_eq_error.1 h with h | ⟨⟨scope', text⟩, hfirst, h⟩
    · exact hnodes node List.mem_cons_self page scope out rest h
    · obtain ⟨failure, hstops, rfl⟩ := ih (fun node hnode => hnodes node (List.mem_cons_of_mem _ hnode)) h
      rw [Node.render_alone] at hfirst
      obtain ⟨⟨behind, added⟩, halone, heq⟩ := map_eq_ok.1 hfirst
      cases heq
      exact ⟨failure, .behind halone hstops, rfl⟩

/-- a node that ends with an error is the way to a failure, by induction on what it comes to -/
theorem Node.stops_of_error (node : Node) :
    ∀ page scope out rest, node.render page scope out = .error e →
      ∃ failure, Stops page (node :: rest) scope failure ∧ e = failure.error := by
  induction node using Node.induct true with
  | h node ih =>
    intro page scope out rest h
    rcases Node.breaks_of_error h with ⟨position, cause, hfails, rfl⟩ | ⟨page', nodes, scope', henters, h⟩
    · exact ⟨_, .here hfails, rfl⟩
    · have hchildren := fun child hchild => ih child (henters.subset hchild)
      obtain ⟨failure, hstops, rfl⟩ := Templating.stops_of_error hchildren h
      exact ⟨failure, .inside henters hstops, rfl⟩

/-- **Nodes end with an error** exactly when they stop at a failure, and it is the error of that failure. -/
theorem renderAll_eq_error {nodes : List Node} :
    renderAll page nodes scope out = .error e ↔ ∃ failure, Stops page nodes scope failure ∧ e = failure.error := by
  constructor
  · exact stops_of_error fun node _ => node.stops_of_error
  · rintro ⟨failure, hstops, rfl⟩
    exact hstops.render out

end Templating
