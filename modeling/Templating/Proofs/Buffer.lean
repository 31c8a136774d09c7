/-
Rendering into a buffer.

A render writes into the text of its caller, and what it wrote before it failed stands there already. `Node.write` is
rendering as steps on that buffer: a failure leaves behind what was written, a component template is cut off again
when it fails, and the slots of a component are written into buffers of their own. `Node.render` only tells of the
buffer behind a success, so the two are related.

`Follows`: the steps put the same text behind whatever the buffer holds and end the same way, and that way and, behind
a success, that buffer are the ones that rendering gives.

- `Node.write_follows`: the steps of every node follow its rendering.
- `Template.writeNodesTo_eq`: with the cut at its failure, writing nodes is rendering them.
- `Node.write_component`: a component in the middle of a text adds what its template renders to, or nothing.
- `render_appends`: these for pages, fragments and components.
-/
import Templating.Proofs.ComponentData

namespace Templating

/-- steps that write into a buffer and may fail; a failure leaves the buffer as the steps before it made it -/
abbrev Write (α : Type) := ExceptT TemplateError (StateM String) α

namespace Write

variable {α β : Type}

/-- how the steps end on a buffer, and what stands in it then -/
def onto (w : Write α) (out : String) : Except TemplateError α × String :=
  StateT.run (ExceptT.run w) out

/-- a result that needs no buffer -/
def settled (result : Except TemplateError α) : Write α :=
  ExceptT.mk (pure result)

/-- one more text behind the buffer -/
def push (s : String) : Write Unit :=
  modify (· ++ s)

/-- the text that the steps write into a buffer of their own -/
def aside (w : Write α) : Write String :=
  settled
    (match w.onto "" with
    | (.ok _, content) => .ok content
    | (.error e, _) => .error e)

/-- the steps on the buffer, which is cut to the length it had when they fail -/
def restoring (w : Write α) : Write α :=
  ExceptT.mk fun out =>
    match w.onto out with
    | (.ok a, written) => (.ok a, written)
    | (.error e, written) => (.error e, String.ofList (written.toList.take out.length))

@[simp] theorem onto_pure (a : α) (out : String) : (pure a : Write α).onto out = (.ok a, out) := rfl

@[simp] theorem onto_settled (result : Except TemplateError α) (out : String) :
    (settled result).onto out = (result, out) := rfl

@[simp] theorem onto_push (s out : String) : (push s).onto out = (.ok (), out ++ s) := rfl

theorem onto_bind (w : Write α) (f : α → Write β) (out : String) :
    (w >>= f).onto out =
      match w.onto out with
      | (.ok a, out) => (f a).onto out
      | (.error e, out) => (.error e, out) := by
  simp only [onto, bind, ExceptT.bind, ExceptT.run, ExceptT.mk, StateT.bind, StateT.run]
  rcases w out with ⟨e | a, out'⟩ <;> rfl

/-- a text behind the buffer, or the buffer as it was when there is none -/
def behind (out : String) (a : α) : Except TemplateError String → Except TemplateError α × String
  | .ok text => (.ok a, out ++ text)
  | .error e => (.error e, out)

/-! ## steps that follow a render -/

/-- the steps put the same text behind every buffer and end the same way, as rendering onto the buffer tells -/
def Follows (w : Write α) (render : String → Except TemplateError (α × String)) : Prop :=
  ∃ result added, ∀ out, w.onto out = (result, out ++ added) ∧ render out = result.map fun a => (a, out ++ added)

theorem follows_pure (a : α) : Follows (pure a) fun out => .ok (a, out) := by
  refine ⟨.ok a, "", fun out => ?_⟩
  simp [Except.map]

theorem follows_push (s : String) : Follows (push s) fun out => .ok ((), out ++ s) :=
  ⟨.ok (), s, fun _ => ⟨rfl, rfl⟩⟩

theorem follows_settled (result : Except TemplateError α) :
    Follows (settled result) fun out => result.map fun a => (a, out) := by
  refine ⟨result, "", fun out => ?_⟩
  simp

variable {w : Write α} {render : String → Except TemplateError (α × String)}

theorem Follows.congr {render' : String → Except TemplateError (α × String)} (hw : Follows w render)
    (h : ∀ out, render out = render' out) : Follows w render' :=
  (funext h : render = render') ▸ hw

/-- steps one after the other follow renders one after the other -/
theorem Follows.bind {f : α → Write β} {after : α → String → Except TemplateError (β × String)} (hw : Follows w render)
    (hf : ∀ a, Follows (f a) (after a)) :
    Follows (w >>= f) fun out => render out >>= fun (a, out) => after a out := by
  obtain ⟨result, added, h⟩ := hw
  cases result with
  | error e =>
    refine ⟨.error e, added, fun out => ?_⟩
    obtain ⟨hwrite, hrender⟩ := h out
    simp only [onto_bind, hwrite, hrender]
    exact ⟨trivial, rfl⟩
  | ok a =>
    obtain ⟨result, more, hmore⟩ := hf a
    refine ⟨result, added ++ more, fun out => ?_⟩
    obtain ⟨hwrite, hrender⟩ := h out
    obtain ⟨hwrite', hrender'⟩ := hmore (out ++ added)
    simp only [onto_bind, hwrite, hrender, ← String.append_assoc]
    exact ⟨hwrite', hrender'⟩

/-- a value that needs no buffer comes first -/
theorem Follows.value {result : Except TemplateError α} {f : α → Write β}
    {after : α → String → Except TemplateError (β × String)} (hf : ∀ a, Follows (f a) (after a)) :
    Follows (settled result >>= f) fun out => result >>= fun a => after a out := by
  cases result with
  | error e => exact follows_settled (.error e)
  | ok a => exact hf a

/-- steps with a cut at their failure add what they render to, or nothing -/
theorem Follows.onto_restoring (hw : Follows w render) (out : String) :
    (restoring w).onto out =
      match render "" with
      | .ok (a, added) => (.ok a, out ++ added)
      | .error e => (.error e, out) := by
  obtain ⟨result, added, h⟩ := hw
  have hwrite := (h out).1
  have hrender := (h "").2
  have hcut : String.ofList ((out ++ added).toList.take out.length) = out := by
    rw [String.toList_append, ← String.length_toList, List.take_left, String.ofList_toList]
  rw [restoring, onto, ExceptT.run_mk, StateT.run, hrender, hwrite]
  cases result with
  | error e => simp only [Except.map, hcut]
  | ok a => simp [Except.map]

theorem Follows.restoring (hw : Follows w render) : Follows (restoring w) render := by
  have honto := hw.onto_restoring
  obtain ⟨result, added, h⟩ := hw
  cases result with
  | ok a =>
    refine ⟨.ok a, added, fun out => ⟨?_, (h out).2⟩⟩
    rw [honto, (h "").2]
    simp [Except.map]
  | error e =>
    refine ⟨.error e, "", fun out => ⟨?_, (h out).2⟩⟩
    rw [honto, (h "").2]
    simp [Except.map]

theorem Follows.aside (hw : Follows w render) : w.aside = settled ((render "").map (·.2)) := by
  obtain ⟨result, added, h⟩ := hw
  obtain ⟨hwrite, hrender⟩ := h ""
  rw [Write.aside, hwrite, hrender]
  cases result <;> rfl

end Write

open Write

/-! ## nodes -/

/-- the iterations of a loop one after the other -/
def LoopHead.write (head : LoopHead) (body : Scope → Write Scope) (around : Scope) (total : Nat) :
    (index : Nat) → List (Value × Value) → Write Unit
  | _, [] => pure ()
  | index, pair :: rest => do
    let _ ← body (head.scope around index total pair)
    head.write body around total (index + 1) rest

mutual

/-- a node as steps on the buffer, up to the scope behind it -/
def Node.write (page : Page) : Node → Scope → Write Scope
  | .text s, scope => do
    push s
    return scope
  | .output e position, scope => do
    let v ← settled (page.eval position scope e)
    push v.toHtml
    return scope
  | .conditional position arms otherwise, scope =>
    writeArms page position arms (fun scope => writeAll page otherwise scope) scope
  | .loop position head body empty, scope => do
    let v ← settled (page.eval position scope head.items)
    match v.pairs? with
    | none => settled (.error (.render ⟨page.template, position⟩ (.notIterable v.typeName)))
    | some [] => writeAll page empty scope
    | some pairs => do
      head.write (fun scope => writeAll page body scope) scope pairs.length 0 pairs
      return scope
  | .assign position name e, scope => do
    let v ← settled (page.eval position scope e)
    return scope.set name v
  | .defaults position props, scope => settled (page.applyDefaults position props scope)
  | .outlet slot fallback, scope =>
    let content := (scope.get? slot).getD .null
    if content.isTruthy then do
      push content.toHtml
      return scope
    else writeAll page fallback scope
  | .fragment body, scope => writeAll page body scope
  | .component use template body slots, scope => do
    let given ← settled (use.data page scope)
    match use.prepared given with
    | .failed cause => settled (.error (.render ⟨page.template, use.position⟩ (.setupFailed use.name cause)))
    | .noContent => return scope
    | .render prepared => do
      let data := page.share scope prepared
      let data ← writeSlots page (slotScope scope (use.slotData.bindings data)) slots data
      let _ ← restoring (writeAll { page with template } body (.root data))
      return scope
  | .custom tag use body, scope => do
    push (tag.before use scope.locals)
    let _ ← writeAll page body scope.child
    push (tag.behind use scope.locals)
    return scope

/-- nodes one after the other -/
def writeAll (page : Page) : List Node → Scope → Write Scope
  | [], scope => return scope
  | node :: rest, scope => do
    let scope ← node.write page scope
    writeAll page rest scope

/-- the first arm with a true condition, or else `otherwise` -/
def writeArms (page : Page) (position : Position) :
    List (Expr × List Node) → (otherwise : Scope → Write Scope) → Scope → Write Scope
  | [], otherwise, scope => otherwise scope
  | (condition, body) :: rest, otherwise, scope => do
    let v ← settled (page.eval position scope condition)
    if v.isTruthy then writeAll page body scope else writeArms page position rest otherwise scope

/-- the data with the rendered slots, each written into a buffer of its own -/
def writeSlots (page : Page) (scope : Scope) : List (String × List Node) → Data → Write Data
  | [], data => return data
  | (name, body) :: rest, data => do
    let content ← aside (writeAll page body scope)
    writeSlots page scope rest (data.insert name (slotValue content))

end

/-- iterations follow their rendering when the body does -/
theorem LoopHead.write_follows {head : LoopHead} {body : Scope → Write Scope} {render : Scope → String → Rendered}
    (hbody : ∀ scope, Follows (body scope) (render scope)) (around : Scope) (total : Nat)
    (pairs : List (Value × Value)) (index : Nat) :
    Follows (head.write body around total index pairs) fun out =>
      (head.iterate render around total index pairs out).map fun out => ((), out) := by
  induction pairs generalizing index with
  | nil => exact follows_pure ()
  | cons pair rest ih =>
    have hrest := (hbody (head.scope around index total pair)).bind fun _ => ih (index + 1)
    refine hrest.congr fun out => ?_
    rw [LoopHead.iterate]
    cases render (head.scope around index total pair) out <;> rfl

mutual

/-- **The steps of a node** follow its rendering. -/
theorem Node.write_follows (page : Page) (node : Node) (scope : Scope) :
    Follows (node.write page scope) (node.render page scope) := by
  match node with
  | .text s => exact (follows_push s).bind fun _ => follows_pure scope
  | .output e position =>
    exact Follows.value fun v => (follows_push v.toHtml).bind fun _ => follows_pure scope
  | .conditional position arms otherwise =>
    exact writeArms_follows page position arms (fun scope => writeAll_follows page otherwise scope) scope
  | .loop position head body empty =>
    simp only [Node.write, Node.render]
    refine Follows.value fun v => ?_
    rcases v.pairs? with _ | _ | ⟨pair, rest⟩
    · exact follows_settled (.error _)
    · exact writeAll_follows page empty scope
    · have hloop : Follows (head.write (writeAll page body) scope _ 0 (pair :: rest)) _ :=
        LoopHead.write_follows (writeAll_follows page body) scope (pair :: rest).length (pair :: rest) 0
      refine (hloop.bind fun _ => follows_pure scope).congr fun out => ?_
      show _ = (do
        let out ← head.iterate (renderAll page body) scope (pair :: rest).length 0 (pair :: rest) out
        return (scope, out))
      cases head.iterate (renderAll page body) scope (pair :: rest).length 0 (pair :: rest) out <;> rfl
  | .assign position name e => exact Follows.value fun v => follows_pure (scope.set name v)
  | .defaults position props => exact follows_settled (page.applyDefaults position props scope)
  | .outlet slot fallback =>
    simp only [Node.write, Node.render]
    cases ((scope.get? slot).getD .null).isTruthy with
    | true => exact (follows_push _).bind fun _ => follows_pure scope
    | false => exact writeAll_follows page fallback scope
  | .fragment body => exact writeAll_follows page body scope
  | .component use template body slots =>
    simp only [Node.write, Node.render]
    refine Follows.value fun given => ?_
    cases use.prepared given with
    | failed cause => exact follows_settled (.error _)
    | noContent => exact follows_pure scope
    | render prepared =>
      simp only [writeSlots_eq]
      refine Follows.value fun data => ?_
      have hbody := writeAll_follows { page with template } body (.root data)
      exact hbody.restoring.bind fun _ => follows_pure scope
  | .custom tag use body =>
    have hbody := writeAll_follows page body scope.child
    exact (follows_push (tag.before use scope.locals)).bind fun _ =>
      hbody.bind fun _ => (follows_push (tag.behind use scope.locals)).bind fun _ => follows_pure scope

theorem writeAll_follows (page : Page) (nodes : List Node) (scope : Scope) :
    Follows (writeAll page nodes scope) (renderAll page nodes scope) := by
  match nodes with
  | [] => exact follows_pure scope
  | node :: rest => exact (node.write_follows page scope).bind fun scope => writeAll_follows page rest scope

theorem writeArms_follows (page : Page) (position : Position) (arms : List (Expr × List Node))
    {otherwise : Scope → Write Scope} {render : Scope → String → Rendered}
    (h : ∀ scope, Follows (otherwise scope) (render scope)) (scope : Scope) :
    Follows (writeArms page position arms otherwise scope) (renderArms page position arms render scope) := by
  match arms with
  | [] => exact h scope
  | (condition, body) :: rest =>
    refine Follows.value fun v => ?_
    cases v.isTruthy with
    | true => exact writeAll_follows page body scope
    | false => exact writeArms_follows page position rest h scope

theorem writeSlots_eq (page : Page) (scope : Scope) (slots : List (String × List Node)) (data : Data) :
    writeSlots page scope slots data = settled (renderSlots page scope slots data) := by
  match slots with
  | [] => rfl
  | (name, body) :: rest =>
    simp only [writeSlots, renderSlots, (writeAll_follows page body scope).aside]
    cases renderAll page body scope "" with
    | error e => rfl
    | ok ended => exact writeSlots_eq page scope rest (data.insert name (slotValue ended.2))

end

/-! ## templates -/

namespace Template

/-- some nodes of the template written behind a buffer on the data, with a cut when they fail -/
def writeNodesTo (t : Template) (nodes : List Node) (data : Data) (out : String) :
    Except TemplateError Unit × String :=
  Write.onto (restoring (writeAll t.page nodes (.root data)) >>= fun _ => pure ()) out

/-- the template written behind a buffer -/
def writeTo (t : Template) (data : Data) (out : String) : Except TemplateError Unit × String :=
  t.writeNodesTo t.nodes data out

variable (t : Template) (nodes : List Node) (data : Data) (out : String)

theorem render_nodes : { t with nodes }.render data = (renderAll t.page nodes (.root data) "").map (·.2) := by
  have hpage : ({ t with nodes } : Template).page = t.page := rfl
  rw [render, renderTo, renderNodesTo, hpage]
  cases renderAll t.page nodes (.root data) "" <;> rfl

theorem writeNodesTo_eq : t.writeNodesTo nodes data out = behind out () ({ t with nodes }.render data) := by
  rw [writeNodesTo, onto_bind, (writeAll_follows t.page nodes (.root data)).onto_restoring, render_nodes]
  cases renderAll t.page nodes (.root data) "" <;> rfl

theorem renderNodesTo_eq : t.renderNodesTo nodes data out = behind out () ({ t with nodes }.render data) := by
  obtain ⟨result, added, h⟩ := writeAll_follows t.page nodes (.root data)
  rw [renderNodesTo, render_nodes, (h out).2, (h "").2]
  cases result with
  | error e => rfl
  | ok scope => simp [Except.map, behind]

end Template

/-- **A component in the middle of a text** adds what its template renders to on its input, or nothing. -/
theorem Node.write_component (t : Template) (caller : String) (use : ComponentUse) (slots : List (String × List Node))
    (scope : Scope) (out : String) :
    ((component use t.name t.nodes slots).write { t.page with template := caller } scope).onto out =
      match use.input { t.page with template := caller } slots scope with
      | .error e => (.error e, out)
      | .ok none => (.ok scope, out)
      | .ok (some input) => behind out scope (t.render input) := by
  rw [Node.write, ComponentUse.input, onto_bind, onto_settled]
  cases use.data { t.page with template := caller } scope with
  | error e => rfl
  | ok given =>
    simp only [bind, Except.bind]
    cases use.prepared given with
    | failed cause => rfl
    | noContent => rfl
    | render prepared =>
      simp only [writeSlots_eq]
      generalize renderSlots _ _ slots _ = filled
      cases filled with
      | error e => rfl
      | ok input =>
        have hbody := (writeAll_follows t.page t.nodes (.root input)).onto_restoring out
        have hrender := t.render_nodes t.nodes input
        show (restoring (writeAll t.page t.nodes (.root input)) >>= fun _ => pure scope : Write Scope).onto out =
          behind out scope ({ t with nodes := t.nodes }.render input)
        rw [onto_bind, hbody, hrender]
        cases renderAll t.page t.nodes (.root input) "" <;> rfl

/-- **Rendering only appends, and a failure leaves nothing.** The steps of the nodes of a template put the same text
behind every buffer, also when they fail, and go as its rendering does. A template or a fragment written onto a text
stands behind it when it renders alone, and otherwise leaves the text as it was, with the same error; so does a
component template in the middle of what its caller writes. -/
theorem render_appends (t : Template) (data : Data) (out : String) :
    (∀ nodes scope, Follows (writeAll t.page nodes scope) (renderAll t.page nodes scope)) ∧
    (t.renderTo data out = t.writeTo data out ∧
      match t.render data with
      | .ok html => t.renderTo data out = (.ok (), out ++ html)
      | .error e => t.renderTo data out = (.error e, out)) ∧
    (∀ name,
      match t.fragments.get? name with
      | none => t.renderFragment name data = .error (.render ⟨t.name, .start⟩ (.unknownFragment name))
      | some nodes =>
        t.renderNodesTo nodes data out = t.writeNodesTo nodes data out ∧
        t.renderFragment name data = { t with nodes }.render data ∧
        match t.renderFragment name data with
        | .ok html => t.renderNodesTo nodes data out = (.ok (), out ++ html)
        | .error e => t.renderNodesTo nodes data out = (.error e, out)) ∧
    ∀ (caller : String) (use : ComponentUse) (slots : List (String × List Node)) (scope : Scope),
      ((Node.component use t.name t.nodes slots).write { t.page with template := caller } scope).onto out =
        match use.input { t.page with template := caller } slots scope with
        | .error e => (.error e, out)
        | .ok none => (.ok scope, out)
        | .ok (some input) =>
          match t.render input with
          | .ok html => (.ok scope, out ++ html)
          | .error e => (.error e, out) := by
  refine ⟨writeAll_follows t.page, ⟨?_, ?_⟩, fun name => ?_, ?_⟩
  · exact (t.renderNodesTo_eq t.nodes data out).trans (t.writeNodesTo_eq t.nodes data out).symm
  · have hto : t.renderTo data out = behind out () (t.render data) := t.renderNodesTo_eq t.nodes data out
    cases hrender : t.render data with
    | error e => rw [hto, hrender, behind]
    | ok html => rw [hto, hrender, behind]
  · cases hget : t.fragments.get? name with
    | none => rw [Template.renderFragment, hget]
    | some nodes =>
      have hto := t.renderNodesTo_eq nodes data out
      have halone : t.renderFragment name data = { t with nodes }.render data := by
        rw [Template.renderFragment, hget]
        rfl
      refine ⟨hto.trans (t.writeNodesTo_eq nodes data out).symm, halone, ?_⟩
      rw [halone]
      cases hrender : { t with nodes }.render data with
      | error e => rw [hto, hrender, behind]
      | ok html => rw [hto, hrender, behind]
  · intro caller use slots scope
    rw [Node.write_component]
    rcases use.input { t.page with template := caller } slots scope with e | _ | input
    · rfl
    · rfl
    · cases t.render input <;> rfl

/-- a text, and then a sign in front of it -/
def textThenFault : List Node :=
  [.text "a", .output (.neg (.literal (.str "a"))) .start]

/-- what stands in front of a fault is in the buffer until the template is cut off -/
example : ((writeAll ⟨"page", []⟩ textThenFault (.root .empty)).onto "x").2 = "xa" ∧
    ((restoring (writeAll ⟨"page", []⟩ textThenFault (.root .empty))).onto "x").2 = "x" := by
  decide

end Templating
