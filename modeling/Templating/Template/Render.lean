/-
Rendering of compiled templates.

Nodes write behind what is already there. A node sees the scope that the nodes before it left; a loop gives every
iteration a child scope and a component gives every slot one, so nothing that is assigned there is seen outside. A
component template starts on a scope of its own, which holds the data of the use and nothing of the caller but the
shared keys and the rendered slots.
-/
import Templating.Expr.Eval
import Templating.Template.Node

namespace Templating

/-- the template whose nodes are rendered, as errors name it, and the variables that its components share -/
structure Page where
  template : String
  sharedKeys : List String
  deriving DecidableEq, Repr

/-- the scope behind some nodes and the text up to there, or why rendering stopped -/
abbrev Rendered := Except TemplateError (Scope × String)

/-- the value of an expression of a tag at `position` -/
def Page.eval (page : Page) (position : Position) (scope : Scope) (e : Expr) : Except TemplateError Value :=
  match e.eval scope with
  | .ok v => .ok v
  | .error fault => .error (.render ⟨page.template, position⟩ (.evaluation fault))

/-- the values of named expressions, from the first on -/
def Page.evalPairs (page : Page) (position : Position) (scope : Scope) :
    List (String × Expr) → Except TemplateError (List (String × Value))
  | [] => .ok []
  | (key, e) :: rest => do
    let v ← page.eval position scope e
    let values ← page.evalPairs position scope rest
    return (key, v) :: values

/-! ## loops -/

/-- what a loop runs over: pairs of a key and a value; the items of a list are keys without values -/
def Value.pairs? : Value → Option (List (Value × Value))
  | .null => some []
  | .list items => some (items.map fun item => (item, .null))
  | .map entries => some (entries.entries.map fun (key, value) => (.str key, value))
  | .attrs attributes => some (attributes.items.map fun (key, value) => (.str key, .str value))
  | _ => none

/-- what a loop tells its body about the iteration -/
def loopState (index total : Nat) : Value :=
  .map (.ofList
    [("counter", .int (Int64.ofNat (index + 1))), ("counter0", .int (Int64.ofNat index)),
      ("first", .bool (index == 0)), ("last", .bool (index + 1 == total))])

/-- the scope of one iteration -/
def LoopHead.scope (head : LoopHead) (around : Scope) (index total : Nat) (pair : Value × Value) : Scope :=
  let keyed := around.child.set head.key pair.1
  let both :=
    match head.value with
    | some name => keyed.set name pair.2
    | none => keyed
  both.set "forloop" (loopState index total)

/-- the text behind all iterations, where `body` renders one -/
def LoopHead.iterate (head : LoopHead) (body : Scope → String → Rendered) (around : Scope) (total : Nat) :
    (index : Nat) → List (Value × Value) → String → Except TemplateError String
  | _, [], out => .ok out
  | index, pair :: rest, out => do
    let (_, out) ← body (head.scope around index total pair) out
    head.iterate body around total (index + 1) rest out

/-! ## components -/

/-- the data of a use of a component before its setup: props by name, and the attribute set -/
def ComponentUse.data (page : Page) (scope : Scope) (use : ComponentUse) : Except TemplateError Data := do
  let props ← page.evalPairs use.position scope use.props
  let attributes ← page.evalPairs use.position scope use.attributes
  return Data.setAttributes (.ofList props) (.ofList (attributes.map fun (key, value) => (key, value.text)))

/-- what the setup of a component decides; without one the data is rendered -/
def ComponentUse.prepared (use : ComponentUse) (data : Data) : SetupOutcome :=
  match use.setup with
  | some setup => setup data
  | none => .render data

/-- the data with the shared variables that are in sight -/
def Page.share (page : Page) (scope : Scope) (data : Data) : Data :=
  page.sharedKeys.foldl
    (fun data key =>
      match scope.get? key with
      | some value => data.insert key value
      | none => data)
    data

/-- the scope of a slot -/
def slotScope (around : Scope) (bindings : List (String × Value)) : Scope :=
  bindings.foldl (fun scope (name, value) => scope.set name value) around.child

/-- the value of a rendered slot: its text without white space around it, as markup -/
def slotValue (content : String) : Value :=
  .safe (String.ofList (Text.trim content.toList))

/-! ## nodes -/

/-- defaults of props are written where the variable is absent or `none` -/
def Page.applyDefaults (page : Page) (position : Position) :
    List (String × Expr) → Scope → Except TemplateError Scope
  | [], scope => .ok scope
  | (key, e) :: rest, scope =>
    if ((scope.get? key).getD .null).isNull then do
      let v ← page.eval position scope e
      page.applyDefaults position rest (scope.set key v)
    else page.applyDefaults position rest scope

mutual

/-- what a node writes, and the scope behind it -/
def Node.render (page : Page) : Node → Scope → String → Rendered
  | .text s, scope, out => .ok (scope, out ++ s)
  | .output e position, scope, out => do
    let v ← page.eval position scope e
    return (scope, out ++ v.toHtml)
  | .conditional position arms otherwise, scope, out =>
    renderArms page position arms (fun scope out => renderAll page otherwise scope out) scope out
  | .loop position head body empty, scope, out => do
    let v ← page.eval position scope head.items
    match v.pairs? with
    | none => .error (.render ⟨page.template, position⟩ (.notIterable v.typeName))
    | some [] => renderAll page empty scope out
    | some pairs =>
      let out ← head.iterate (fun scope out => renderAll page body scope out) scope pairs.length 0 pairs out
      return (scope, out)
  | .assign position name e, scope, out => do
    let v ← page.eval position scope e
    return (scope.set name v, out)
  | .defaults position props, scope, out => do
    let scope ← page.applyDefaults position props scope
    return (scope, out)
  | .outlet slot fallback, scope, out =>
    let content := (scope.get? slot).getD .null
    if content.isTruthy then .ok (scope, out ++ content.toHtml) else renderAll page fallback scope out
  | .fragment body, scope, out => renderAll page body scope out
  | .component use template body slots, scope, out => do
    let given ← use.data page scope
    match use.prepared given with
    | .failed cause => .error (.render ⟨page.template, use.position⟩ (.setupFailed use.name cause))
    | .noContent => return (scope, out)
    | .render prepared =>
      let data := page.share scope prepared
      let data ← renderSlots page (slotScope scope (use.slotData.bindings data)) slots data
      let (_, out) ← renderAll { page with template } body (.root data) out
      return (scope, out)
  | .custom tag use body, scope, out => do
    let (_, out) ← renderAll page body scope.child (out ++ tag.before use scope.locals)
    return (scope, out ++ tag.behind use scope.locals)

/-- what nodes write one after the other, and the scope behind them -/
def renderAll (page : Page) : List Node → Scope → String → Rendered
  | [], scope, out => .ok (scope, out)
  | node :: rest, scope, out => do
    let (scope, out) ← node.render page scope out
    renderAll page rest scope out

/-- what the first arm with a true condition writes, or else what `otherwise` does -/
def renderArms (page : Page) (position : Position) :
    List (Expr × List Node) → (otherwise : Scope → String → Rendered) → Scope → String → Rendered
  | [], otherwise, scope, out => otherwise scope out
  | (condition, body) :: rest, otherwise, scope, out => do
    let v ← page.eval position scope condition
    if v.isTruthy then renderAll page body scope out else renderArms page position rest otherwise scope out

/-- the data with the rendered slots, each of which starts on the same scope -/
def renderSlots (page : Page) (scope : Scope) : List (String × List Node) → Data → Except TemplateError Data
  | [], data => .ok data
  | (name, body) :: rest, data => do
    let (_, content) ← renderAll page body scope ""
    renderSlots page scope rest (data.insert name (slotValue content))

end

/-! ## templates -/

namespace Template

/-- the page of a template -/
def page (t : Template) : Page := ⟨t.name, t.sharedKeys⟩

/-- the text behind `out` and some nodes of the template on the data; a failure leaves `out` as it was -/
def renderNodesTo (t : Template) (nodes : List Node) (data : Data) (out : String) :
    Except TemplateError Unit × String :=
  match renderAll t.page nodes (.root data) out with
  | .ok (_, written) => (.ok (), written)
  | .error e => (.error e, out)

/-- the template rendered onto existing text -/
def renderTo (t : Template) (data : Data) (out : String) : Except TemplateError Unit × String :=
  t.renderNodesTo t.nodes data out

/-- the template rendered -/
def render (t : Template) (data : Data) : Except TemplateError String :=
  match t.renderTo data "" with
  | (.ok (), html) => .ok html
  | (.error e, _) => .error e

/-- the template has a fragment of the name -/
def hasFragment (t : Template) (name : String) : Bool :=
  t.fragments.contains name

/-- one fragment of the template rendered alone -/
def renderFragment (t : Template) (name : String) (data : Data) : Except TemplateError String :=
  match t.fragments.get? name with
  | none => .error (.render ⟨t.name, .start⟩ (.unknownFragment name))
  | some nodes =>
    match t.renderNodesTo nodes data "" with
    | (.ok (), html) => .ok html
    | (.error e, _) => .error e

end Template

end Templating
