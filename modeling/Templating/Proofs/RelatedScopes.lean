/-
Scopes that nodes do not tell apart.

A node reads a scope through the expressions and names it looks up, and a tag of the host reads the innermost map; what
it writes goes into the innermost map, and loops, slots and tags of the host start child scopes. So a relation between
scopes that writes and child scopes keep (`Scope.Kept`) is carried through rendering, as long as every node reads the
same in related scopes (`Node.ReadsAlike`).

- `Node.carries`: one node, when the nodes below it carry the relation.
- `Scope.Alike`, `render_alike`: scopes with the same innermost map and the same look-ups are never told apart.
-/
import Templating.Proofs.NodeTree
import Templating.Proofs.Outcome
import Templating.Template.Render

namespace Templating

/-! ## Relations between scopes -/

/-- a relation that writes and child scopes keep -/
structure Scope.Kept (R : Scope → Scope → Prop) : Prop where
  set : ∀ {s₁ s₂ : Scope}, R s₁ s₂ → ∀ name v, R (s₁.set name v) (s₂.set name v)
  child : ∀ {s₁ s₂ : Scope}, R s₁ s₂ → R s₁.child s₂.child

variable {R : Scope → Scope → Prop} {page : Page} {s₁ s₂ : Scope}

namespace Scope.Kept

theorem slot (hR : Kept R) (h : R s₁ s₂) (bindings : List (String × Value)) :
    R (slotScope s₁ bindings) (slotScope s₂ bindings) := by
  unfold slotScope
  have hchild := hR.child h
  generalize s₁.child = c₁ at hchild ⊢
  generalize s₂.child = c₂ at hchild ⊢
  induction bindings generalizing c₁ c₂ with
  | nil => exact hchild
  | cons binding bindings ih => exact ih _ _ (hR.set hchild binding.1 binding.2)

theorem iteration (hR : Kept R) (h : R s₁ s₂) (head : LoopHead) (index total : Nat) (pair : Value × Value) :
    R (head.scope s₁ index total pair) (head.scope s₂ index total pair) := by
  unfold LoopHead.scope
  have hkeyed := hR.set (hR.child h) head.key pair.1
  cases head.value with
  | none => exact hR.set hkeyed _ _
  | some name => exact hR.set (hR.set hkeyed name pair.2) _ _

end Scope.Kept

/-- both renderings wrote the same text and left related scopes, or failed alike -/
inductive SameText (R : Scope → Scope → Prop) : Rendered → Rendered → Prop
  | wrote {s₁ s₂ : Scope} (h : R s₁ s₂) (out : String) : SameText R (.ok (s₁, out)) (.ok (s₂, out))
  | failed (e : TemplateError) : SameText R (.error e) (.error e)

namespace SameText

variable {r₁ r₂ : Rendered}

theorem text (h : SameText R r₁ r₂) : r₁.map Prod.snd = r₂.map Prod.snd := by
  cases h <;> rfl

theorem bind (h : SameText R r₁ r₂) {f₁ f₂ : Scope × String → Rendered}
    (hf : ∀ s₁ s₂ out, R s₁ s₂ → SameText R (f₁ (s₁, out)) (f₂ (s₂, out))) : SameText R (r₁ >>= f₁) (r₂ >>= f₂) := by
  cases h with
  | wrote h out => exact hf _ _ out h
  | failed e => exact .failed e

/-- what goes on with the text alone is the same behind both -/
theorem bind_text {β : Type} (h : SameText R r₁ r₂) {f₁ f₂ : String → Except TemplateError β}
    (hf : ∀ out, f₁ out = f₂ out) : (r₁ >>= fun r => f₁ r.2) = (r₂ >>= fun r => f₂ r.2) := by
  cases h with
  | wrote h out => exact hf out
  | failed e => rfl

/-- a step that is the same in both -/
theorem of_eq {α : Type} {y₁ y₂ : Except TemplateError α} (hy : y₁ = y₂) {f₁ f₂ : α → Rendered}
    (hf : ∀ a, SameText R (f₁ a) (f₂ a)) : SameText R (y₁ >>= f₁) (y₂ >>= f₂) := by
  subst hy
  cases y₁ with
  | error e => exact .failed e
  | ok a => exact hf a

end SameText

/-! ## Expressions -/

namespace Expr

mutual

/-- **An expression has the same value** in scopes that give the same for every name it reads. -/
theorem eval_same (e : Expr) (h : ∀ name, e.all (isNot name) = false → s₁.get? name = s₂.get? name) :
    e.eval s₁ = e.eval s₂ := by
  match e with
  | literal v => rfl
  | var name =>
    have hname : s₁.get? name = s₂.get? name := h name (by simp [all, isNot])
    simp only [eval, hname]
  | member e _ | neg e | not e | filter _ e none =>
    have he : e.eval s₁ = e.eval s₂ := eval_same e fun name hname => h name (by simp [all, hname])
    simp only [eval, he]
  | index left right | and left right | or left right | compare _ left right | filter _ left (some right) =>
    have hleft : left.eval s₁ = left.eval s₂ := eval_same left fun name hname => h name (by simp [all, hname])
    have hright : right.eval s₁ = right.eval s₂ := eval_same right fun name hname => h name (by simp [all, hname])
    simp only [eval, hleft, hright]
  | call target _ args =>
    have htarget : target.eval s₁ = target.eval s₂ := eval_same target fun name hname => h name (by simp [all, hname])
    have hargs : evalAll s₁ args = evalAll s₂ args := evalAll_same args fun name hname => h name (by simp [all, hname])
    simp only [eval, htarget, hargs]
  | list items =>
    have hitems : evalAll s₁ items = evalAll s₂ items :=
      evalAll_same items fun name hname => h name (by simp [all, hname])
    simp only [eval, hitems]

theorem evalAll_same (items : List Expr)
    (h : ∀ name, allItems (isNot name) items = false → s₁.get? name = s₂.get? name) :
    evalAll s₁ items = evalAll s₂ items := by
  match items with
  | [] => rfl
  | e :: rest =>
    have he : e.eval s₁ = e.eval s₂ := eval_same e fun name hname => h name (by simp [allItems, hname])
    have hrest : evalAll s₁ rest = evalAll s₂ rest :=
      evalAll_same rest fun name hname => h name (by simp [allItems, hname])
    simp only [evalAll, he, hrest]

end

end Expr

/-! ## What a node reads itself -/

/-- the names that the node looks up outside of its expressions, those shared with a component among them -/
def Node.names (page : Page) : Node → List String
  | .defaults _ props => props.map (·.1)
  | .outlet slot _ => [slot]
  | .component _ _ _ _ => page.sharedKeys
  | _ => []

/-- the node itself reads the same in related scopes, whatever the nodes below it do -/
structure Node.ReadsAlike (R : Scope → Scope → Prop) (page : Page) (node : Node) : Prop where
  exprs : ∀ e ∈ node.exprs, ∀ s₁ s₂, R s₁ s₂ → e.eval s₁ = e.eval s₂
  names : ∀ name ∈ node.names page, ∀ s₁ s₂, R s₁ s₂ → s₁.get? name = s₂.get? name
  locals : ∀ tag use body, node = .custom tag use body → ∀ s₁ s₂, R s₁ s₂ → s₁.locals = s₂.locals

namespace Page

theorem eval_same (position : Position) {e : Expr} (he : e.eval s₁ = e.eval s₂) :
    page.eval position s₁ e = page.eval position s₂ e := by
  simp only [Page.eval, he]

theorem evalPairs_same (position : Position) {pairs : List (String × Expr)}
    (hpairs : ∀ pair ∈ pairs, pair.2.eval s₁ = pair.2.eval s₂) :
    page.evalPairs position s₁ pairs = page.evalPairs position s₂ pairs := by
  induction pairs with
  | nil => rfl
  | cons pair rest ih =>
    obtain ⟨hpair, hrest⟩ := List.forall_mem_cons.1 hpairs
    simp only [evalPairs, eval_same position hpair, ih hrest]

theorem share_same (hkeys : ∀ key ∈ page.sharedKeys, s₁.get? key = s₂.get? key) (data : Data) :
    page.share s₁ data = page.share s₂ data := by
  unfold share
  generalize page.sharedKeys = keys at hkeys
  induction keys generalizing data with
  | nil => rfl
  | cons key keys ih =>
    obtain ⟨hkey, hkeys⟩ := List.forall_mem_cons.1 hkeys
    simp only [List.foldl_cons, hkey]
    exact ih _ hkeys

theorem applyDefaults_same (hR : Scope.Kept R) (position : Position) {props : List (String × Expr)}
    (hexprs : ∀ e ∈ props.map (·.2), ∀ s₁ s₂, R s₁ s₂ → e.eval s₁ = e.eval s₂)
    (hnames : ∀ name ∈ props.map (·.1), ∀ s₁ s₂, R s₁ s₂ → s₁.get? name = s₂.get? name) (h : R s₁ s₂) (out : String) :
    SameText R (page.applyDefaults position props s₁ >>= fun scope => pure (scope, out))
      (page.applyDefaults position props s₂ >>= fun scope => pure (scope, out)) := by
  induction props generalizing s₁ s₂ with
  | nil => exact .wrote h out
  | cons prop rest ih =>
    obtain ⟨key, e⟩ := prop
    obtain ⟨hexpr, hexprs⟩ := List.forall_mem_cons.1 hexprs
    obtain ⟨hname, hnames⟩ := List.forall_mem_cons.1 hnames
    have heval : page.eval position s₁ e = page.eval position s₂ e := eval_same position (hexpr s₁ s₂ h)
    simp only [applyDefaults, hname s₁ s₂ h, heval]
    split_ifs
    · cases page.eval position s₂ e with
      | error fault => exact .failed fault
      | ok v => exact ih hexprs hnames (hR.set h key v)
    · exact ih hexprs hnames h

end Page

theorem ComponentUse.data_same {use : ComponentUse}
    (hexprs : ∀ e ∈ use.props.map (·.2) ++ use.attributes.map (·.2), e.eval s₁ = e.eval s₂) :
    use.data page s₁ = use.data page s₂ := by
  rw [List.forall_mem_append, List.forall_mem_map, List.forall_mem_map] at hexprs
  simp only [ComponentUse.data, Page.evalPairs_same use.position hexprs.1, Page.evalPairs_same use.position hexprs.2]

/-! ## Nodes -/

/-- rendering the node on related scopes writes the same and leaves related scopes -/
def Node.Carries (R : Scope → Scope → Prop) (page : Page) (node : Node) : Prop :=
  ∀ s₁ s₂ out, R s₁ s₂ → SameText R (node.render page s₁ out) (node.render page s₂ out)

theorem renderAll_same {nodes : List Node} (hnodes : ∀ node ∈ nodes, node.Carries R page) (out : String)
    (h : R s₁ s₂) : SameText R (renderAll page nodes s₁ out) (renderAll page nodes s₂ out) := by
  induction nodes generalizing s₁ s₂ out with
  | nil => exact .wrote h out
  | cons node rest ih =>
    obtain ⟨hnode, hrest⟩ := List.forall_mem_cons.1 hnodes
    simp only [renderAll]
    exact (hnode s₁ s₂ out h).bind fun s₁ s₂ out h => ih hrest out h

theorem renderArms_same (position : Position) {arms : List (Expr × List Node)}
    (harms : ∀ node ∈ arms.flatMap (·.2), node.Carries R page)
    (hconditions : ∀ e ∈ arms.map (·.1), e.eval s₁ = e.eval s₂) {otherwise : Scope → String → Rendered} (out : String)
    (hotherwise : SameText R (otherwise s₁ out) (otherwise s₂ out)) (h : R s₁ s₂) :
    SameText R (renderArms page position arms otherwise s₁ out) (renderArms page position arms otherwise s₂ out) := by
  induction arms with
  | nil => exact hotherwise
  | cons arm rest ih =>
    obtain ⟨condition, body⟩ := arm
    obtain ⟨hcondition, hconditions⟩ := List.forall_mem_cons.1 hconditions
    rw [List.flatMap_cons, List.forall_mem_append] at harms
    simp only [renderArms]
    refine .of_eq (Page.eval_same position hcondition) fun v => ?_
    split_ifs
    · exact renderAll_same harms.1 out h
    · exact ih harms.2 hconditions

theorem iterate_same (hR : Scope.Kept R) {body : List Node} (hbody : ∀ node ∈ body, node.Carries R page)
    (head : LoopHead) (h : R s₁ s₂) (total index : Nat) (pairs : List (Value × Value)) (out : String) :
    head.iterate (fun scope out => renderAll page body scope out) s₁ total index pairs out =
      head.iterate (fun scope out => renderAll page body scope out) s₂ total index pairs out := by
  induction pairs generalizing index out with
  | nil => rfl
  | cons pair rest ih =>
    have hscope := hR.iteration h head index total pair
    simp only [LoopHead.iterate]
    exact (renderAll_same hbody out hscope).bind_text fun out => ih (index + 1) out

theorem renderSlots_same {slots : List (String × List Node)}
    (hslots : ∀ node ∈ slots.flatMap (·.2), node.Carries R page) (h : R s₁ s₂) (data : Data) :
    renderSlots page s₁ slots data = renderSlots page s₂ slots data := by
  induction slots generalizing data with
  | nil => rfl
  | cons slot rest ih =>
    obtain ⟨name, body⟩ := slot
    rw [List.flatMap_cons, List.forall_mem_append] at hslots
    simp only [renderSlots]
    exact (renderAll_same hslots.1 "" h).bind_text fun content =>
      ih hslots.2 (data.insert name (slotValue content))

/-- **A node carries the relation** when it reads the same in related scopes and the nodes below it carry the relation.
The template of a component sees a scope of its own and may hold any nodes. -/
theorem Node.carries (hR : Scope.Kept R) {node : Node} (hself : node.ReadsAlike R page)
    (hbelow : ∀ child ∈ node.children false, child.Carries R page) : node.Carries R page := by
  intro s₁ s₂ out h
  cases node with
  | text s => exact .wrote h _
  | output e position =>
    have he : e.eval s₁ = e.eval s₂ := hself.exprs e List.mem_cons_self s₁ s₂ h
    exact .of_eq (Page.eval_same position he) fun v => .wrote h _
  | conditional position arms otherwise =>
    simp only [Node.render]
    obtain ⟨harms, hotherwise⟩ := List.forall_mem_append.1 hbelow
    have hconditions := fun e he => hself.exprs e he s₁ s₂ h
    exact renderArms_same position harms hconditions out (renderAll_same hotherwise out h) h
  | loop position head body empty =>
    simp only [Node.render]
    obtain ⟨hbody, hempty⟩ := List.forall_mem_append.1 hbelow
    have hitems : head.items.eval s₁ = head.items.eval s₂ := hself.exprs _ List.mem_cons_self s₁ s₂ h
    refine .of_eq (Page.eval_same position hitems) fun v => ?_
    split
    · exact .failed _
    · exact renderAll_same hempty out h
    · exact .of_eq (iterate_same hR hbody head h _ 0 _ out) fun out => .wrote h out
  | assign position name e =>
    have he : e.eval s₁ = e.eval s₂ := hself.exprs e List.mem_cons_self s₁ s₂ h
    exact .of_eq (Page.eval_same position he) fun v => .wrote (hR.set h name v) out
  | defaults position props =>
    simp only [Node.render]
    exact Page.applyDefaults_same hR position hself.exprs hself.names h out
  | outlet slot fallback =>
    have hslot : s₁.get? slot = s₂.get? slot := hself.names slot List.mem_cons_self s₁ s₂ h
    simp only [Node.render, hslot]
    split_ifs
    · exact .wrote h _
    · exact renderAll_same hbelow out h
  | fragment body =>
    simp only [Node.render]
    exact renderAll_same hbelow out h
  | component use template body slots =>
    have hshared : ∀ key ∈ page.sharedKeys, s₁.get? key = s₂.get? key := fun key hkey =>
      hself.names key hkey s₁ s₂ h
    simp only [Node.render]
    refine .of_eq (ComponentUse.data_same fun e he => hself.exprs e he s₁ s₂ h) fun given => ?_
    cases use.prepared given with
    | failed cause => exact .failed _
    | noContent => exact .wrote h out
    | render prepared =>
      simp only [Page.share_same hshared]
      refine .of_eq (renderSlots_same hbelow (hR.slot h _) _) fun data => ?_
      exact .of_eq rfl fun written => .wrote h written.2
  | custom tag use body =>
    have hlocals : s₁.locals = s₂.locals := hself.locals tag use body rfl s₁ s₂ h
    simp only [Node.render, hlocals]
    exact (renderAll_same hbelow _ (hR.child h)).bind fun _ _ out _ => .wrote h _

/-- **Nodes carry the relation** when all of them read the same in related scopes. -/
theorem Node.carries_of_all (hR : Scope.Kept R) {p : Node → Bool} (hp : ∀ node, p node = true → node.ReadsAlike R page)
    {node : Node} (h : node.all false p = true) : node.Carries R page := by
  induction node using Node.induct false with
  | h node ih =>
    obtain ⟨hself, hchildren⟩ := (Node.all_iff node).1 h
    exact Node.carries hR (hp node hself) fun child hchild => ih child hchild (hchildren child hchild)

/-! ## Scopes with the same look-ups -/

/-- look-ups find the same, and in the innermost map too -/
structure Scope.Alike (s₁ s₂ : Scope) : Prop where
  locals : s₁.locals = s₂.locals
  lookups : ∀ name, s₁.get? name = s₂.get? name

theorem Scope.alike_kept : Scope.Kept Scope.Alike where
  set h name v := ⟨by simp only [Scope.set, h.locals], fun other => by rw [get?_set, get?_set, h.lookups]⟩
  child h := ⟨rfl, fun name => by rw [get?_child, get?_child, h.lookups]⟩

theorem Node.readsAlike (page : Page) (node : Node) : node.ReadsAlike Scope.Alike page where
  exprs e _ _ _ h := e.eval_same fun name _ => h.lookups name
  names name _ _ _ h := h.lookups name
  locals _ _ _ _ _ _ h := h.locals

/-- **No node tells such scopes apart.** -/
theorem render_alike (page : Page) (node : Node) : node.Carries Scope.Alike page := by
  induction node using Node.induct false with
  | h node ih => exact Node.carries Scope.alike_kept (node.readsAlike page) ih

end Templating
