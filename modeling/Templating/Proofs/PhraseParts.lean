/-
Nodes and the terminals they are derived from.

Every node of a template's own tree is derived from terminals that stand together (`Derives.exists_part`); the nodes of
component templates are not part of this tree. The terminals of a component are its tag, one part after the other, and
its end tag, where a part is a node or a named slot (`Items`).

- `Derives.exists_part`: the terminals of a node, anywhere in what is derived.
- `Derives.component_items`: a component keeps its named slots and the nodes outside of them, both in order.
-/
import Mathlib.Logic.Relation
import Templating.Proofs.NodeTree
import Templating.Proofs.BlockGrammar

namespace Templating

/-- the node stands in the tree of the other, which may be itself; component templates are trees of their own -/
def Node.Within (root node : Node) : Prop :=
  Relation.ReflTransGen (fun parent child => child ∈ parent.children false) root node

theorem Node.Within.cases_head {root node : Node} (h : root.Within node) :
    root = node ∨ ∃ child ∈ root.children false, child.Within node :=
  Relation.ReflTransGen.cases_head h

/-- what every node of a tree passes is a check of the tree -/
theorem Node.all_of_within {p : Node → Bool} (root : Node) (h : ∀ node, root.Within node → p node = true) :
    root.all false p = true := by
  induction root using Node.induct false with
  | h root ih =>
    have hchildren : ∀ child ∈ root.children false, child.all false p = true :=
      fun child hchild => ih child hchild fun node hnode => h node (.head hchild hnode)
    exact (all_iff root).2 ⟨h root .refl, hchildren⟩

namespace Template

/-! ## The terminals of a node -/

/-- the nodes that a phrase lists -/
def Phrase.roots : Phrase → List Node
  | .body _ nodes => nodes
  | .part _ node => [node]
  | .arms _ done _ => done.flatMap (·.2)
  | .slots _ _ content named => named.flatMap (·.2) ++ content

/-- every node in the trees of these is derived from some of the terminals, which stand together -/
def PartsIn (ts : List Terminal) (nodes : List Node) : Prop :=
  ∀ root ∈ nodes, ∀ node, root.Within node → ∃ direct own, own <:+: ts ∧ Derives own (.part direct node)

theorem PartsIn.mono {ts ts' : List Terminal} {nodes : List Node} (h : PartsIn ts nodes) (hts : ts <:+: ts') :
    PartsIn ts' nodes := by
  intro root hroot node hnode
  obtain ⟨direct, own, hown, hpart⟩ := h root hroot node hnode
  exact ⟨direct, own, hown.trans hts, hpart⟩

theorem PartsIn.append {ts ts' : List Terminal} {nodes nodes' : List Node} (h : PartsIn ts nodes)
    (h' : PartsIn ts' nodes') : PartsIn (ts ++ ts') (nodes ++ nodes') :=
  List.forall_mem_append.2 ⟨h.mono ⟨[], ts', rfl⟩, h'.mono ⟨ts, [], by rw [List.append_nil]⟩⟩

theorem PartsIn.subset {ts : List Terminal} {nodes nodes' : List Node} (h : PartsIn ts nodes) (hsub : nodes' ⊆ nodes) :
    PartsIn ts nodes' :=
  fun root hroot => h root (hsub hroot)

theorem PartsIn.cons {ts : List Terminal} {nodes : List Node} (h : PartsIn ts nodes) (x : Terminal) :
    PartsIn (x :: ts) nodes :=
  h.mono ⟨[x], [], by simp⟩

theorem PartsIn.concat {ts : List Terminal} {nodes : List Node} (h : PartsIn ts nodes) (x : Terminal) :
    PartsIn (ts ++ [x]) nodes :=
  h.mono ⟨[], [x], rfl⟩

/-- a node is derived from its terminals, and the nodes below it from some of them -/
theorem PartsIn.node {direct : Bool} {ts : List Terminal} {node : Node} (hpart : Derives ts (.part direct node))
    (h : PartsIn ts (node.children false)) : PartsIn ts (Phrase.part direct node).roots := by
  rintro root hroot below hbelow
  obtain rfl := List.mem_singleton.1 hroot
  rcases hbelow.cases_head with rfl | ⟨child, hchild, hbelow⟩
  · exact ⟨direct, ts, List.infix_rfl, hpart⟩
  · exact h child hchild below hbelow

theorem node?_children {x : Terminal} {node : Node} (h : x.node? = some node) (templates : Bool) :
    node.children templates = [] := by
  cases x <;> cases h <;> rfl

/-- **Every node of what is derived** has terminals of its own among those of the whole, which stand together. -/
theorem Derives.exists_part {ts : List Terminal} {phrase : Phrase} (h : Derives ts phrase) :
    PartsIn ts phrase.roots := by
  induction h with
  | nil | first | opening => simp [PartsIn, Phrase.roots]
  | snoc _ _ ihfront ihlast => exact ihfront.append ihlast
  | single hnode => exact .node (Derives.single hnode) (by simp [PartsIn, node?_children hnode])
  | next _ _ ihfront ihbody => simpa [Phrase.roots] using (ihfront.append ihbody).concat _
  | conditional hfront hbody ihfront ihbody =>
    refine .node (Derives.conditional hfront hbody) ?_
    simpa [Phrase.roots, Node.children] using (ihfront.append ihbody).concat _
  | otherwise hfront hbody hother ihfront ihbody ihother =>
    refine .node (Derives.otherwise hfront hbody hother) ?_
    simpa [Phrase.roots, Node.children] using ((ihfront.append ihbody).append (ihother.cons _)).concat _
  | loop hbody ihbody =>
    refine .node (Derives.loop hbody) ?_
    simpa [Phrase.roots, Node.children] using (ihbody.cons _).concat _
  | loopEmpty hbody hother ihbody ihother =>
    refine .node (Derives.loopEmpty hbody hother) ?_
    simpa [Phrase.roots, Node.children] using ((ihbody.cons _).append (ihother.cons _)).concat _
  | outlet hbody ihbody => exact .node (Derives.outlet hbody) ((ihbody.cons _).concat _)
  | fragment hbody ihbody => exact .node (Derives.fragment hbody) ((ihbody.cons _).concat _)
  | content _ _ ihfront ihlast => simpa [Phrase.roots] using ihfront.append ihlast
  | slot _ _ ihfront ihbody =>
    refine ((ihfront.append (ihbody.cons _)).concat _).subset ?_
    simp [Phrase.roots]
  | component hfront ihfront =>
    refine .node (Derives.component hfront) ?_
    simpa [Phrase.roots, Node.children] using ihfront.concat _

/-! ## The terminals of a component -/

/-- what stands in a component itself: a node, or a named slot -/
inductive Item where
  | node (node : Node)
  | slot (name : String) (nodes : List Node)

/-- the node that is no slot -/
def Item.node? : Item → Option Node
  | .node n => some n
  | .slot _ _ => none

/-- the name and the nodes of a slot -/
def Item.slot? : Item → Option (String × List Node)
  | .node _ => none
  | .slot name nodes => some (name, nodes)

/-- the terminals inside a component are these items, one after the other -/
inductive Items : List Terminal → List Item → Prop
  | nil : Items [] []
  | node {inner ts items node} (hfront : Items inner items) (hnode : Derives ts (.part true node)) :
    Items (inner ++ ts) (items ++ [.node node])
  | slot {inner ts items outlet name nodes} (hfront : Items inner items) (hbody : Derives ts (.body false nodes)) :
    Items (inner ++ .slot outlet (some name) :: ts ++ [.ending "endslot" 0]) (items ++ [.slot name nodes])

/-- the nodes outside of the slots, in order, are what stood in the gaps, and the slots are the named ones -/
theorem Derives.items {ts : List Terminal} {use : ComponentUse} {template : Template} {content : List Node}
    {named : List (String × List Node)} (h : Derives ts (.slots use template content named)) :
    ∃ inner items, ts = .component use template :: inner ∧ Items inner items ∧
      content = items.filterMap Item.node? ∧ named = items.filterMap Item.slot? := by
  generalize hphrase : Phrase.slots use template content named = phrase at h
  induction h generalizing use template content named with
  | opening =>
    cases hphrase
    exact ⟨[], [], rfl, .nil, rfl, rfl⟩
  | content _ hlast ihfront _ =>
    cases hphrase
    obtain ⟨inner, items, rfl, hitems, rfl, rfl⟩ := ihfront rfl
    exact ⟨_, _, rfl, .node hitems hlast, by simp [Item.node?], by simp [Item.slot?]⟩
  | slot _ hbody ihfront _ =>
    cases hphrase
    obtain ⟨inner, items, rfl, hitems, rfl, rfl⟩ := ihfront rfl
    exact ⟨_, _, rfl, .slot hitems hbody, by simp [Item.node?], by simp [Item.slot?]⟩
  | _ => cases hphrase

/-- **A component** is derived from its tag, its items and its end tag; its slots are the named slots in order, and
behind them the nodes outside of these, in order. -/
theorem Derives.component_items {direct : Bool} {ts : List Terminal} {use : ComponentUse} {template : String}
    {body : List Node} {slots : List (String × List Node)}
    (h : Derives ts (.part direct (.component use template body slots))) :
    ∃ t inner items, ts = .component use t :: inner ++ [.ending "endcomponent" 0] ∧ Items inner items ∧
      template = t.name ∧ body = t.nodes ∧
      slots = items.filterMap Item.slot? ++ [(defaultSlot, items.filterMap Item.node?)] := by
  cases h with
  | @single _ x _ hnode => cases x <;> cases hnode
  | component hfront =>
    obtain ⟨inner, items, rfl, hitems, rfl, rfl⟩ := hfront.items
    exact ⟨_, inner, items, rfl, hitems, rfl, rfl, rfl⟩

end Template

end Templating
