/-
Trees of nodes, and what stands in them.

A property of a compiled template is mostly one of each of its nodes, or of each part of its expressions. `Node.all`
and `Expr.all` check one everywhere. A component node holds two kinds of bodies: its slots, which stand in the template
that uses the component, and the component's own template; `Node.all` looks into the latter when it is asked to.

- `Expr.all_iff`, `Node.all_iff`: a check of a tree is one of its root and of what is directly below.
- `Node.induct`: what passes from the children of a node to the node holds of every node.
-/
import Mathlib.Tactic.Common
import Mathlib.Tactic.SplitIfs
import Templating.Template.Node

namespace Templating

/-! ## Expressions -/

namespace Expr

mutual

/-- `p` holds of every part of the expression, the whole included -/
@[simp]
def all (p : Expr → Bool) : Expr → Bool
  | literal v => p (literal v)
  | var name => p (var name)
  | member target key => p (member target key) && target.all p
  | index target key => p (index target key) && target.all p && key.all p
  | call target method args => p (call target method args) && target.all p && allItems p args
  | list items => p (list items) && allItems p items
  | neg e => p (neg e) && e.all p
  | not e => p (not e) && e.all p
  | and left right => p (and left right) && left.all p && right.all p
  | or left right => p (or left right) && left.all p && right.all p
  | compare op left right => p (compare op left right) && left.all p && right.all p
  | filter name e none => p (filter name e none) && e.all p
  | filter name e (some arg) => p (filter name e (some arg)) && e.all p && arg.all p

/-- `p` holds of every part of the expressions -/
@[simp]
def allItems (p : Expr → Bool) : List Expr → Bool
  | [] => true
  | e :: rest => e.all p && allItems p rest

end

/-- the expression is not the variable -/
def isNot (x : String) : Expr → Bool
  | var name => name != x
  | _ => true

/-- the variable is part of the expression -/
def reads (x : String) (e : Expr) : Bool :=
  !e.all (isNot x)

theorem reads_eq_false {x : String} {e : Expr} : e.reads x = false ↔ e.all (isNot x) = true := by
  simp [reads]

end Expr

/-! ## Nodes -/

/-- a use of a component reads the variable for its props and attributes -/
def ComponentUse.reads (x : String) (use : ComponentUse) : Bool :=
  use.props.any (·.2.reads x) || use.attributes.any (·.2.reads x)

namespace Node

/-- the nodes directly below, those of a component's own template among them when `templates` is set -/
def children (templates : Bool) : Node → List Node
  | text _ | output _ _ | assign _ _ _ | defaults _ _ => []
  | conditional _ arms otherwise => arms.flatMap (·.2) ++ otherwise
  | loop _ _ body empty => body ++ empty
  | outlet _ fallback => fallback
  | fragment body => body
  | component _ _ body slots => (if templates then body else []) ++ slots.flatMap (·.2)
  | custom _ _ body => body

/-- the expressions of the node itself -/
def exprs : Node → List Expr
  | text _ | outlet _ _ | fragment _ | custom _ _ _ => []
  | output e _ | assign _ _ e => [e]
  | conditional _ arms _ => arms.map (·.1)
  | loop _ head _ _ => [head.items]
  | defaults _ props => props.map (·.2)
  | component use _ _ _ => use.props.map (·.2) ++ use.attributes.map (·.2)

/-- the node itself reads the variable, whatever the nodes below it do; a tag of the host may read anything -/
def reads (x : String) : Node → Bool
  | text _ | fragment _ => false
  | output e _ | assign _ _ e => e.reads x
  | conditional _ arms _ => arms.any (·.1.reads x)
  | loop _ head _ _ => head.items.reads x
  | defaults _ props => props.any fun (key, e) => key == x || e.reads x
  | outlet slot _ => slot == x
  | component use _ _ _ => use.reads x
  | custom _ _ _ => true

mutual

/-- `p` holds of the node and of every node below it -/
@[simp]
def all (templates : Bool) (p : Node → Bool) : Node → Bool
  | text s => p (text s)
  | output e position => p (output e position)
  | conditional position arms otherwise =>
    p (conditional position arms otherwise) && allBodies templates p arms && allNodes templates p otherwise
  | loop position head body empty =>
    p (loop position head body empty) && allNodes templates p body && allNodes templates p empty
  | assign position name e => p (assign position name e)
  | defaults position props => p (defaults position props)
  | outlet slot fallback => p (outlet slot fallback) && allNodes templates p fallback
  | fragment body => p (fragment body) && allNodes templates p body
  | component use template body slots =>
    p (component use template body slots) && (!templates || allNodes templates p body) && allSlots templates p slots
  | custom tag use body => p (custom tag use body) && allNodes templates p body

/-- `p` holds of the nodes and of every node below them -/
@[simp]
def allNodes (templates : Bool) (p : Node → Bool) : List Node → Bool
  | [] => true
  | node :: rest => node.all templates p && allNodes templates p rest

/-- `p` holds of every node of the arms -/
@[simp]
def allBodies (templates : Bool) (p : Node → Bool) : List (Expr × List Node) → Bool
  | [] => true
  | (_, body) :: rest => allNodes templates p body && allBodies templates p rest

/-- `p` holds of every node of the slots -/
@[simp]
def allSlots (templates : Bool) (p : Node → Bool) : List (String × List Node) → Bool
  | [] => true
  | (_, body) :: rest => allNodes templates p body && allSlots templates p rest

end

variable {templates : Bool} {p : Node → Bool}

theorem allNodes_iff (nodes : List Node) :
    allNodes templates p nodes = true ↔ ∀ node ∈ nodes, node.all templates p = true := by
  induction nodes with
  | nil => simp [allNodes]
  | cons node rest ih => simp [allNodes, ih]

theorem allBodies_iff (arms : List (Expr × List Node)) :
    allBodies templates p arms = true ↔ ∀ node ∈ arms.flatMap (·.2), node.all templates p = true := by
  induction arms with
  | nil => simp [allBodies]
  | cons arm rest ih => simp [allBodies, allNodes_iff, ih, or_imp, forall_and]

theorem allSlots_iff (slots : List (String × List Node)) :
    allSlots templates p slots = true ↔ ∀ node ∈ slots.flatMap (·.2), node.all templates p = true := by
  induction slots with
  | nil => simp [allSlots]
  | cons slot rest ih => simp [allSlots, allNodes_iff, ih, or_imp, forall_and]

/-- **A check of a tree** is one of its root and of the trees directly below. -/
theorem all_iff (node : Node) :
    node.all templates p = true ↔ p node = true ∧ ∀ child ∈ node.children templates, child.all templates p = true := by
  cases node with
  | component use template body slots =>
    cases templates <;> simp [all, children, allNodes_iff, allSlots_iff, or_imp, forall_and, and_assoc]
  | _ => simp [all, children, allNodes_iff, allBodies_iff, or_imp, forall_and, and_assoc]

theorem sizeOf_flatMap {α : Type} [SizeOf α] {bodies : List (α × List Node)} {child : Node}
    (h : child ∈ bodies.flatMap (·.2)) : sizeOf child < sizeOf bodies := by
  obtain ⟨⟨a, body⟩, hbody, hchild⟩ := List.mem_flatMap.1 h
  have hlt := List.sizeOf_lt_of_mem hbody
  have hlt' := List.sizeOf_lt_of_mem hchild
  simp only [Prod.mk.sizeOf_spec] at hlt hlt'
  omega

theorem sizeOf_child {node child : Node} (h : child ∈ node.children templates) : sizeOf child < sizeOf node := by
  cases node with
  | text | output | assign | defaults => simp [children] at h
  | conditional position arms otherwise =>
    rcases List.mem_append.1 h with h | h
    · have hlt := sizeOf_flatMap h
      simp only [conditional.sizeOf_spec]
      omega
    · have hlt := List.sizeOf_lt_of_mem h
      simp only [conditional.sizeOf_spec]
      omega
  | loop position head body empty =>
    rcases List.mem_append.1 h with h | h <;>
    · have hlt := List.sizeOf_lt_of_mem h
      simp only [loop.sizeOf_spec]
      omega
  | outlet slot fallback =>
    have hlt : sizeOf child < sizeOf fallback := List.sizeOf_lt_of_mem h
    simp only [outlet.sizeOf_spec]
    omega
  | fragment body =>
    have hlt : sizeOf child < sizeOf body := List.sizeOf_lt_of_mem h
    simp only [fragment.sizeOf_spec]
    omega
  | component use template body slots =>
    simp only [component.sizeOf_spec]
    rcases List.mem_append.1 h with h | h
    · split_ifs at h
      · have hlt := List.sizeOf_lt_of_mem h
        omega
      · simp at h
    · have hlt := sizeOf_flatMap h
      omega
  | custom tag use body =>
    have hlt : sizeOf child < sizeOf body := List.sizeOf_lt_of_mem h
    simp only [custom.sizeOf_spec]
    omega

/-- **Induction over trees**: what passes from the children of a node to the node holds of every node. -/
theorem induct {P : Node → Prop} (templates : Bool)
    (h : ∀ node, (∀ child ∈ node.children templates, P child) → P node) (node : Node) : P node :=
  h node fun child hchild =>
    have := sizeOf_child hchild
    induct templates h child
termination_by sizeOf node

end Node

end Templating
