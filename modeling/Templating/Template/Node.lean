/-
Compiled templates.

A template is a list of nodes. Block tags hold the nodes of their bodies, and a component node holds those of the
component's own template, so a compiled template is complete: to render it nothing else is looked up.
-/
import Templating.Component.Setup
import Templating.Component.SlotData
import Templating.Error
import Templating.Expr.Basic

namespace Templating

/-- where a tag of the host stands: the template, and how many component templates are around it -/
structure TagUse where
  template : String
  depth : Nat
  deriving DecidableEq, Repr

/-- a tag of the host: what it writes around its body, if it has one, and when it is refused -/
structure CustomTag where
  /-- the tag that ends its body -/
  closing : Option String
  /-- why a use with so many argument words is refused -/
  refusal : TagUse → (arguments : Nat) → Option String
  /-- what it writes before its body, with the variables of the innermost scope -/
  before : TagUse → Data → String
  /-- what it writes behind its body -/
  behind : TagUse → Data → String

/-- the head of a loop tag -/
structure LoopHead where
  key : String
  value : Option String
  items : Expr
  deriving Inhabited

/-- a use of a component: where it stands, what it passes and what it shows to its slots -/
structure ComponentUse where
  position : Position
  name : String
  setup : Option Setup
  props : List (String × Expr)
  attributes : List (String × Expr)
  slotData : SlotData

/-- a part of a compiled template -/
inductive Node where
  | text (s : String)
  | output (e : Expr) (position : Position)
  | conditional (position : Position) (arms : List (Expr × List Node)) (otherwise : List Node)
  | loop (position : Position) (head : LoopHead) (body empty : List Node)
  | assign (position : Position) (name : String) (e : Expr)
  | defaults (position : Position) (props : List (String × Expr))
  | outlet (slot : String) (fallback : List Node)
  | fragment (body : List Node)
  | component (use : ComponentUse) (template : String) (body : List Node) (slots : List (String × List Node))
  | custom (tag : CustomTag) (use : TagUse) (body : List Node)
  deriving Inhabited

/-- a compiled template -/
structure Template where
  name : String
  /-- the source it was compiled from, after all passes -/
  source : String
  nodes : List Node
  /-- the props that it declares -/
  props : List String
  /-- the bodies of its fragments -/
  fragments : Dict (List Node)
  /-- the variables that component templates see of their callers -/
  sharedKeys : List String
  deriving Inhabited

/-- the key of the slot that takes what stands outside of named slots -/
def defaultSlot : String := "slot"

end Templating
