/-
Variables in sight of a node.

A scope is a chain of variable maps. Look-ups walk outwards; writes stay in the innermost map, so what happens in a
child scope is gone with it.
-/
import Templating.Value

namespace Templating

/-- the variables of this scope and of the scopes around it, the nearest first -/
structure Scope where
  locals : Data
  outer : List Data
  deriving Inhabited

namespace Scope

/-- a scope with nothing around it -/
def root (vars : Data) : Scope := ⟨vars, []⟩

/-- an empty scope inside another -/
def child (s : Scope) : Scope := ⟨.empty, s.locals :: s.outer⟩

/-- the nearest value of a name -/
def get? (s : Scope) (name : String) : Option Value :=
  (s.locals :: s.outer).findSome? (·.get? name)

/-- the scope with a value written into its innermost map -/
def set (s : Scope) (name : String) (value : Value) : Scope :=
  { s with locals := s.locals.insert name value }

theorem get?_set (s : Scope) (name other : String) (value : Value) :
    (s.set name value).get? other = if other = name then some value else s.get? other := by
  by_cases h : other = name <;> simp [get?, set, Dict.get?_insert, h, List.findSome?_cons]

theorem get?_child (s : Scope) (name : String) : s.child.get? name = s.get? name := by
  simp [get?, child, List.findSome?_cons]

end Scope

end Templating
