/-
What rendering sees of a scope.

A scope is a chain of variable maps, and a look-up finds the nearest. `Scope.visible` is one map with everything that
look-ups find. Nodes of built-in tags look names up and write over them, and so they cannot tell the chain from a single
scope with that map. A tag of the host could: it is shown the innermost map.

- `get?_visible`: the map has what look-ups find.
- `render_of_lookups`: scopes with the same look-ups are rendered on alike.
- `render_visible`: a chain and the single scope of what is visible in it, for one.
-/
import Templating.Proofs.DictLaws
import Templating.Proofs.RelatedScopes

namespace Templating

/-! ## One map for a chain -/

namespace Scope

/-- what look-ups find, in one map: of several values of a name, the nearest -/
def visible (scope : Scope) : Data :=
  ((scope.locals :: scope.outer).flatMap Dict.entries).foldr (fun (name, value) data => data.insert name value) .empty

theorem get?_foldr (entries : List (String × Value)) (name : String) :
    (entries.foldr (fun (name, value) data => data.insert name value) (.empty : Data)).get? name =
      Dict.lookup name entries := by
  induction entries with
  | nil => rfl
  | cons entry rest ih =>
    obtain ⟨key, value⟩ := entry
    rw [List.foldr_cons, Dict.get?_insert, Dict.lookup, ih]

theorem lookup_flatMap (maps : List Data) (name : String) :
    Dict.lookup name (maps.flatMap Dict.entries) = maps.findSome? (·.get? name) := by
  induction maps with
  | nil => rfl
  | cons vars maps ih =>
    rw [List.flatMap_cons, Dict.lookup_append, ih, List.findSome?_cons]
    change (vars.get? name).or _ = _
    cases vars.get? name <;> rfl

/-- **The map of what is visible** has what look-ups find. -/
theorem get?_visible (scope : Scope) (name : String) : scope.visible.get? name = scope.get? name := by
  rw [visible, get?_foldr, lookup_flatMap, get?]

theorem get?_root (vars : Data) (name : String) : (root vars).get? name = vars.get? name := by
  rw [get?, root, List.findSome?_cons]
  cases vars.get? name <;> rfl

end Scope

/-! ## Rendering -/

/-- the node is of a built-in tag or a component -/
def Node.isBuiltIn : Node → Bool
  | custom _ _ _ => false
  | _ => true

theorem Scope.lookups_kept : Scope.Kept fun s₁ s₂ => ∀ name, s₁.get? name = s₂.get? name where
  set h name v other := by rw [get?_set, get?_set, h other]
  child h name := by rw [get?_child, get?_child, h name]

theorem Node.readsAlike_of_builtIn (page : Page) {node : Node} (h : node.isBuiltIn = true) :
    node.ReadsAlike (fun s₁ s₂ => ∀ name, s₁.get? name = s₂.get? name) page where
  exprs e _ _ _ h := e.eval_same fun name _ => h name
  names name _ _ _ h := h name
  locals tag use body hnode := by
    subst hnode
    cases h

/-- **Scopes with the same look-ups** are rendered on alike: the same text is written, or rendering fails with the same
error. -/
theorem render_of_lookups (page : Page) {nodes : List Node}
    (hnodes : ∀ node ∈ nodes, node.all false Node.isBuiltIn = true) {scope scope' : Scope}
    (h : ∀ name, scope.get? name = scope'.get? name) (out : String) :
    (renderAll page nodes scope out).map Prod.snd = (renderAll page nodes scope' out).map Prod.snd := by
  have hcarries := fun node hnode =>
    Node.carries_of_all Scope.lookups_kept (fun _ => Node.readsAlike_of_builtIn page) (hnodes node hnode)
  exact (renderAll_same hcarries out h).text

/-- **Only what is visible matters**: a chain of scopes is rendered on like a single scope that holds what is visible in
it. -/
theorem render_visible (page : Page) {nodes : List Node}
    (hnodes : ∀ node ∈ nodes, node.all false Node.isBuiltIn = true) (scope : Scope) (out : String) :
    (renderAll page nodes scope out).map Prod.snd = (renderAll page nodes (.root scope.visible) out).map Prod.snd :=
  render_of_lookups page hnodes (fun name => by rw [Scope.get?_root, Scope.get?_visible]) out

end Templating
