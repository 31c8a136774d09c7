/-
Components do not see the variables of their callers.

`AgreeOff x s₁ s₂`: the scopes give every name but `x` the same value. Whatever does not read `x` cannot tell such
scopes apart; what is written into both keeps them that way. A component tag reads its own expressions, the nodes of
its slots do, and the shared keys are read for it; its template is rendered on a scope of its own.

- `eval_agree`: an expression without `x` has the same value in both scopes.
- `render_agree`: nodes that do not read `x` write the same text in both, or fail alike.
- `component_isolated`: so does a use of a component, whatever its template reads.
-/
import Templating.Proofs.RelatedScopes

namespace Templating

/-! ## Scopes that agree but for a name -/

namespace Scope

/-- both scopes give the same for every other name -/
def AgreeOff (x : String) (s₁ s₂ : Scope) : Prop :=
  ∀ y, y ≠ x → s₁.get? y = s₂.get? y

theorem agreeOff_kept (x : String) : Kept (AgreeOff x) where
  set h name v y hy := by rw [get?_set, get?_set, h y hy]
  child h y hy := by rw [get?_child, get?_child, h y hy]

end Scope

open Scope

variable {x : String} {s₁ s₂ : Scope} {page : Page}

/-- **An expression without the variable** has the same value in both scopes. -/
theorem Expr.eval_agree (h : AgreeOff x s₁ s₂) {e : Expr} (hx : e.reads x = false) : e.eval s₁ = e.eval s₂ := by
  refine e.eval_same fun name hname => h name ?_
  rintro rfl
  rw [reads_eq_false.1 hx] at hname
  cases hname

/-! ## Nodes -/

theorem ComponentUse.exprs_unread {use : ComponentUse} (hx : use.reads x = false) :
    ∀ e ∈ use.props.map (·.2) ++ use.attributes.map (·.2), e.reads x = false := by
  simp only [ComponentUse.reads, Bool.or_eq_false_iff, List.any_eq_false, Bool.not_eq_true] at hx
  rw [List.forall_mem_append, List.forall_mem_map, List.forall_mem_map]
  exact hx

/-- the expressions of a node that does not read the variable do not read it -/
theorem Node.exprs_unread {node : Node} (hx : node.reads x = false) : ∀ e ∈ node.exprs, e.reads x = false := by
  cases node with
  | component use _ _ _ => exact ComponentUse.exprs_unread hx
  | text | outlet | fragment | custom => simp [Node.exprs]
  | output | assign | loop =>
    intro e he
    rw [List.eq_of_mem_singleton he]
    exact hx
  | conditional position arms otherwise =>
    intro e he
    obtain ⟨arm, harm, rfl⟩ := List.mem_map.1 he
    simpa using List.any_eq_false.1 hx arm harm
  | defaults position props =>
    intro e he
    obtain ⟨prop, hprop, rfl⟩ := List.mem_map.1 he
    have hunread := List.any_eq_false.1 hx prop hprop
    rw [Bool.not_eq_true, Bool.or_eq_false_iff] at hunread
    exact hunread.2

/-- nor does it look the variable up -/
theorem Node.names_unread (hshared : x ∉ page.sharedKeys) {node : Node} (hx : node.reads x = false) :
    x ∉ node.names page := by
  cases node with
  | outlet slot fallback =>
    have hslot : slot ≠ x := by simpa [Node.reads] using hx
    simpa [Node.names] using hslot.symm
  | defaults position props =>
    intro hmem
    obtain ⟨prop, hprop, rfl⟩ := List.mem_map.1 hmem
    simpa using List.any_eq_false.1 hx prop hprop
  | component => exact hshared
  | _ => simp [Node.names]

theorem Node.readsAlike_of_unread (hshared : x ∉ page.sharedKeys) {node : Node} (hx : node.reads x = false) :
    node.ReadsAlike (AgreeOff x) page where
  exprs e he _ _ h := Expr.eval_agree h (Node.exprs_unread hx e he)
  names name hname _ _ h := h name fun heq => Node.names_unread hshared hx (heq ▸ hname)
  locals tag use body hnode := by
    subst hnode
    cases hx

/-- rendering does not tell scopes apart that agree off the variable -/
abbrev Node.Blind (x : String) (page : Page) (node : Node) : Prop :=
  node.Carries (AgreeOff x) page

/-- a use of a component, when the nodes of its slots cannot tell the scopes apart: its template sees its own data -/
theorem component_agree (use : ComponentUse) (template : String) (body : List Node) {slots : List (String × List Node)}
    (hshared : x ∉ page.sharedKeys) (huse : use.reads x = false)
    (hslots : ∀ node ∈ slots.flatMap (·.2), node.Blind x page) :
    (Node.component use template body slots).Blind x page :=
  Node.carries (agreeOff_kept x) (Node.readsAlike_of_unread hshared huse) hslots

/-- **Nodes that do not read the variable** write the same in scopes that agree off it. -/
theorem render_agree (hshared : x ∉ page.sharedKeys) (node : Node) (hx : node.all false (fun n => !n.reads x) = true) :
    node.Blind x page :=
  Node.carries_of_all (agreeOff_kept x)
    (fun _ hunread => Node.readsAlike_of_unread hshared (by simpa using hunread)) hx

/-- **Components are isolated from their callers.** A use of a component that does not read a variable, in its props,
its attributes or anywhere in its slots, writes the same text or fails alike in all scopes that agree but for this
variable, unless the variable is shared. -/
theorem component_isolated (page : Page) (use : ComponentUse) (template : String) (body : List Node)
    (slots : List (String × List Node)) (x : String) (s₁ s₂ : Scope) (out : String) (hshared : x ∉ page.sharedKeys)
    (huse : use.reads x = false)
    (hslots : ∀ slot ∈ slots, ∀ node ∈ slot.2, node.all false (fun n => !n.reads x) = true)
    (hagree : ∀ y, y ≠ x → s₁.get? y = s₂.get? y) :
    ((Node.component use template body slots).render page s₁ out).map Prod.snd =
      ((Node.component use template body slots).render page s₂ out).map Prod.snd := by
  have hblind : ∀ node ∈ slots.flatMap (·.2), node.Blind x page := by
    intro node hnode
    obtain ⟨slot, hslot, hnode⟩ := List.mem_flatMap.1 hnode
    exact render_agree hshared node (hslots slot hslot node hnode)
  exact (component_agree use template body hshared huse hblind s₁ s₂ out hagree).text

/-- a card with a title and a slot, whose own template asks for the user -/
def card : Node :=
  .component ⟨.start, "card", none, [("title", .var "headline")], [], .nothing⟩ "card.html"
    [.output (.var "title") .start, .outlet "slot" [], .output (.var "user") .start]
    [("slot", [.output (.var "headline") .start])]

/-- a caller that knows its user -/
def knowing : Scope := .root (.ofList [("headline", .str "news"), ("user", .str "ann")])

/-- a caller that does not -/
def unknowing : Scope := .root (.ofList [("headline", .str "news")])

theorem component_isolated_card :
    (knowing.get? "user").isSome ≠ (unknowing.get? "user").isSome ∧
      (card.render ⟨"page.html", []⟩ knowing "").map Prod.snd =
        (card.render ⟨"page.html", []⟩ unknowing "").map Prod.snd := by
  refine ⟨by decide, component_isolated _ _ _ _ _ "user" _ _ _ ?_ ?_ ?_ ?_⟩
  · simp
  · decide
  · decide
  · intro y hy
    simp [knowing, unknowing, Scope.get?, Scope.root, Dict.ofList, Dict.get?_insert, hy]

end Templating
