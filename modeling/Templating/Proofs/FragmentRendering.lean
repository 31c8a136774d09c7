/-
Fragments render alone as they do inline.

Inline, a fragment is rendered on the scope of its tag, which may be the innermost of a long chain. Alone, it is
rendered on a single scope. Only the values that are visible matter, and so both write the same when the single scope
holds what is visible at the tag, or fail with the same error.

- `Derives.all_isBuiltIn`: the nodes of a template are those of built-in tags and components.
- `Gives.render_fragment`: a fragment whose name is there once writes inline what it writes alone.
- `fragments_render_inline`: this for every template that is rendered and every scope.
-/
import Templating.Proofs.FragmentTags
import Templating.Proofs.VisibleVariables

namespace Templating

/-! ## Built-in tags -/

namespace Template

theorem Derives.isBuiltIn {direct : Bool} {ts : List Terminal} {node : Node} (h : Derives ts (.part direct node)) :
    node.isBuiltIn = true := by
  cases h with
  | @single _ x _ hnode => cases x <;> cases hnode <;> rfl
  | _ => rfl

/-- what is derived is of built-in tags everywhere -/
theorem Derives.all_isBuiltIn {ts : List Terminal} {phrase : Phrase} (h : Derives ts phrase) {root : Node}
    (hroot : root ∈ phrase.roots) : root.all false Node.isBuiltIn = true := by
  refine root.all_of_within fun node hnode => ?_
  obtain ⟨direct, own, -, hpart⟩ := h.exists_part root hroot node hnode
  exact hpart.isBuiltIn

/-! ## Alone and inline -/

theorem renderFragment_eq {t : Template} {name : String} {body : List Node} (h : t.fragments.get? name = some body)
    (data : Data) : t.renderFragment name data = textOf t.page body (.root data) := by
  rw [renderFragment, h, textOf]
  dsimp only
  rw [renderNodesTo]
  cases renderAll t.page body (.root data) "" <;> rfl

end Template

/-- nodes of built-in tags write behind a text what they write alone where the same is visible -/
theorem renderAll_textOf_visible (page : Page) {nodes : List Node}
    (hnodes : ∀ node ∈ nodes, node.all false Node.isBuiltIn = true) (scope : Scope) (out : String) :
    (renderAll page nodes scope out).map Prod.snd = (textOf page nodes (.root scope.visible)).map (out ++ ·) := by
  rw [render_visible page hnodes scope out, renderAll_text]

namespace TemplateSet

variable {s : TemplateSet} {request : Request} {u : Template} {name : String} {body : List Node}

/-- **A fragment whose name is there once** writes inline, wherever that is, what it writes alone with what is visible
there. -/
theorem Gives.render_fragment (hs : s.Usual) (h : s.Gives request u) (honce : u.fragmentNames.count name = 1)
    (htag : s.FragmentTag u name body) (scope : Scope) (out : String) :
    ((Node.fragment body).render u.page scope out).map Prod.snd =
      (u.renderFragment name scope.visible).map (out ++ ·) := by
  have hbody : ∀ node ∈ body, node.all false Node.isBuiltIn = true := by
    obtain ⟨terminals, -, inner, -, hderives⟩ := htag
    exact fun node hnode => hderives.all_isBuiltIn hnode
  rw [Template.renderFragment_eq (h.get?_fragments hs honce htag), Node.render]
  exact renderAll_textOf_visible u.page hbody scope out

end TemplateSet

/-- **Only the visible values of a scope matter, and fragments agree with inline rendering.** Nodes of built-in tags and
components write on a chain of scopes what they write on a single scope of what look-ups find in the chain, or fail with
the same error. A fragment name that a template has once is that of one body, and its node writes on every scope what
the fragment renders to alone with what is visible there, or fails with the same error. Every fragment that rendering
comes to is one of a template that is rendered, on the page of this template. -/
theorem fragments_render_inline (loader : Loader) (options : Options) (ops : List Operation) (request : Request)
    (t : Template) (data : Data) :
    let s := (TemplateSet.new loader options).after ops
    (∀ page nodes scope, (∀ node ∈ nodes, node.all false Node.isBuiltIn = true) →
      (∀ name, scope.visible.get? name = scope.get? name) ∧
      ∀ out, (renderAll page nodes scope out).map Prod.snd =
          (textOf page nodes (.root scope.visible)).map (out ++ ·) ∧
        (renderAll page nodes (.root scope.visible) out).map Prod.snd =
          (textOf page nodes (.root scope.visible)).map (out ++ ·)) ∧
    ((s.obtain request).1 = .ok t →
      (∀ u name, s.Gives request u → u.fragmentNames.count name = 1 →
        ∃ body, (∀ body', s.FragmentTag u name body' ↔ body' = body) ∧
          (∃ root ∈ u.nodes, root.Within (.fragment body)) ∧
          ∀ scope out, ((Node.fragment body).render u.page scope out).map Prod.snd =
            (u.renderFragment name scope.visible).map (out ++ ·)) ∧
      ∀ page body scope, Reaches t.page t.nodes (.root data) page (.fragment body) scope →
        ∃ u name, s.Gives request u ∧ page = u.page ∧ s.FragmentTag u name body) := by
  intro s
  have hs : s.Usual := TemplateSet.usual_after loader options ops
  refine ⟨fun page nodes scope hnodes => ⟨scope.get?_visible, fun out => ⟨?_, renderAll_text ..⟩⟩, fun ht => ⟨?_, ?_⟩⟩
  · exact renderAll_textOf_visible page hnodes scope out
  · intro u name hu honce
    obtain ⟨body, htag, hnode⟩ := hu.exists_fragmentTag hs honce
    exact ⟨body, htag, hnode, hu.render_fragment hs honce ((htag body).2 rfl)⟩
  · intro page body scope hreaches
    obtain ⟨u, hu, hpage, root, hroot, hwithin⟩ :=
      hreaches.gives hs (.page ht) rfl fun node hnode => ⟨node, hnode, .refl⟩
    obtain ⟨name, htag⟩ := hu.exists_name hs hroot hwithin
    exact ⟨u, name, hu, hpage, htag⟩

/-- a set without components -/
def rowSet : TemplateSet :=
  (TemplateSet.new (.memory .empty) { Options.standard with tagPrefix := none, maxDepth := 3 }).after []

/-- a page with a fragment in a loop -/
def rowPage : String :=
  "\x7b% for x in xs %\x7d\x7b% fragment \"row\" %\x7d\x7b\x7b x \x7d\x7d\x7b% endfragment %\x7d\x7b% endfor %\x7d"

/-- two rows -/
def rowData : Data :=
  .ofList [("xs", .list [.str "a", .str "b"])]

/-- the head of the loop -/
def rowHead : LoopHead :=
  ⟨"x", none, .var "xs"⟩

/-- the scope of the second iteration -/
def secondRow : Scope :=
  rowHead.scope (.root rowData) 1 2 (.str "b", .null)

/-- the page is the loop with the fragment, whose name is there once -/
def isRowPage (t : Template) : Bool :=
  match t.nodes with
  | [.loop _ ⟨"x", none, .var "xs"⟩ [.fragment [.output (.var "x") _]] []] => t.fragmentNames.count "row" == 1
  | _ => false

/-- the second iteration is rendered where the first is behind -/
theorem reaches_secondRow (page : Page) (position position' : Position) :
    Reaches page [.loop position rowHead [.fragment [.output (.var "x") position']] []] (.root rowData) page
      (.fragment [.output (.var "x") position']) secondRow := by
  have hfront : rowHead.iterate (fun scope out => renderAll page [.fragment [.output (.var "x") position']] scope out)
      (.root rowData) 2 0 [(.str "a", .null)] "" = .ok "a" := by rfl
  have hpairs : (Value.list [.str "a", .str "b"]).pairs? =
      some ([(.str "a", .null)] ++ (.str "b", .null) :: []) := by rfl
  exact .inside (.iteration (by rfl) hpairs hfront) .here

/-- there is no other fragment in the loop -/
theorem body_of_within_row {position position' : Position} {body : List Node}
    (h : (Node.loop position rowHead [.fragment [.output (.var "x") position']] []).Within (.fragment body)) :
    body = [.output (.var "x") position'] := by
  rcases h.cases_head with heq | ⟨child, hchild, h⟩
  · cases heq
  obtain rfl : child = .fragment [.output (.var "x") position'] := by simpa [Node.children] using hchild
  rcases h.cases_head with heq | ⟨child, hchild, h⟩
  · cases heq
    rfl
  obtain rfl : child = .output (.var "x") position' := by simpa [Node.children] using hchild
  rcases h.cases_head with heq | ⟨child, hchild, h⟩
  · cases heq
  · simp [Node.children] at hchild

theorem fragments_render_inline_row :
    ∃ t body, (rowSet.obtain (.text rowPage)).1 = .ok t ∧ t.fragmentNames.count "row" = 1 ∧
      rowSet.FragmentTag t "row" body ∧
      Reaches t.page t.nodes (.root rowData) t.page (.fragment body) secondRow ∧
      (∃ u name, rowSet.Gives (.text rowPage) u ∧ t.page = u.page ∧ rowSet.FragmentTag u name body) ∧
      secondRow.visible.get? "x" = some (.str "b") ∧
      ((Node.fragment body).render t.page secondRow "a").map Prod.snd = .ok "ab" ∧
      (t.renderFragment "row" secondRow.visible).map ("a" ++ ·) = .ok "ab" ∧
      (textOf t.page body (.root secondRow.visible)).map ("a" ++ ·) = .ok "ab" := by
  have hrun : (rowSet.obtain (.text rowPage)).1.toOption.any isRowPage = true := by decide +kernel
  obtain ⟨t, ht, hrow⟩ := (Option.any_eq_true _ _).1 hrun
  have hobtain := eq_ok_of_toOption ht
  unfold isRowPage at hrow
  split at hrow
  · next position position' hnodes =>
    have honce := eq_of_beq hrow
    obtain ⟨hvisible, hfragments⟩ := fragments_render_inline (.memory .empty)
      { Options.standard with tagPrefix := none, maxDepth := 3 } [] (.text rowPage) t rowData
    obtain ⟨hnames, hreached⟩ := hfragments hobtain
    obtain ⟨body, htag, ⟨root, hroot, hwithin⟩, hsame⟩ := hnames t "row" (.page hobtain) honce
    rw [hnodes, List.mem_singleton] at hroot
    obtain rfl := body_of_within_row (hroot ▸ hwithin)
    have hreaches : Reaches t.page t.nodes (.root rowData) t.page _ secondRow :=
      hnodes ▸ reaches_secondRow t.page position position'
    have hrender : ((Node.fragment [.output (.var "x") position']).render t.page secondRow "a").map Prod.snd =
        .ok "ab" := by rfl
    obtain ⟨hlookups, hsingle⟩ := hvisible t.page [.output (.var "x") position'] secondRow (by simp [Node.isBuiltIn])
    refine ⟨t, _, hobtain, honce, (htag _).2 rfl, hreaches, hreached _ _ _ hreaches, ?_, hrender, ?_, ?_⟩
    · rw [hlookups]
      rfl
    · rw [← hsame, hrender]
    · rw [← (hsingle "a").1]
      rfl
  · cases hrow

end Templating
