/-
Compilation keeps the content of a source.

The content of a source are its texts and outputs. Tags move the nodes of their bodies into arms, branches and slots,
so the nodes of a template stand in another order than the tokens; but none is lost and none is there twice.

- `Derives.content_perm`: what is derived has the content of its terminals, by induction on the derivation.
- `Context.Stands.content`: a terminal has the content of its token.
- `obtain_content`: a compiled template has the content of its source, and its components have the nodes outside of
  named slots in their default slot, in order.
-/
import Templating.Proofs.PhraseParts
import Templating.Proofs.TokenTerminals

namespace Templating

/-! ## Content -/

namespace Node

mutual

/-- the texts and outputs of the node's own tree -/
def content : Node → List Node
  | text s => [text s]
  | output e position => [output e position]
  | conditional _ arms otherwise => contentOfBodies arms ++ contentOf otherwise
  | loop _ _ body empty => contentOf body ++ contentOf empty
  | assign _ _ _ | defaults _ _ => []
  | outlet _ fallback => contentOf fallback
  | fragment body => contentOf body
  | component _ _ _ slots => contentOfSlots slots
  | custom _ _ body => contentOf body

/-- the texts and outputs of the trees of nodes -/
def contentOf : List Node → List Node
  | [] => []
  | node :: rest => node.content ++ contentOf rest

/-- the texts and outputs of the arms of a conditional -/
def contentOfBodies : List (Expr × List Node) → List Node
  | [] => []
  | (_, body) :: rest => contentOf body ++ contentOfBodies rest

/-- the texts and outputs of slots -/
def contentOfSlots : List (String × List Node) → List Node
  | [] => []
  | (_, body) :: rest => contentOf body ++ contentOfSlots rest

end

@[simp] theorem contentOf_eq (nodes : List Node) : contentOf nodes = nodes.flatMap content := by
  induction nodes with
  | nil => simp [contentOf]
  | cons node rest ih => simp [contentOf, ih]

@[simp] theorem contentOfBodies_eq (arms : List (Expr × List Node)) :
    contentOfBodies arms = (arms.flatMap (·.2)).flatMap content := by
  induction arms with
  | nil => simp [contentOfBodies]
  | cons arm rest ih => simp [contentOfBodies, ih]

@[simp] theorem contentOfSlots_eq (slots : List (String × List Node)) :
    contentOfSlots slots = (slots.flatMap (·.2)).flatMap content := by
  induction slots with
  | nil => simp [contentOfSlots]
  | cons slot rest ih => simp [contentOfSlots, ih]

end Node

namespace Template

/-- the text or output that the token is, once its expression is read in the template of the name; a tag is none -/
def Token.node? (template : String) : Token → Option Node
  | .text s => some (.text s)
  | .output expr position =>
    (Arguments.ofText ⟨template, position⟩ expr >>= (·.readAll outputExpression)).toOption.map (.output · position)
  | .tag _ _ _ => none

/-- the token is a text or an output -/
def Token.isContent : Token → Bool
  | .text _ | .output _ _ => true
  | .tag _ _ _ => false

/-- the text or output that the terminal is -/
def Terminal.content : Terminal → List Node
  | .text s => [.text s]
  | .output e position => [.output e position]
  | _ => []

/-- the texts and outputs of what a phrase lists -/
def Phrase.content (phrase : Phrase) : List Node :=
  phrase.roots.flatMap Node.content

theorem node?_content {x : Terminal} {node : Node} (h : x.node? = some node) : node.content = x.content := by
  cases x <;> cases h <;> simp [Node.content, Terminal.content]

/-- **What is derived** has the texts and outputs of its terminals, each as often as there. -/
theorem Derives.content_perm {ts : List Terminal} {phrase : Phrase} (h : Derives ts phrase) :
    (ts.flatMap Terminal.content).Perm phrase.content := by
  induction h with
  | nil => exact .refl _
  | snoc _ _ ihfront ihlast => simpa [Phrase.content, Phrase.roots] using ihfront.append ihlast
  | single hnode => simp [Phrase.content, Phrase.roots, node?_content hnode]
  | first => exact .refl _
  | next _ _ ihfront ihbody =>
    simpa [Phrase.content, Phrase.roots, Terminal.content] using ihfront.append ihbody
  | conditional _ _ ihfront ihbody =>
    simpa [Phrase.content, Phrase.roots, Terminal.content, Node.content] using ihfront.append ihbody
  | otherwise _ _ _ ihfront ihbody ihother =>
    simpa [Phrase.content, Phrase.roots, Terminal.content, Node.content] using (ihfront.append ihbody).append ihother
  | loop _ ihbody => simpa [Phrase.content, Phrase.roots, Terminal.content, Node.content] using ihbody
  | loopEmpty _ _ ihbody ihother =>
    simpa [Phrase.content, Phrase.roots, Terminal.content, Node.content] using ihbody.append ihother
  | outlet _ ihbody => simpa [Phrase.content, Phrase.roots, Terminal.content, Node.content] using ihbody
  | fragment _ ihbody => simpa [Phrase.content, Phrase.roots, Terminal.content, Node.content] using ihbody
  | opening => exact .refl _
  | content _ _ ihfront ihlast => simpa [Phrase.content, Phrase.roots] using ihfront.append ihlast
  | slot _ _ ihfront ihbody =>
    -- the nodes of the slot come behind the other slots, and so in front of what stands in the gaps
    have hall := ihfront.append ihbody
    simp only [Phrase.content, Phrase.roots, List.flatMap_append, List.append_assoc] at hall
    have hmoved := hall.trans (.append_left _ List.perm_append_comm)
    simpa [Phrase.content, Phrase.roots, Terminal.content] using hmoved
  | component _ ihfront =>
    simpa [Phrase.content, Phrase.roots, Terminal.content, Node.content] using ihfront

variable {c : Context} {compile : Component → Except TemplateError (Option Template)}

/-- a tag is neither a text nor an output -/
theorem tagWord_content {name : String} {position : Position} {arguments : Arguments} {x : Terminal}
    (h : c.tagWord name position arguments = .ok (.ready x)) : x.content = [] := by
  rcases tagWord_ready_cases h with ⟨_, rfl⟩ | ⟨_, rfl⟩ | ⟨_, rfl⟩ | ⟨_, _, rfl⟩ | ⟨_, rfl⟩ | ⟨_, _, rfl⟩ | ⟨_, rfl⟩ |
    ⟨_, _, rfl⟩ <;> rfl

theorem terminal_content {tag : ComponentTag} {t : Template} {x : Terminal} (h : tag.terminal t = .ok x) :
    x.content = [] := by
  obtain ⟨given, -, h⟩ := bind_eq_ok.1 h
  cases h
  rfl

/-- **A terminal** is the text or output that its token is, and no other. -/
theorem Context.Stands.content {token : Token} {x : Terminal} (h : c.Stands compile token x) :
    x.content.map some = if token.isContent then [token.node? c.template] else [] := by
  cases token with
  | text s =>
    rcases h with hword | ⟨tag, t, hword, -, -⟩ <;> cases hword
    rfl
  | output expr position =>
    rcases h with hword | ⟨tag, t, hword, -, -⟩
    · obtain ⟨arguments, harguments, hword⟩ := bind_eq_ok.1 hword
      obtain ⟨e, he, hword⟩ := bind_eq_ok.1 hword
      cases hword
      simp [Terminal.content, Token.isContent, Token.node?, harguments, he, bind, Except.bind, Except.toOption]
    · obtain ⟨arguments, -, hword⟩ := bind_eq_ok.1 hword
      obtain ⟨e, -, hword⟩ := bind_eq_ok.1 hword
      cases hword
  | tag name args position =>
    have hnone : x.content = [] := by
      rcases h with hword | ⟨tag, t, -, -, hx⟩
      · obtain ⟨arguments, -, hword⟩ := bind_eq_ok.1 hword
        exact tagWord_content hword
      · exact terminal_content hx
    simp [hnone, Token.isContent]

theorem stands_content {tokens : List Token} {terminals : List Terminal}
    (h : List.Forall₂ (c.Stands compile) tokens terminals) :
    (terminals.flatMap Terminal.content).map some = (tokens.filter Token.isContent).map (·.node? c.template) := by
  induction h with
  | nil => rfl
  | @cons token x tokens terminals hx _ ih =>
    rw [List.flatMap_cons, List.map_append, hx.content, ih, List.filter_cons]
    split_ifs <;> simp

end Template

/-! ## Compiled templates -/

open Template in
/-- **Compilation loses and duplicates no content.** A template that a set of components and built-in tags gives has the
texts and outputs of its source, each as often as the source does. Every component in its tree is derived from a
component tag and its end tag with a number of items between them; its slots are the named ones among them, and the
default slot, which has the items that are nodes, both in the order of the source. -/
theorem obtain_content (loader : Loader) (options : Options) (ops : List Operation) (request : Request) (t : Template) :
    let s := (TemplateSet.new loader options).after ops
    (s.obtain request).1 = .ok t →
      ∃ source tokens levels terminals, s.requestSource request = .ok source ∧
        Template.tokens (s.preprocess source) = .ok tokens ∧
        ((tokens.filter Token.isContent).map (·.node? t.name)).Perm ((t.nodes.flatMap Node.content).map some) ∧
        List.Forall₂ ((s.reading t.name).Stands (s.below t.name levels)) tokens terminals ∧
        ∀ root ∈ t.nodes, ∀ use template body slots, root.Within (.component use template body slots) →
          ∃ u inner items, Terminal.component use u :: inner ++ [.ending "endcomponent" 0] <:+: terminals ∧
            Items inner items ∧ template = u.name ∧ body = u.nodes ∧
            slots = items.filterMap Item.slot? ++ [(defaultSlot, items.filterMap Item.node?)] := by
  intro s ht
  have htags : s.tags = builtinTags := Operation.after_tags _ ops
  obtain ⟨source, hsource, levels, hfresh⟩ := TemplateSet.obtain_fresh (TemplateSet.after_noHostTags loader options ops)
    (TemplateSet.new_after_coherent loader options ops) ht
  obtain ⟨tokens, terminals, htokens, hall, hderives, hname, -⟩ := TemplateSet.fresh_derives htags hfresh
  rw [← hname] at hall
  refine ⟨source, tokens, levels, terminals, hsource, htokens, ?_, hall, ?_⟩
  · have hkept := hderives.content_perm.map some
    rw [stands_content hall] at hkept
    exact hkept
  · intro root hroot use template body slots hwithin
    obtain ⟨direct, own, hown, hpart⟩ := hderives.exists_part root hroot _ hwithin
    obtain ⟨u, inner, items, rfl, hitems, htemplate, hbody, hslots⟩ := hpart.component_items
    exact ⟨u, inner, items, hown, hitems, htemplate, hbody, hslots⟩

/-- a set with a note that shows its slot, without component markup -/
def noteSet : TemplateSet :=
  (TemplateSet.new (.memory .empty) { Options.standard with tagPrefix := none }).after
    [.register ⟨"note", .inline "\x7b\x7b slot \x7d\x7d", [], none⟩]

/-- a page with a note that has a head between two parts of its slot -/
def notePage : String :=
  "a\x7b% component \"note\" %\x7db\x7b% slot \"head\" %\x7dc\x7b% endslot %\x7d\x7b\x7b d \x7d\x7d" ++
    "\x7b% endcomponent %\x7d"

/-- the page is a text and a component -/
def isNote (t : Template) : Bool :=
  match t.nodes with
  | [.text "a", .component _ _ _ _] => true
  | _ => false

open Template in
theorem obtain_content_note :
    ∃ t use template body slots tokens, (noteSet.obtain (.text notePage)).1 = .ok t ∧
      t.nodes = [.text "a", .component use template body slots] ∧
      Template.tokens (noteSet.preprocess notePage) = .ok tokens ∧
      ((tokens.filter Token.isContent).map (·.node? t.name)).Perm ((t.nodes.flatMap Node.content).map some) ∧
      ∃ items : List Item, slots = items.filterMap Item.slot? ++ [(defaultSlot, items.filterMap Item.node?)] := by
  have hrun : (noteSet.obtain (.text notePage)).1.toOption.any isNote = true := by decide +kernel
  obtain ⟨t, ht, hnote⟩ := (Option.any_eq_true _ _).1 hrun
  have hobtain := eq_ok_of_toOption ht
  unfold isNote at hnote
  split at hnote
  · next use template body slots hnodes =>
    obtain ⟨source, tokens, levels, terminals, hsource, htokens, hkept, -, hslots⟩ :=
      obtain_content (.memory .empty) _ [.register _] (.text notePage) t hobtain
    cases hsource
    obtain ⟨u, inner, items, -, -, -, -, heq⟩ := hslots _ (by rw [hnodes]; simp) use template body slots .refl
    exact ⟨t, use, template, body, slots, tokens, hobtain, hnodes, htokens, hkept, items, heq⟩
  · cases hnote

end Templating
