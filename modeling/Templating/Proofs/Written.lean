/-
What compiled templates consist of.

`Node.Written`: no node of the tree is a tag of the host, no use of a component has a setup, and no expression has a
literal that could not stand in a source. A set without tags of the host, whose components have no setups, compiles to
nothing else: a block that is open is as good as the node that it would be if it ended at once (`Block.closed`), and
every token keeps what is there that way.

- `step_written`: one more token, whose component has a written template.
- `fresh_written`: a source that compiles freshly, by induction on the levels of component templates.
-/
import Templating.Proofs.FreshCompilation
import Templating.Proofs.Reading

namespace Templating

open Expr.Reader (Yields yields_pure yields_fail yields_bind)

/-! ## Arguments of tags -/

theorem Arguments.readAll_yields {α : Type} {Q : α → Prop} {arguments : Arguments} {r : Expr.Reader α} {a : α}
    (h : arguments.readAll r = .ok a) (hr : Yields Q r) : Q a := by
  obtain ⟨rest, hread⟩ := Arguments.readAll_eq_ok.1 h
  exact hr _ _ _ hread

namespace Template

theorem expressionOnly_yields (tag : String) : Yields Expr.Plain (expressionOnly tag) := by
  unfold expressionOnly
  refine Expr.expression_yields.bind fun e he => yields_bind _ fun left => ?_
  split_ifs
  · exact yields_fail _
  · exact yields_pure he

theorem outputExpression_yields : Yields Expr.Plain outputExpression := by
  unfold outputExpression
  refine Expr.expression_yields.bind fun e he => yields_bind _ fun left => ?_
  split_ifs
  · exact yields_fail _
  · exact yields_pure he

theorem loopHead_yields : Yields (fun head => head.items.Plain) loopHead := by
  unfold loopHead
  refine yields_bind _ fun key? => ?_
  cases key? with
  | none => exact yields_fail _
  | some key =>
    refine yields_bind _ fun value => yields_bind _ fun isIn => ?_
    split_ifs
    · exact (expressionOnly_yields "for").bind fun items hitems => yields_pure hitems
    · exact yields_bind _ fun _ => (expressionOnly_yields "for").bind fun items hitems => yields_pure hitems

theorem assignment_yields : Yields (fun assigned => assigned.2.Plain) assignment := by
  unfold assignment
  refine yields_bind _ fun name? => ?_
  cases name? with
  | none => exact yields_fail _
  | some name =>
    exact yields_bind _ fun _ => (expressionOnly_yields "set").bind fun e he => yields_pure he

theorem propDefault_yields : Yields (fun default => ∀ e ∈ default, e.Plain) propDefault := by
  unfold propDefault
  refine yields_bind _ fun assigned => ?_
  split_ifs
  · exact Expr.expression_yields.bind fun e he => yields_pure (by simpa using he)
  · exact yields_pure (by simp)

theorem propList_yields (fuel : Nat) :
    Yields (fun list => ∀ prop ∈ list, ∀ e ∈ prop.2, Expr.Plain e) (propList fuel) := by
  induction fuel with
  | zero => exact yields_pure (by simp)
  | succ fuel ih =>
    unfold propList
    refine yields_bind _ fun left => ?_
    split_ifs
    · exact yields_pure (by simp)
    · refine yields_bind _ fun key? => ?_
      cases key? with
      | none => exact yields_fail _
      | some key =>
        refine propDefault_yields.bind fun default hdefault => yields_bind _ fun _ => ih.bind fun rest hrest => ?_
        exact yields_pure (List.forall_mem_cons.2 ⟨hdefault, hrest⟩)

theorem pairs_yields (fuel : Nat) : Yields (fun given => ∀ pair ∈ given, pair.2.Plain) (pairs fuel) := by
  induction fuel with
  | zero => exact yields_pure (by simp)
  | succ fuel ih =>
    unfold pairs
    refine yields_bind _ fun left => ?_
    split_ifs
    · exact yields_pure (by simp)
    · refine yields_bind _ fun key? => ?_
      cases key? with
      | none => exact yields_fail _
      | some key =>
        refine yields_bind _ fun _ => Expr.expression_yields.bind fun e he => ih.bind fun rest hrest => ?_
        exact yields_pure (List.forall_mem_cons.2 ⟨he, hrest⟩)

theorem componentArguments_yields : Yields (fun read => ∀ pair ∈ read.2, pair.2.Plain) componentArguments := by
  have hattrs : Yields (fun given => ∀ pair ∈ given, pair.2.Plain) withAttrs := by
    unfold withAttrs
    refine yields_bind _ fun present => ?_
    split_ifs
    · exact yields_bind _ fun left => pairs_yields left
    · exact yields_pure (by simp)
  unfold componentArguments
  refine yields_bind _ fun slotData => hattrs.bind fun given hgiven => yields_bind _ fun left => ?_
  split_ifs
  · exact yields_fail _
  · exact yields_pure hgiven

end Template

/-! ## Written nodes -/

namespace Node

/-- the node itself is built in, has no setup, and its expressions could stand in a source -/
def isWritten (node : Node) : Bool :=
  node.exprs.all (·.all Expr.isPlain) &&
    match node with
    | custom _ _ _ => false
    | component use _ _ _ => use.setup.isNone
    | _ => true

/-- the node and all nodes below it, in component templates too, could stand in a source -/
def Written (node : Node) : Prop :=
  node.all true isWritten = true

end Node

/-- the use has no setup, and its expressions could stand in a source -/
structure ComponentUse.Written (use : ComponentUse) : Prop where
  setup : use.setup = none
  props : ∀ prop ∈ use.props, prop.2.Plain
  attributes : ∀ given ∈ use.attributes, given.2.Plain

namespace Node

variable {position : Position} {nodes other : List Node} {e : Expr}

@[simp] theorem written_text (s : String) : (text s).Written := rfl

@[simp] theorem written_output : (output e position).Written ↔ e.Plain := by
  simp [Written, all, isWritten, exprs, Expr.Plain]

@[simp] theorem written_conditional {arms : List (Expr × List Node)} :
    (conditional position arms nodes).Written ↔
      (∀ arm ∈ arms, arm.1.Plain) ∧ (∀ node ∈ arms.flatMap (·.2), node.Written) ∧ ∀ node ∈ nodes, node.Written := by
  simp [Written, all, isWritten, exprs, Expr.Plain, allNodes_iff, allBodies_iff, and_assoc]

@[simp] theorem written_loop {head : LoopHead} :
    (loop position head nodes other).Written ↔
      head.items.Plain ∧ (∀ node ∈ nodes, node.Written) ∧ ∀ node ∈ other, node.Written := by
  simp [Written, all, isWritten, exprs, Expr.Plain, allNodes_iff, and_assoc]

@[simp] theorem written_assign {name : String} : (assign position name e).Written ↔ e.Plain := by
  simp [Written, all, isWritten, exprs, Expr.Plain]

@[simp] theorem written_defaults {props : List (String × Expr)} :
    (defaults position props).Written ↔ ∀ prop ∈ props, prop.2.Plain := by
  simp [Written, all, isWritten, exprs, Expr.Plain]

@[simp] theorem written_outlet {slot : String} : (outlet slot nodes).Written ↔ ∀ node ∈ nodes, node.Written := by
  simp [Written, all, isWritten, exprs, allNodes_iff]

@[simp] theorem written_fragment : (fragment nodes).Written ↔ ∀ node ∈ nodes, node.Written := by
  simp [Written, all, isWritten, exprs, allNodes_iff]

@[simp] theorem written_component {use : ComponentUse} {template : String} {slots : List (String × List Node)} :
    (component use template nodes slots).Written ↔
      use.Written ∧ (∀ node ∈ nodes, node.Written) ∧ ∀ node ∈ slots.flatMap (·.2), node.Written := by
  have huse : (component use template nodes slots).isWritten = true ↔ use.Written := by
    simp only [isWritten, exprs, List.all_append, Bool.and_eq_true, List.all_eq_true, List.mem_map,
      Option.isNone_iff_eq_none, forall_exists_index, and_imp, forall_apply_eq_imp_iff₂]
    exact ⟨fun h => ⟨h.2, h.1.1, h.1.2⟩, fun h => ⟨⟨h.props, h.attributes⟩, h.setup⟩⟩
  rw [← huse]
  simp [Written, all, allNodes_iff, allSlots_iff, and_assoc]

@[simp] theorem written_custom {tag : CustomTag} {use : TagUse} : ¬(custom tag use nodes).Written := by
  simp [Written, all, isWritten]

end Node

namespace Template

/-- the node that a block would be if it ended with these nodes -/
def Block.closed : Block → List Node → Node
  | .arm position done condition, nodes => .conditional position (done ++ [(condition, nodes)]) []
  | .otherwise position arms, nodes => .conditional position arms nodes
  | .loop position head, nodes => .loop position head nodes []
  | .loopEmpty position head body, nodes => .loop position head body nodes
  | .outlet slot, nodes => .outlet slot nodes
  | .fragment _, nodes => .fragment nodes
  | .component use template body slots, nodes => .component use template body (slots ++ [(defaultSlot, nodes)])
  | .namedSlot use template body slots name content, nodes =>
    .component use template body (slots ++ [(name, nodes), (defaultSlot, content)])
  | .custom tag use _, nodes => .custom tag use nodes

/-- the block is written as far as it goes -/
def Block.Written (block : Block) : Prop :=
  (block.closed []).Written

theorem closed_written (block : Block) (nodes : List Node) :
    (block.closed nodes).Written ↔ block.Written ∧ ∀ node ∈ nodes, node.Written := by
  unfold Block.Written
  cases block <;> simp [Block.closed, or_imp, forall_and] <;> tauto

/-- what an end tag makes of a block is written -/
def Closing.Written : Closing → Prop
  | .resumed block nodes => block.Written ∧ ∀ node ∈ nodes, node.Written
  | .complete node _ => node.Written

theorem finish_written {block : Block} {tag : String} {arguments : Arguments} {nodes : List Node} {closing : Closing}
    (h : block.finish tag arguments nodes = .ok closing) (hblock : block.Written)
    (hnodes : ∀ node ∈ nodes, node.Written) : closing.Written := by
  have hclosed := (closed_written block nodes).2 ⟨hblock, hnodes⟩
  cases block with
  | arm position done condition =>
    simp only [Block.finish] at h
    split_ifs at h
    · obtain ⟨next, hnext, h⟩ := bind_eq_ok.1 h
      have hplain := Arguments.readAll_yields hnext (expressionOnly_yields "elif")
      cases h
      refine ⟨?_, by simp⟩
      simp only [Block.Written, Block.closed, Node.written_conditional, List.forall_mem_append, List.flatMap_append,
        List.forall_mem_singleton] at hclosed ⊢
      exact ⟨⟨hclosed.1, hplain⟩, ⟨hclosed.2.1, by simp⟩, by simp⟩
    · obtain ⟨_, -, h⟩ := bind_eq_ok.1 h
      cases h
      exact ⟨hclosed, by simp⟩
    · obtain ⟨_, -, h⟩ := bind_eq_ok.1 h
      cases h
      exact hclosed
  | loop position head =>
    obtain ⟨_, -, h⟩ := bind_eq_ok.1 h
    split_ifs at h <;> cases h
    · exact ⟨hclosed, by simp⟩
    · exact hclosed
  | component use template body slots =>
    simp only [Block.finish] at h
    split_ifs at h
    · obtain ⟨_, -, h⟩ := bind_eq_ok.1 h
      cases h
      exact hclosed
    · obtain ⟨name, -, h⟩ := bind_eq_ok.1 h
      cases name <;> cases h
      refine ⟨?_, by simp⟩
      simp only [Block.Written, Block.closed, Node.written_component, List.flatMap_append, List.forall_mem_append]
        at hclosed ⊢
      exact ⟨hclosed.1, hclosed.2.1, hclosed.2.2.1, by simpa using hclosed.2.2.2⟩
  | namedSlot use template body slots name content =>
    obtain ⟨_, -, h⟩ := bind_eq_ok.1 h
    cases h
    simp only [Block.closed, Node.written_component, List.flatMap_append, List.forall_mem_append] at hclosed
    obtain ⟨huse, hbody, hslots, hlast⟩ := hclosed
    simp only [List.flatMap_cons, List.flatMap_nil, List.append_nil, List.forall_mem_append] at hlast
    refine ⟨?_, hlast.2⟩
    simp only [Block.Written, Block.closed, Node.written_component, List.flatMap_append, List.forall_mem_append]
    exact ⟨huse, hbody, ⟨hslots, by simpa using hlast.1⟩, by simp⟩
  | otherwise | loopEmpty | outlet | fragment =>
    obtain ⟨_, -, h⟩ := bind_eq_ok.1 h
    cases h
    exact hclosed
  | custom tag use closing =>
    cases h
    exact hclosed

/-! ## Written templates -/

/-- what is there of a template is written -/
structure Blocks.Written (b : Blocks) : Prop where
  nodes : ∀ node ∈ b.nodes, node.Written
  frames : ∀ frame ∈ b.frames, frame.block.Written ∧ ∀ node ∈ frame.outer, node.Written

theorem start_written : Blocks.start.Written := ⟨by simp [Blocks.start], by simp [Blocks.start]⟩

theorem Blocks.Written.push {b : Blocks} (hb : b.Written) {node : Node} (h : node.Written) : (b.push node).Written where
  nodes := by simpa [Blocks.push, or_imp, forall_and] using ⟨hb.nodes, h⟩
  frames := hb.frames

theorem Blocks.Written.opened {b : Blocks} (hb : b.Written) {block : Block} (h : block.Written) :
    (b.opened block).Written where
  nodes := by simp [Blocks.opened]
  frames := List.forall_mem_cons.2 ⟨⟨h, hb.nodes⟩, hb.frames⟩

theorem close_written {b b' : Blocks} (hb : b.Written) {frame : Frame} {outer : List Frame}
    (hframes : b.frames = frame :: outer) {tag : String} {arguments : Arguments}
    (h : b.close frame outer tag arguments = .ok b') : b'.Written := by
  have hmem := hb.frames
  rw [hframes, List.forall_mem_cons] at hmem
  obtain ⟨⟨hblock, hbefore⟩, houter⟩ := hmem
  obtain ⟨closing, hclosing, h⟩ := bind_eq_ok.1 h
  have hwritten := finish_written hclosing hblock hb.nodes
  cases closing with
  | resumed next kept =>
    cases h
    exact ⟨hwritten.2, List.forall_mem_cons.2 ⟨⟨hwritten.1, hbefore⟩, houter⟩⟩
  | complete node fragment =>
    cases h
    exact ⟨by simpa [or_imp, forall_and] using ⟨hbefore, hwritten⟩, houter⟩

theorem openTag_written {c : Context} {b b' : Blocks} (hb : b.Written) {tag : Tag} (htag : ∀ host, tag ≠ .custom host)
    {position : Position} {arguments : Arguments} (h : c.openTag b tag position arguments = .ok (.ready b')) :
    b'.Written := by
  cases tag with
  | custom host => exact absurd rfl (htag host)
  | component =>
    obtain ⟨tag, -, h⟩ := map_eq_ok.1 h
    cases h
  | conditional =>
    obtain ⟨condition, hread, h⟩ := bind_eq_ok.1 h
    have hplain := Arguments.readAll_yields hread (expressionOnly_yields "if")
    cases h
    exact hb.opened (by simpa [Block.Written, Block.closed] using hplain)
  | loop =>
    obtain ⟨head, hread, h⟩ := bind_eq_ok.1 h
    have hplain := Arguments.readAll_yields hread loopHead_yields
    cases h
    exact hb.opened (by simpa [Block.Written, Block.closed] using hplain)
  | assign =>
    obtain ⟨⟨name, e⟩, hread, h⟩ := bind_eq_ok.1 h
    have hplain := Arguments.readAll_yields hread assignment_yields
    cases h
    exact hb.push (Node.written_assign.2 hplain)
  | props =>
    obtain ⟨list, hread, h⟩ := bind_eq_ok.1 h
    have hplain := Arguments.readAll_yields hread (propList_yields arguments.count)
    have hdefaults : ∀ prop ∈ list.filterMap fun read => read.2.map fun e => (read.1, e), prop.2.Plain := by
      intro prop hprop
      obtain ⟨read, hmem, hprop⟩ := List.mem_filterMap.1 hprop
      obtain ⟨e, he, rfl⟩ := Option.map_eq_some_iff.1 hprop
      exact hplain read hmem e he
    have hnode : (Node.defaults position _).Written := Node.written_defaults.2 hdefaults
    cases h
    exact ⟨(hb.push hnode).nodes, (hb.push hnode).frames⟩
  | outlet =>
    obtain ⟨name, -, h⟩ := bind_eq_ok.1 h
    cases h
    exact hb.opened (by simp [Block.Written, Block.closed])
  | fragment =>
    obtain ⟨name, -, h⟩ := bind_eq_ok.1 h
    cases name <;> cases h
    exact hb.opened (by simp [Block.Written, Block.closed])

/-- the block of a component whose template is written and that has no setup -/
theorem componentBlock_written {tag : ComponentTag} {t : Template} {block : Block} (h : tag.block t = .ok block)
    (hsetup : tag.component.setup = none) (ht : ∀ node ∈ t.nodes, node.Written) : block.Written := by
  obtain ⟨⟨slotData, given⟩, hread, h⟩ := bind_eq_ok.1 h
  have hplain := Arguments.readAll_yields hread componentArguments_yields
  cases h
  have huse : (useOf tag.component t tag.position slotData given).Written :=
    ⟨hsetup, fun prop hprop => hplain prop (List.mem_filter.1 hprop |>.1),
      fun given hgiven => hplain given (List.mem_filter.1 hgiven |>.1)⟩
  simpa [Block.Written, Block.closed] using ⟨huse, ht⟩

/-- a token that is read at once keeps what is there written -/
theorem read_written {c : Context} (hhost : ∀ name tag, c.tags.get? name ≠ some (.custom tag)) {b b' : Blocks}
    (hb : b.Written) {token : Token} (h : c.read b token = .ok (.ready b')) : b'.Written := by
  cases token with
  | text s =>
    cases h
    exact hb.push (Node.written_text s)
  | output expr position =>
    obtain ⟨arguments, -, h⟩ := bind_eq_ok.1 h
    obtain ⟨e, hread, h⟩ := bind_eq_ok.1 h
    have hplain := Arguments.readAll_yields hread outputExpression_yields
    cases h
    exact hb.push (Node.written_output.2 hplain)
  | tag name args position =>
    obtain ⟨arguments, -, h⟩ := bind_eq_ok.1 h
    rcases readTag_cases h with ⟨frame, outer, b'', hframes, -, hclose, hb''⟩ | ⟨tag, hget, h⟩
    · cases hb''
      exact close_written hb hframes hclose
    · refine openTag_written hb ?_ h
      rintro host rfl
      exact hhost name host hget

end Template

namespace TemplateSet

variable {s : TemplateSet}

/-- no component of the set has a setup -/
def NoSetups (s : TemplateSet) : Prop :=
  ∀ name c, s.registry.get? name = some c → c.setup = none

/-- one more token keeps what is there written, when the templates of components are -/
theorem step_written (hhost : s.NoHostTags) (hsetups : s.NoSetups) {name : String}
    {compile : Component → Except TemplateError (Option Template)}
    (h : ∀ k t, compile k = .ok (some t) → ∀ node ∈ t.nodes, node.Written) {b b' : Template.Blocks} (hb : b.Written)
    {token : Template.Token} (hstep : (s.reading name).stepFresh compile b token = .ok b') : b'.Written := by
  rcases Template.Context.stepFresh_eq_ok.1 hstep with hready | ⟨tag, t, block, hcomponent, hcompile, hblock, rfl⟩
  · exact Template.read_written (c := s.reading name) hhost hb hready
  · obtain ⟨_, _, -, -, -, hregistry⟩ := Template.read_component hcomponent
    exact hb.opened (Template.componentBlock_written hblock (hsetups _ _ hregistry) (h _ _ hcompile))

theorem fold_written (hhost : s.NoHostTags) (hsetups : s.NoSetups) {name : String}
    {compile : Component → Except TemplateError (Option Template)}
    (h : ∀ k t, compile k = .ok (some t) → ∀ node ∈ t.nodes, node.Written) {tokens : List Template.Token}
    {b b' : Template.Blocks} (hb : b.Written)
    (hfold : tokens.foldlM ((s.reading name).stepFresh compile) b = .ok b') : b'.Written := by
  induction tokens generalizing b with
  | nil =>
    cases hfold
    exact hb
  | cons token tokens ih =>
    obtain ⟨b₁, hstep, hfold⟩ := bind_eq_ok.1 hfold
    exact ih (step_written hhost hsetups h hb hstep) hfold

theorem freshSource_written (hhost : s.NoHostTags) (hsetups : s.NoSetups) {name source : String}
    {compile : Component → Except TemplateError (Option Template)}
    (h : ∀ k t, compile k = .ok (some t) → ∀ node ∈ t.nodes, node.Written) {t : Template}
    (ht : s.freshSource name compile source = .ok t) : ∀ node ∈ t.nodes, node.Written := by
  obtain ⟨tokens, b, b', -, hfold, hfinish, rfl⟩ := freshSource_eq_ok.1 ht
  have hb := fold_written hhost hsetups h Template.start_written hfold
  unfold Template.Context.finish at hfinish
  cases hframes : b.frames with
  | nil =>
    rw [hframes] at hfinish
    cases hfinish
    exact hb.nodes
  | cons frame outer =>
    rw [hframes] at hfinish
    cases hfinish

/-- **Compiled templates are written**, with the templates of the components in them. -/
theorem fresh_written (hhost : s.NoHostTags) (hsetups : s.NoSetups) {levels : Nat} {name source : String} {t : Template}
    (ht : s.fresh levels name source = .ok t) : ∀ node ∈ t.nodes, node.Written := by
  induction levels generalizing name source t with
  | zero =>
    refine freshSource_written hhost hsetups (fun k t hk => ?_) ht
    cases hk
  | succ levels ih =>
    refine freshSource_written hhost hsetups (fun k t hk => ?_) ht
    rcases freshComponent_eq_ok.1 hk with ⟨path, source, -, -, -, ht⟩ | ⟨source, -, -, ht⟩
    · exact ih ht
    · exact ih ht

end TemplateSet

end Templating
