/-
Content between the tags of a component.

Tokens that compile by themselves mean the same inside of other blocks: what they open they close again, so the blocks
around them are neither ended nor continued. There are two exceptions at the top level of the tokens. An end tag of the
blocks around is unknown to tokens that stand alone, and a slot is an outlet there, while directly in a component it is
a named slot. `Blocks.Declares` says that there is such an outlet; once there, it stays.

- `read_inside`: one token is read alike inside of other blocks, which are not touched.
- `Blocks.Grows`: everything that one token does to the blocks; `Grows.declares`: an outlet of the top level stays.
- `fold_inside`: tokens that declare no slot at their top level compile alike directly in a component.
-/
import Templating.Proofs.BlockStructure

namespace Templating

theorem Compile.outcome_map_ok {α β : Type} {x : Compile α} {a : α} {cache cache' : Dict Template} (f : α → β)
    (h : x.outcome cache = (.ok a, cache')) : (f <$> x).outcome cache = (.ok (f a), cache') := by
  rw [map_eq_pure_bind, outcome_bind_ok h, outcome_pure]

namespace Template

open Compile

/-! ## Blocks around blocks -/

/-- the blocks with others open around them -/
def Blocks.inside (around : List Frame) (b : Blocks) : Blocks :=
  { b with frames := b.frames ++ around }

/-- what a token makes of blocks, inside of others -/
def Reading.inside (around : List Frame) : Reading → Reading
  | .ready b => .ready (b.inside around)
  | .component tag => .component tag

variable {c : Context} {b b' : Blocks} {around : List Frame} {cache cache' : Dict Template}

theorem close_inside (b : Blocks) (around : List Frame) (frame : Frame) (outer : List Frame) (tag : String)
    (arguments : Arguments) :
    (b.inside around).close frame (outer ++ around) tag arguments =
      (b.close frame outer tag arguments).map (Blocks.inside around) := by
  have hnodes : (b.inside around).nodes = b.nodes := rfl
  unfold Blocks.close
  rw [hnodes]
  cases frame.block.finish tag arguments b.nodes with
  | error e => rfl
  | ok closing => cases closing <;> rfl

theorem openTag_inside (c : Context) (b : Blocks) (around : List Frame) (tag : Tag) (position : Position)
    (arguments : Arguments) :
    c.openTag (b.inside around) tag position arguments =
      (c.openTag b tag position arguments).map (Reading.inside around) := by
  cases tag with
  | conditional | loop | assign | props | outlet =>
    simp only [Context.openTag]
    generalize arguments.readAll _ = read
    cases read <;> rfl
  | fragment =>
    simp only [Context.openTag]
    cases arguments.readAll Expr.acceptString with
    | error e => rfl
    | ok name => cases name <;> rfl
  | component =>
    simp only [Context.openTag]
    cases c.componentTag position arguments <;> rfl
  | custom tag =>
    simp only [Context.openTag, Context.customTag]
    cases tag.refusal ⟨c.template, c.depth⟩ arguments.count with
    | some message => rfl
    | none => cases tag.closing <;> rfl

theorem startTag_inside (c : Context) (b : Blocks) (around : List Frame) (name : String) (position : Position)
    (arguments : Arguments) :
    c.startTag (b.inside around) name position arguments =
      (c.startTag b name position arguments).map (Reading.inside around) := by
  unfold Context.startTag
  cases c.tags.get? name with
  | none => rfl
  | some tag => exact openTag_inside c b around tag position arguments

/-- the token is a tag that ends or continues the innermost of the blocks around -/
def Token.Ends (token : Token) (around : List Frame) : Prop :=
  ∃ name args position, token = .tag name args position ∧ ∃ frame ∈ around.head?, name ∈ frame.block.ends

/-- **A token is read alike inside of other blocks**, unless it is at the top level and ends or continues one of
them. -/
theorem read_inside {token : Token} (h : b.frames = [] → ¬ token.Ends around) :
    c.read (b.inside around) token = (c.read b token).map (Reading.inside around) := by
  cases token with
  | text s => rfl
  | output expr position =>
    simp only [Context.read]
    cases Arguments.ofText ⟨c.template, position⟩ expr with
    | error e => rfl
    | ok arguments =>
      change (arguments.readAll outputExpression >>= _) = (arguments.readAll outputExpression >>= _).map _
      cases arguments.readAll outputExpression <;> rfl
  | tag name args position =>
    simp only [Context.read]
    cases Arguments.ofText ⟨c.template, position⟩ args with
    | error e => rfl
    | ok arguments =>
      change c.readTag (b.inside around) name position arguments = (c.readTag b name position arguments).map _
      unfold Context.readTag
      cases hframes : b.frames with
      | nil =>
        have haround : (b.inside around).frames = around := by rw [Blocks.inside, hframes, List.nil_append]
        rw [haround]
        cases around with
        | nil => exact startTag_inside c b [] name position arguments
        | cons frame outer =>
          have hends : name ∉ frame.block.ends := fun hmem =>
            h hframes ⟨name, args, position, rfl, frame, rfl, hmem⟩
          simp only [if_neg hends]
          exact startTag_inside c b (frame :: outer) name position arguments
      | cons frame outer =>
        have haround : (b.inside around).frames = frame :: (outer ++ around) := by
          rw [Blocks.inside, hframes, List.cons_append]
        rw [haround]
        by_cases hends : name ∈ frame.block.ends
        · simp only [if_pos hends, close_inside]
          cases b.close frame outer name arguments <;> rfl
        · simp only [if_neg hends]
          exact startTag_inside c b around name position arguments

theorem openComponent_inside (c : Context) (b : Blocks) (around : List Frame) (tag : ComponentTag) :
    c.openComponent (b.inside around) tag = Blocks.inside around <$> c.openComponent b tag := by
  rw [openComponent_eq, openComponent_eq]
  simp only [map_bind, map_pure]
  rfl

/-- one token does the same inside of other blocks, and the cache behind it is the same -/
theorem step_inside {token : Token} (h : b.frames = [] → ¬ token.Ends around) :
    c.step (b.inside around) token = Blocks.inside around <$> c.step b token := by
  unfold Context.step
  rw [read_inside h]
  cases c.read b token with
  | error e => rfl
  | ok reading =>
    cases reading with
    | ready b => rfl
    | component tag => exact openComponent_inside c b around tag

/-! ## What one token does -/

/-- everything that one token does to the blocks: one more node, one more block, or the innermost block ends or goes
on -/
inductive Blocks.Grows (b : Blocks) : Blocks → Prop
  | pushed (node : Node) (props : List String) : Grows b { b.push node with props }
  | opened (block : Block) : Grows b (b.opened block)
  | closed {frame : Frame} {outer : List Frame} {tag : String} {arguments : Arguments} {b' : Blocks}
    (hframes : b.frames = frame :: outer) (hclose : b.close frame outer tag arguments = .ok b') : Grows b b'

theorem openTag_grows {tag : Tag} {position : Position} {arguments : Arguments}
    (h : c.openTag b tag position arguments = .ok (.ready b')) : b.Grows b' := by
  cases tag with
  | conditional | loop | outlet =>
    obtain ⟨x, -, h⟩ := bind_eq_ok.1 h
    cases h
    exact .opened _
  | assign =>
    obtain ⟨x, -, h⟩ := bind_eq_ok.1 h
    cases h
    exact .pushed _ b.props
  | props =>
    obtain ⟨list, -, h⟩ := bind_eq_ok.1 h
    cases h
    exact .pushed _ _
  | fragment =>
    obtain ⟨name, -, h⟩ := bind_eq_ok.1 h
    cases name <;> cases h
    exact .opened _
  | component =>
    obtain ⟨tag, -, h⟩ := map_eq_ok.1 h
    cases h
  | custom tag =>
    obtain ⟨b'', h, hb''⟩ := map_eq_ok.1 h
    cases hb''
    unfold Context.customTag at h
    cases hrefusal : tag.refusal ⟨c.template, c.depth⟩ arguments.count with
    | some message => simp [hrefusal] at h
    | none =>
      simp only [hrefusal] at h
      cases hclosing : tag.closing with
      | some closing =>
        simp only [hclosing] at h
        cases h
        exact .opened _
      | none =>
        simp only [hclosing] at h
        cases h
        exact .pushed _ b.props

theorem read_grows {token : Token} (h : c.read b token = .ok (.ready b')) : b.Grows b' := by
  cases token with
  | text s =>
    cases h
    exact .pushed _ b.props
  | output expr position =>
    obtain ⟨arguments, -, h⟩ := bind_eq_ok.1 h
    obtain ⟨e, -, h⟩ := bind_eq_ok.1 h
    cases h
    exact .pushed _ b.props
  | tag name args position =>
    obtain ⟨arguments, -, h⟩ := bind_eq_ok.1 h
    rcases readTag_cases h with ⟨frame, outer, b'', hframes, -, hclose, hb''⟩ | ⟨tag, -, h⟩
    · cases hb''
      exact .closed hframes hclose
    · exact openTag_grows h

theorem step_grows {token : Token} (h : (c.step b token).outcome cache = (.ok b', cache')) : b.Grows b' := by
  obtain ⟨reading, between, hread, h⟩ := outcome_bind_eq_ok.1 h
  have hread : c.read b token = .ok reading := (outcome_ofExcept_eq_ok.1 hread).1
  cases reading with
  | ready b'' =>
    obtain ⟨rfl, -⟩ := outcome_pure_eq_ok.1 h
    exact read_grows hread
  | component tag =>
    simp only [openComponent_eq] at h
    obtain ⟨t, _, -, h⟩ := outcome_bind_eq_ok.1 h
    obtain ⟨block, _, -, h⟩ := outcome_bind_eq_ok.1 h
    obtain ⟨rfl, -⟩ := outcome_pure_eq_ok.1 h
    exact .opened block

/-! ## Slots of the top level -/

/-- an outlet stands among the nodes themselves -/
def DeclaresSlot (nodes : List Node) : Prop :=
  ∃ slot fallback, Node.outlet slot fallback ∈ nodes

theorem DeclaresSlot.append {nodes : List Node} (h : DeclaresSlot nodes) (more : List Node) :
    DeclaresSlot (nodes ++ more) := by
  obtain ⟨slot, fallback, hmem⟩ := h
  exact ⟨slot, fallback, List.mem_append_left _ hmem⟩

/-- an outlet stands at the top level, or is open there -/
def Blocks.Declares (b : Blocks) : Prop :=
  match b.frames.getLast? with
  | none => DeclaresSlot b.nodes
  | some frame => (∃ slot, frame.block = .outlet slot) ∨ DeclaresSlot frame.outer

theorem declares_nil {nodes : List Node} {props : List String} {fragments : Dict (List Node)} :
    (Blocks.mk nodes [] props fragments).Declares ↔ DeclaresSlot nodes := Iff.rfl

theorem declares_single {nodes : List Node} {frame : Frame} {props : List String} {fragments : Dict (List Node)} :
    (Blocks.mk nodes [frame] props fragments).Declares ↔
      (∃ slot, frame.block = .outlet slot) ∨ DeclaresSlot frame.outer := Iff.rfl

/-- while a block is open, the outermost one decides -/
theorem Blocks.Declares.of_getLast? (hb : b.Declares) (hopen : b.frames ≠ [])
    (h : b'.frames.getLast? = b.frames.getLast?) : b'.Declares := by
  obtain ⟨last, hlast⟩ : ∃ last, b.frames.getLast? = some last := ⟨_, List.getLast?_eq_some_getLast hopen⟩
  unfold Blocks.Declares at hb ⊢
  rw [hlast] at h hb
  rw [h]
  exact hb

/-- an outlet that ends is a node, and it does not go on otherwise -/
theorem finish_outlet {slot tag : String} {arguments : Arguments} {nodes : List Node} {closing : Closing}
    (h : (Block.outlet slot).finish tag arguments nodes = .ok closing) :
    closing = .complete (.outlet slot nodes) none := by
  obtain ⟨-, -, h⟩ := bind_eq_ok.1 h
  cases h
  rfl

/-- **An outlet of the top level stays** whatever token comes next. -/
theorem Blocks.Grows.declares (h : b.Grows b') (hb : b.Declares) : b'.Declares := by
  obtain ⟨nodes, frames, props, fragments⟩ := b
  cases h with
  | pushed node props =>
    cases frames with
    | nil => exact DeclaresSlot.append hb [node]
    | cons frame outer => exact hb.of_getLast? (List.cons_ne_nil frame outer) rfl
  | opened block =>
    cases frames with
    | nil => exact declares_single.2 (Or.inr hb)
    | cons frame outer => exact hb.of_getLast? (List.cons_ne_nil frame outer) List.getLast?_cons_cons
  | @closed frame outer tag arguments _ hframes hclose =>
    obtain ⟨closing, hfinish, hclose⟩ := bind_eq_ok.1 hclose
    cases hframes
    cases outer with
    | cons next outer =>
      have hlast : (frame :: next :: outer).getLast? = (next :: outer).getLast? := List.getLast?_cons_cons
      refine hb.of_getLast? (List.cons_ne_nil frame (next :: outer)) ?_
      cases closing <;> cases hclose
      · exact List.getLast?_cons_cons.trans hlast.symm
      · exact hlast.symm
    | nil =>
      -- the block of the top level ends or goes on: as an outlet it is a node now
      rcases declares_single.1 hb with ⟨slot, hslot⟩ | hbefore
      · rw [hslot] at hfinish
        cases finish_outlet hfinish
        cases hclose
        exact ⟨slot, nodes, List.mem_append_right _ List.mem_cons_self⟩
      · cases closing with
        | resumed block kept =>
          cases hclose
          exact declares_single.2 (Or.inr hbefore)
        | complete node fragment =>
          cases hclose
          exact DeclaresSlot.append hbefore [node]

/-! ## Directly in a component -/

/-- components and slots have the tags that are built in, and nothing starts with the tag that ends a component -/
structure KeepsComponents (tags : Dict Tag) : Prop where
  component : tags.get? "component" = some .component
  slot : tags.get? "slot" = some .outlet
  ending : tags.get? "endcomponent" = none

theorem builtinTags_keepsComponents : KeepsComponents builtinTags where
  component := rfl
  slot := rfl
  ending := rfl

/-- a tag under another name -/
theorem KeepsComponents.insert {tags : Dict Tag} (h : KeepsComponents tags) {name : String} (tag : Tag)
    (hname : name ∉ ["component", "slot", "endcomponent"]) : KeepsComponents (tags.insert name tag) := by
  have hother : ∀ other ∈ ["component", "slot", "endcomponent"], (tags.insert name tag).get? other = tags.get? other :=
    fun other hother => by
      have hne : other ≠ name := fun heq => hname (heq ▸ hother)
      rw [Dict.get?_insert, if_neg hne]
  exact ⟨by rw [hother _ (by simp), h.component], by rw [hother _ (by simp), h.slot],
    by rw [hother _ (by simp), h.ending]⟩

/-- the innermost block is a component, when there is one -/
def Directly (around : List Frame) : Prop :=
  ∀ frame ∈ around.head?, frame.block.ends = ["slot", "endcomponent"]

/-- a token of the top level ends or continues no component around it, unless it declares a slot -/
theorem not_ends_of_step (htags : KeepsComponents c.tags) (haround : Directly around) {token : Token}
    (htop : b.frames = []) (h : (c.step b token).outcome cache = (.ok b', cache')) (hfree : ¬ b'.Declares) :
    ¬ token.Ends around := by
  rintro ⟨name, args, position, rfl, frame, hframe, hends⟩
  obtain ⟨reading, between, hread, h⟩ := outcome_bind_eq_ok.1 h
  have hread : c.read b (.tag name args position) = .ok reading := (outcome_ofExcept_eq_ok.1 hread).1
  obtain ⟨arguments, -, hread⟩ := bind_eq_ok.1 hread
  rcases readTag_cases hread with ⟨other, outer, b'', hframes, -⟩ | ⟨tag, hget, hread⟩
  · rw [htop] at hframes
    cases hframes
  · have hname : name = "slot" ∨ name = "endcomponent" := by simpa [haround frame hframe] using hends
    rcases hname with rfl | rfl
    · cases htags.slot.symm.trans hget
      obtain ⟨slot, -, hread⟩ := bind_eq_ok.1 hread
      cases hread
      obtain ⟨rfl, -⟩ := outcome_pure_eq_ok.1 h
      refine hfree ?_
      unfold Blocks.Declares Blocks.opened
      rw [htop]
      exact Or.inl ⟨slot, rfl⟩
    · cases htags.ending.symm.trans hget

theorem fold_declares {tokens : List Token} (h : (tokens.foldlM c.step b).outcome cache = (.ok b', cache'))
    (hb : b.Declares) : b'.Declares := by
  induction tokens generalizing b cache with
  | nil =>
    obtain ⟨rfl, -⟩ := outcome_pure_eq_ok.1 h
    exact hb
  | cons token tokens ih =>
    rw [List.foldlM_cons] at h
    obtain ⟨b₁, between, hstep, h⟩ := outcome_bind_eq_ok.1 h
    exact ih h ((step_grows hstep).declares hb)

/-- **Tokens that declare no slot at their top level compile alike directly in a component**, from one token to the
next. -/
theorem fold_inside (htags : KeepsComponents c.tags) (haround : Directly around) {tokens : List Token}
    (h : (tokens.foldlM c.step b).outcome cache = (.ok b', cache')) (hfree : ¬ b'.Declares) :
    (tokens.foldlM c.step (b.inside around)).outcome cache = (.ok (b'.inside around), cache') := by
  induction tokens generalizing b cache with
  | nil =>
    obtain ⟨rfl, rfl⟩ := outcome_pure_eq_ok.1 h
    rfl
  | cons token tokens ih =>
    rw [List.foldlM_cons] at h ⊢
    obtain ⟨b₁, between, hstep, h⟩ := outcome_bind_eq_ok.1 h
    have hfree₁ : ¬ b₁.Declares := fun hdeclares => hfree (fold_declares h hdeclares)
    have hinside : c.step (b.inside around) token = Blocks.inside around <$> c.step b token :=
      step_inside fun htop => not_ends_of_step htags haround htop hstep hfree₁
    rw [hinside, outcome_bind_ok (outcome_map_ok (Blocks.inside around) hstep)]
    exact ih h

end Template

end Templating
