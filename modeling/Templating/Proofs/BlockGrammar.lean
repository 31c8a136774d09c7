/-
The grammar of blocks.

`Terminal` is a token whose arguments have been read, and `Derives` says which lists of terminals are a phrase and what
the phrase means: nodes one after the other, one node, a conditional up to the start of an arm, or a component up to the
end of a gap between its slots. Directly in a component `slot` starts a named slot, and everywhere else an outlet, so
the nodes that may stand there are fewer. Nothing of this looks at open blocks.

`Takes` is what one terminal does to a template in the making, and `Runs` what several do.

- `Derives.runs`: terminals that derive nodes add these nodes, whatever is open around them.
- `Takes.built`, `Runs.built`: what is there of a template is derived from the terminals so far, block by block.
- `derives_iff_runs`: so terminals derive the nodes of a template exactly when they build it and leave no block open.
-/
import Templating.Proofs.ComponentWalk

namespace Templating.Template

/-! ## Phrases -/

/-- a token whose arguments are read -/
inductive Terminal where
  | text (s : String)
  | output (e : Expr) (position : Position)
  | assign (position : Position) (name : String) (e : Expr)
  | props (position : Position) (list : List (String × Option Expr))
  | conditional (position : Position) (condition : Expr)
  /-- a further arm of a conditional -/
  | arm (position : Position) (condition : Expr)
  | loop (position : Position) (head : LoopHead)
  /-- a slot: its name when it is an outlet, and its name when it is a named slot -/
  | slot (outlet name : Option String)
  | fragment (name : String)
  | component (use : ComponentUse) (template : Template)
  /-- a tag that only ends or continues a block, with so many words of arguments -/
  | ending (tag : String) (count : Nat)

namespace Terminal

/-- the props with a default -/
def defaultsOf (list : List (String × Option Expr)) : List (String × Expr) :=
  list.filterMap fun (key, default) => default.map fun e => (key, e)

/-- the node that the terminal is by itself -/
def node? : Terminal → Option Node
  | text s => some (.text s)
  | output e position => some (.output e position)
  | assign position name e => some (.assign position name e)
  | props position list => some (.defaults position (defaultsOf list))
  | _ => none

/-- the props that the terminal declares, when it declares any -/
def declared? : Terminal → Option (List String)
  | props _ list => some (list.map (·.1))
  | _ => none

end Terminal

/-- what terminals can be together; `direct` tells what stands directly in a component, outside of its slots -/
inductive Phrase where
  /-- nodes one after the other -/
  | body (direct : Bool) (nodes : List Node)
  | part (direct : Bool) (node : Node)
  /-- a conditional up to the start of an arm -/
  | arms (position : Position) (done : List (Expr × List Node)) (condition : Expr)
  /-- a component up to the end of a gap between its slots: what stood in the gaps, and the slots -/
  | slots (use : ComponentUse) (template : Template) (content : List Node) (named : List (String × List Node))

open Terminal in
/-- the grammar: the terminals are the phrase -/
inductive Derives : List Terminal → Phrase → Prop
  | nil {direct} : Derives [] (.body direct [])
  | snoc {direct ts ts' nodes node} (hfront : Derives ts (.body direct nodes))
    (hlast : Derives ts' (.part direct node)) :
    Derives (ts ++ ts') (.body direct (nodes ++ [node]))
  | single {direct x node} (hnode : x.node? = some node) : Derives [x] (.part direct node)
  | first {position e} : Derives [.conditional position e] (.arms position [] e)
  | next {ts ts' position position' done e e' nodes} (hfront : Derives ts (.arms position done e))
    (hbody : Derives ts' (.body false nodes)) :
    Derives (ts ++ ts' ++ [.arm position' e']) (.arms position (done ++ [(e, nodes)]) e')
  | conditional {direct ts ts' position done e nodes} (hfront : Derives ts (.arms position done e))
    (hbody : Derives ts' (.body false nodes)) :
    Derives (ts ++ ts' ++ [ending "endif" 0]) (.part direct (.conditional position (done ++ [(e, nodes)]) []))
  | otherwise {direct ts ts' ts'' position done e nodes other} (hfront : Derives ts (.arms position done e))
    (hbody : Derives ts' (.body false nodes)) (hother : Derives ts'' (.body false other)) :
    Derives (ts ++ ts' ++ ending "else" 0 :: ts'' ++ [ending "endif" 0])
      (.part direct (.conditional position (done ++ [(e, nodes)]) other))
  | loop {direct ts position head nodes} (hbody : Derives ts (.body false nodes)) :
    Derives (Terminal.loop position head :: ts ++ [ending "endfor" 0]) (.part direct (.loop position head nodes []))
  | loopEmpty {direct ts ts' position head nodes other} (hbody : Derives ts (.body false nodes))
    (hother : Derives ts' (.body false other)) :
    Derives (Terminal.loop position head :: ts ++ ending "empty" 0 :: ts' ++ [ending "endfor" 0])
      (.part direct (.loop position head nodes other))
  | outlet {ts slot name nodes} (hbody : Derives ts (.body false nodes)) :
    Derives (Terminal.slot (some slot) name :: ts ++ [ending "endslot" 0]) (.part false (.outlet slot nodes))
  | fragment {direct ts name nodes} (hbody : Derives ts (.body false nodes)) :
    Derives (Terminal.fragment name :: ts ++ [ending "endfragment" 0]) (.part direct (.fragment nodes))
  | opening {use template} : Derives [Terminal.component use template] (.slots use template [] [])
  | content {ts ts' use template content named node} (hfront : Derives ts (.slots use template content named))
    (hlast : Derives ts' (.part true node)) : Derives (ts ++ ts') (.slots use template (content ++ [node]) named)
  | slot {ts ts' use template content named outlet name nodes} (hfront : Derives ts (.slots use template content named))
    (hbody : Derives ts' (.body false nodes)) :
    Derives (ts ++ Terminal.slot outlet (some name) :: ts' ++ [ending "endslot" 0])
      (.slots use template content (named ++ [(name, nodes)]))
  | component {direct ts use template content named} (hfront : Derives ts (.slots use template content named)) :
    Derives (ts ++ [ending "endcomponent" 0])
      (.part direct (.component use template.name template.nodes (named ++ [(defaultSlot, content)])))

/-! ## Terminals one after the other -/

/-- the innermost open block is a component -/
def direct : List Frame → Bool
  | ⟨.component _ _ _ _, _⟩ :: _ => true
  | _ => false

/-- one more node, and what it declares -/
def Blocks.single (b : Blocks) (x : Terminal) (node : Node) : Blocks :=
  { b.push node with props := x.declared?.getD b.props }

/-- what one terminal does: it is a node, it opens a block, or it continues or ends the innermost one -/
inductive Takes : Blocks → Terminal → Blocks → Prop
  | single {b x node} (hnode : x.node? = some node) : Takes b x (b.single x node)
  | conditional {b position e} : Takes b (.conditional position e) (b.opened (.arm position [] e))
  | loop {b position head} : Takes b (.loop position head) (b.opened (.loop position head))
  | outlet {b slot name} (hdirect : direct b.frames = false) :
    Takes b (.slot (some slot) name) (b.opened (.outlet slot))
  | fragment {b name} : Takes b (.fragment name) (b.opened (.fragment name))
  | component {b use template} :
    Takes b (.component use template) (b.opened (.component use template.name template.nodes []))
  | arm {nodes position position' done e e' outer frames props fragments} :
    Takes ⟨nodes, ⟨.arm position done e, outer⟩ :: frames, props, fragments⟩ (.arm position' e')
      ⟨[], ⟨.arm position (done ++ [(e, nodes)]) e', outer⟩ :: frames, props, fragments⟩
  | orElse {nodes position done e outer frames props fragments} :
    Takes ⟨nodes, ⟨.arm position done e, outer⟩ :: frames, props, fragments⟩ (.ending "else" 0)
      ⟨[], ⟨.otherwise position (done ++ [(e, nodes)]), outer⟩ :: frames, props, fragments⟩
  | endArm {nodes position done e outer frames props fragments} :
    Takes ⟨nodes, ⟨.arm position done e, outer⟩ :: frames, props, fragments⟩ (.ending "endif" 0)
      ⟨outer ++ [.conditional position (done ++ [(e, nodes)]) []], frames, props, fragments⟩
  | endOtherwise {nodes position arms outer frames props fragments} :
    Takes ⟨nodes, ⟨.otherwise position arms, outer⟩ :: frames, props, fragments⟩ (.ending "endif" 0)
      ⟨outer ++ [.conditional position arms nodes], frames, props, fragments⟩
  | empty {nodes position head outer frames props fragments} :
    Takes ⟨nodes, ⟨.loop position head, outer⟩ :: frames, props, fragments⟩ (.ending "empty" 0)
      ⟨[], ⟨.loopEmpty position head nodes, outer⟩ :: frames, props, fragments⟩
  | endLoop {nodes position head outer frames props fragments} :
    Takes ⟨nodes, ⟨.loop position head, outer⟩ :: frames, props, fragments⟩ (.ending "endfor" 0)
      ⟨outer ++ [.loop position head nodes []], frames, props, fragments⟩
  | endEmpty {nodes position head body outer frames props fragments} :
    Takes ⟨nodes, ⟨.loopEmpty position head body, outer⟩ :: frames, props, fragments⟩ (.ending "endfor" 0)
      ⟨outer ++ [.loop position head body nodes], frames, props, fragments⟩
  | endOutlet {nodes slot outer frames props fragments} :
    Takes ⟨nodes, ⟨.outlet slot, outer⟩ :: frames, props, fragments⟩ (.ending "endslot" 0)
      ⟨outer ++ [.outlet slot nodes], frames, props, fragments⟩
  | endFragment {nodes name outer frames props fragments} :
    Takes ⟨nodes, ⟨.fragment name, outer⟩ :: frames, props, fragments⟩ (.ending "endfragment" 0)
      ⟨outer ++ [.fragment nodes], frames, props, fragments.insert name nodes⟩
  | slot {nodes use template body slots outlet name outer frames props fragments} :
    Takes ⟨nodes, ⟨.component use template body slots, outer⟩ :: frames, props, fragments⟩ (.slot outlet (some name))
      ⟨[], ⟨.namedSlot use template body slots name nodes, outer⟩ :: frames, props, fragments⟩
  | endSlot {nodes use template body slots name content outer frames props fragments} :
    Takes ⟨nodes, ⟨.namedSlot use template body slots name content, outer⟩ :: frames, props, fragments⟩
      (.ending "endslot" 0)
      ⟨content, ⟨.component use template body (slots ++ [(name, nodes)]), outer⟩ :: frames, props, fragments⟩
  | endComponent {nodes use template body slots outer frames props fragments} :
    Takes ⟨nodes, ⟨.component use template body slots, outer⟩ :: frames, props, fragments⟩ (.ending "endcomponent" 0)
      ⟨outer ++ [.component use template body (slots ++ [(defaultSlot, nodes)])], frames, props, fragments⟩

/-- what several terminals do one after the other -/
inductive Runs : Blocks → List Terminal → Blocks → Prop
  | nil {b} : Runs b [] b
  | cons {b b₁ b' x ts} (hfirst : Takes b x b₁) (hrest : Runs b₁ ts b') : Runs b (x :: ts) b'

theorem Runs.append {b b₁ b' : Blocks} {ts ts' : List Terminal} (h : Runs b ts b₁) (h' : Runs b₁ ts' b') :
    Runs b (ts ++ ts') b' := by
  induction h with
  | nil => exact h'
  | cons hfirst _ ih => exact .cons hfirst (ih h')

theorem Takes.runs {b b' : Blocks} {x : Terminal} (h : Takes b x b') : Runs b [x] b' :=
  .cons h .nil

theorem Takes.builtIn {b b' : Blocks} {x : Terminal} (h : Takes b x b') (hb : b.BuiltIn) : b'.BuiltIn := by
  cases h with
  | single => exact hb
  | conditional | loop | outlet | fragment | component => exact hb.opened (by simp)
  | endArm | endOtherwise | endLoop | endEmpty | endOutlet | endFragment | endComponent =>
    exact fun frame hframe => hb frame (List.mem_cons_of_mem _ hframe)
  | arm | orElse | empty | slot | endSlot =>
    intro frame hframe
    rcases List.mem_cons.1 hframe with rfl | hframe
    · simp
    · exact hb frame (List.mem_cons_of_mem _ hframe)

/-! ## What is derived is built -/

/-- whatever is open and whatever stands before, the terminals do what the phrase says -/
def Phrase.Runs (ts : List Terminal) : Phrase → Prop
  | .body here nodes => ∀ before frames props fragments, direct frames = here → ∃ props' fragments',
    Template.Runs ⟨before, frames, props, fragments⟩ ts ⟨before ++ nodes, frames, props', fragments'⟩
  | .part here node => ∀ before frames props fragments, direct frames = here → ∃ props' fragments',
    Template.Runs ⟨before, frames, props, fragments⟩ ts ⟨before ++ [node], frames, props', fragments'⟩
  | .arms position done e => ∀ before frames props fragments, ∃ props' fragments',
    Template.Runs ⟨before, frames, props, fragments⟩ ts
      ⟨[], ⟨.arm position done e, before⟩ :: frames, props', fragments'⟩
  | .slots use template content named => ∀ before frames props fragments, ∃ props' fragments',
    Template.Runs ⟨before, frames, props, fragments⟩ ts
      ⟨content, ⟨.component use template.name template.nodes named, before⟩ :: frames, props', fragments'⟩

/-- **What is derived is built**: terminals that are a phrase do what the phrase says. -/
theorem Derives.runs {ts : List Terminal} {phrase : Phrase} (h : Derives ts phrase) : phrase.Runs ts := by
  induction h with
  | nil =>
    intro before frames props fragments _
    exact ⟨props, fragments, by rw [List.append_nil]; exact .nil⟩
  | snoc _ _ ihfront ihlast =>
    intro before frames props fragments hdirect
    obtain ⟨props₁, fragments₁, hfront⟩ := ihfront before frames props fragments hdirect
    obtain ⟨props₂, fragments₂, hlast⟩ := ihlast _ frames props₁ fragments₁ hdirect
    exact ⟨props₂, fragments₂, by rw [← List.append_assoc]; exact hfront.append hlast⟩
  | single hnode => exact fun _ _ _ _ _ => ⟨_, _, (Takes.single hnode).runs⟩
  | first => exact fun _ _ _ _ => ⟨_, _, Takes.conditional.runs⟩
  | @next _ _ position _ done e _ _ _ _ ihfront ihbody =>
    intro before frames props fragments
    obtain ⟨props₁, fragments₁, hfront⟩ := ihfront before frames props fragments
    obtain ⟨props₂, fragments₂, hbody⟩ := ihbody [] (⟨.arm position done e, before⟩ :: frames) props₁ fragments₁ rfl
    exact ⟨_, _, (hfront.append hbody).append Takes.arm.runs⟩
  | @conditional _ _ _ position done e _ _ _ ihfront ihbody =>
    intro before frames props fragments _
    obtain ⟨props₁, fragments₁, hfront⟩ := ihfront before frames props fragments
    obtain ⟨props₂, fragments₂, hbody⟩ := ihbody [] (⟨.arm position done e, before⟩ :: frames) props₁ fragments₁ rfl
    exact ⟨_, _, (hfront.append hbody).append Takes.endArm.runs⟩
  | @otherwise _ _ _ _ position done e nodes _ _ _ _ ihfront ihbody ihother =>
    intro before frames props fragments _
    obtain ⟨props₁, fragments₁, hfront⟩ := ihfront before frames props fragments
    obtain ⟨props₂, fragments₂, hbody⟩ := ihbody [] (⟨.arm position done e, before⟩ :: frames) props₁ fragments₁ rfl
    obtain ⟨props₃, fragments₃, hother⟩ :=
      ihother [] (⟨.otherwise position (done ++ [(e, nodes)]), before⟩ :: frames) props₂ fragments₂ rfl
    exact ⟨_, _, ((hfront.append hbody).append (.cons .orElse hother)).append Takes.endOtherwise.runs⟩
  | @loop _ _ position head _ _ ihbody =>
    intro before frames props fragments _
    obtain ⟨props₁, fragments₁, hbody⟩ := ihbody [] (⟨.loop position head, before⟩ :: frames) props fragments rfl
    have hopen := @Takes.loop ⟨before, frames, props, fragments⟩ position head
    exact ⟨_, _, (hopen.runs.append hbody).append Takes.endLoop.runs⟩
  | @loopEmpty _ _ _ position head nodes _ _ _ ihbody ihother =>
    intro before frames props fragments _
    obtain ⟨props₁, fragments₁, hbody⟩ := ihbody [] (⟨.loop position head, before⟩ :: frames) props fragments rfl
    obtain ⟨props₂, fragments₂, hother⟩ :=
      ihother [] (⟨.loopEmpty position head nodes, before⟩ :: frames) props₁ fragments₁ rfl
    have hopen := @Takes.loop ⟨before, frames, props, fragments⟩ position head
    exact ⟨_, _, ((hopen.runs.append hbody).append (.cons .empty hother)).append Takes.endEmpty.runs⟩
  | @outlet _ slot outerName _ _ ihbody =>
    intro before frames props fragments hdirect
    obtain ⟨props₁, fragments₁, hbody⟩ := ihbody [] (⟨.outlet slot, before⟩ :: frames) props fragments rfl
    have hopen := @Takes.outlet ⟨before, frames, props, fragments⟩ slot outerName hdirect
    exact ⟨_, _, (hopen.runs.append hbody).append Takes.endOutlet.runs⟩
  | @fragment _ _ name _ _ ihbody =>
    intro before frames props fragments _
    obtain ⟨props₁, fragments₁, hbody⟩ := ihbody [] (⟨.fragment name, before⟩ :: frames) props fragments rfl
    have hopen := @Takes.fragment ⟨before, frames, props, fragments⟩ name
    exact ⟨_, _, (hopen.runs.append hbody).append Takes.endFragment.runs⟩
  | opening => exact fun _ _ _ _ => ⟨_, _, Takes.component.runs⟩
  | @content _ _ use template content named _ _ _ ihfront ihlast =>
    intro before frames props fragments
    obtain ⟨props₁, fragments₁, hfront⟩ := ihfront before frames props fragments
    obtain ⟨props₂, fragments₂, hlast⟩ :=
      ihlast content (⟨.component use template.name template.nodes named, before⟩ :: frames) props₁ fragments₁ rfl
    exact ⟨_, _, hfront.append hlast⟩
  | @slot _ _ use template content named _ name _ _ _ ihfront ihbody =>
    intro before frames props fragments
    obtain ⟨props₁, fragments₁, hfront⟩ := ihfront before frames props fragments
    obtain ⟨props₂, fragments₂, hbody⟩ := ihbody []
      (⟨.namedSlot use template.name template.nodes named name content, before⟩ :: frames) props₁ fragments₁ rfl
    exact ⟨_, _, (hfront.append (.cons .slot hbody)).append Takes.endSlot.runs⟩
  | component _ ihfront =>
    intro before frames props fragments _
    obtain ⟨props₁, fragments₁, hfront⟩ := ihfront before frames props fragments
    exact ⟨_, _, hfront.append Takes.endComponent.runs⟩

/-! ## What is built is derived -/

open Terminal in
/-- the terminals from the start of a block on, which is open and has these nodes so far -/
inductive Opened (direct : Bool) : Block → List Node → List Terminal → Prop
  | arm {ts ts' position done e nodes} (hfront : Derives ts (.arms position done e))
    (hbody : Derives ts' (.body false nodes)) : Opened direct (.arm position done e) nodes (ts ++ ts')
  | otherwise {ts ts' ts'' position done e nodes other} (hfront : Derives ts (.arms position done e))
    (hbody : Derives ts' (.body false nodes)) (hother : Derives ts'' (.body false other)) :
    Opened direct (.otherwise position (done ++ [(e, nodes)])) other (ts ++ ts' ++ ending "else" 0 :: ts'')
  | loop {ts position head nodes} (hbody : Derives ts (.body false nodes)) :
    Opened direct (.loop position head) nodes (Terminal.loop position head :: ts)
  | loopEmpty {ts ts' position head nodes other} (hbody : Derives ts (.body false nodes))
    (hother : Derives ts' (.body false other)) :
    Opened direct (.loopEmpty position head nodes) other (Terminal.loop position head :: ts ++ ending "empty" 0 :: ts')
  | outlet {ts slot name nodes} (hdirect : direct = false) (hbody : Derives ts (.body false nodes)) :
    Opened direct (.outlet slot) nodes (Terminal.slot (some slot) name :: ts)
  | fragment {ts name nodes} (hbody : Derives ts (.body false nodes)) :
    Opened direct (.fragment name) nodes (Terminal.fragment name :: ts)
  | component {ts use template named content} (hfront : Derives ts (.slots use template content named)) :
    Opened direct (.component use template.name template.nodes named) content ts
  | namedSlot {ts ts' use template content named outlet name nodes}
    (hfront : Derives ts (.slots use template content named)) (hbody : Derives ts' (.body false nodes)) :
    Opened direct (.namedSlot use template.name template.nodes named name content) nodes
      (ts ++ Terminal.slot outlet (some name) :: ts')

/-- the terminals of a template in the making: those before the outermost block, and those of the open blocks -/
inductive Stacked : List Frame → List Node → List Terminal → Prop
  | bottom {nodes ts} (hbody : Derives ts (.body false nodes)) : Stacked [] nodes ts
  | block {block before nodes outer ts ts'} (houter : Stacked outer before ts)
    (hblock : Opened (direct outer) block nodes ts') : Stacked (⟨block, before⟩ :: outer) nodes (ts ++ ts')

/-- what is there of a template is derived from the terminals -/
def Blocks.Built (b : Blocks) (ts : List Terminal) : Prop :=
  Stacked b.frames b.nodes ts

theorem start_built : Blocks.start.Built [] :=
  .bottom .nil

/-- one more node in the innermost body -/
theorem Stacked.push {frames : List Frame} {nodes : List Node} {ts ts' : List Terminal} {node : Node}
    (h : Stacked frames nodes ts) (hnode : Derives ts' (.part (direct frames) node)) :
    Stacked frames (nodes ++ [node]) (ts ++ ts') := by
  cases h with
  | bottom hbody => exact .bottom (.snoc hbody hnode)
  | block houter hblock =>
    rw [List.append_assoc]
    refine .block houter ?_
    cases hblock with
    | arm hfront hbody =>
      rw [List.append_assoc]
      exact .arm hfront (.snoc hbody hnode)
    | otherwise hfront hbody hother =>
      rw [List.append_assoc _ (_ :: _), List.cons_append]
      exact .otherwise hfront hbody (.snoc hother hnode)
    | loop hbody => exact .loop (.snoc hbody hnode)
    | loopEmpty hbody hother =>
      rw [List.append_assoc _ (_ :: _), List.cons_append]
      exact .loopEmpty hbody (.snoc hother hnode)
    | outlet hdirect hbody => exact .outlet hdirect (.snoc hbody hnode)
    | fragment hbody => exact .fragment (.snoc hbody hnode)
    | component hfront => exact .component (.content hfront hnode)
    | namedSlot hfront hbody =>
      rw [List.append_assoc, List.cons_append]
      exact .namedSlot hfront (.snoc hbody hnode)

/-- the block that is open ends as a node with these terminals -/
theorem Stacked.close {block : Block} {before nodes : List Node} {outer : List Frame} {ts : List Terminal}
    {last : Terminal} {node : Node} (h : Stacked (⟨block, before⟩ :: outer) nodes ts)
    (hclose : ∀ ts', Opened (direct outer) block nodes ts' → Derives (ts' ++ [last]) (.part (direct outer) node)) :
    Stacked outer (before ++ [node]) (ts ++ [last]) := by
  cases h with
  | block houter hblock =>
    rw [List.append_assoc]
    exact houter.push (hclose _ hblock)

/-- the block that is open goes on as another one -/
theorem Stacked.resume {block next : Block} {before nodes nodes' : List Node} {outer : List Frame}
    {ts : List Terminal} {x : Terminal} (h : Stacked (⟨block, before⟩ :: outer) nodes ts)
    (hnext : ∀ ts', Opened (direct outer) block nodes ts' → Opened (direct outer) next nodes' (ts' ++ [x])) :
    Stacked (⟨next, before⟩ :: outer) nodes' (ts ++ [x]) := by
  cases h with
  | block houter hblock =>
    rw [List.append_assoc]
    exact .block houter (hnext _ hblock)

/-- **One more terminal** keeps what is there derived. -/
theorem Takes.built {b b' : Blocks} {x : Terminal} (h : Takes b x b') {ts : List Terminal} (hb : b.Built ts) :
    b'.Built (ts ++ [x]) := by
  cases h with
  | single hnode => exact hb.push (.single hnode)
  | conditional => exact .block hb (.arm .first .nil)
  | loop => exact .block hb (.loop .nil)
  | outlet hdirect => exact .block hb (.outlet hdirect .nil)
  | fragment => exact .block hb (.fragment .nil)
  | component => exact .block hb (.component .opening)
  | arm =>
    refine Stacked.resume hb fun ts' hblock => ?_
    cases hblock with
    | arm hfront hbody => simpa using Opened.arm (.next hfront hbody) .nil
  | orElse =>
    refine Stacked.resume hb fun ts' hblock => ?_
    cases hblock with
    | arm hfront hbody => exact .otherwise hfront hbody .nil
  | endArm =>
    refine Stacked.close hb fun ts' hblock => ?_
    cases hblock with
    | arm hfront hbody => exact .conditional hfront hbody
  | endOtherwise =>
    refine Stacked.close hb fun ts' hblock => ?_
    cases hblock with
    | otherwise hfront hbody hother => exact .otherwise hfront hbody hother
  | empty =>
    refine Stacked.resume hb fun ts' hblock => ?_
    cases hblock with
    | loop hbody => exact .loopEmpty hbody .nil
  | endLoop =>
    refine Stacked.close hb fun ts' hblock => ?_
    cases hblock with
    | loop hbody => exact .loop hbody
  | endEmpty =>
    refine Stacked.close hb fun ts' hblock => ?_
    cases hblock with
    | loopEmpty hbody hother => exact .loopEmpty hbody hother
  | endOutlet =>
    refine Stacked.close hb fun ts' hblock => ?_
    cases hblock with
    | outlet hdirect hbody => exact hdirect ▸ .outlet hbody
  | endFragment =>
    refine Stacked.close hb fun ts' hblock => ?_
    cases hblock with
    | fragment hbody => exact .fragment hbody
  | slot =>
    refine Stacked.resume hb fun ts' hblock => ?_
    generalize hbody : Block.component _ _ _ _ = block at hblock
    cases hblock with
    | component hfront =>
      cases hbody
      exact .namedSlot hfront .nil
    | _ => cases hbody
  | endSlot =>
    refine Stacked.resume hb fun ts' hblock => ?_
    generalize hbody : Block.namedSlot _ _ _ _ _ _ = block at hblock
    cases hblock with
    | namedSlot hfront hinner =>
      cases hbody
      exact .component (.slot hfront hinner)
    | _ => cases hbody
  | endComponent =>
    refine Stacked.close hb fun ts' hblock => ?_
    generalize hbody : Block.component _ _ _ _ = block at hblock
    cases hblock with
    | component hfront =>
      cases hbody
      exact .component hfront
    | _ => cases hbody

/-- what several terminals build is derived from them and those before -/
theorem Runs.built {b b' : Blocks} {ts ts' : List Terminal} (h : Runs b ts' b') (hb : b.Built ts) :
    b'.Built (ts ++ ts') := by
  induction h generalizing ts with
  | nil => simpa using hb
  | cons hfirst _ ih => simpa using ih (hfirst.built hb)

/-- **Terminals derive the nodes of a template** exactly when they build it and leave no block open. -/
theorem derives_iff_runs {ts : List Terminal} {nodes : List Node} :
    Derives ts (.body false nodes) ↔ ∃ b, Runs .start ts b ∧ b.frames = [] ∧ b.nodes = nodes := by
  constructor
  · intro h
    obtain ⟨props, fragments, hruns⟩ := h.runs [] [] [] .empty rfl
    exact ⟨_, hruns, rfl, rfl⟩
  · rintro ⟨⟨nodes, frames, props, fragments⟩, hruns, rfl, rfl⟩
    cases hruns.built start_built with
    | bottom hbody => exact hbody

end Templating.Template
