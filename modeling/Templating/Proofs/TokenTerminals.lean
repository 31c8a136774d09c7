/-
Tokens as terminals of the grammar of blocks.

`Context.word` reads the arguments of a token as its tag asks for them. It knows nothing of the blocks that are open, so
a `slot` tag is read both ways, and a tag that can only end or continue a block is kept with the number of its words. A
component tag waits for the template of its component.

- `read_ready_iff`: a token that is read at once does what its terminal does, and is refused when that does nothing.
- `read_component_iff`: a component tag is read the same wherever it stands.
- `stepFresh_iff`: so one step of a compilation is what the terminal does, whose template is there.
- `fresh_runs`, `fresh_derives`: a source that compiles is terminals that build its template, and derive its nodes.
-/
import Templating.Proofs.BlockGrammar

namespace Templating

namespace Template

/-! ## Words -/

/-- a token whose arguments are read: a terminal, or a component tag that waits for a template -/
inductive Word where
  | ready (x : Terminal)
  | component (tag : ComponentTag)

/-- the tags that end or continue a block, take no arguments and start nothing elsewhere -/
def bareEnds : List String :=
  ["else", "endif", "empty", "endfor", "endslot", "endfragment", "endcomponent"]

/-- a tag that starts something, with its arguments -/
def Context.startWord (c : Context) (tag : Tag) (position : Position) (arguments : Arguments) :
    Except TemplateError Word :=
  match tag with
  | .conditional => do
    let condition ← arguments.readAll (expressionOnly "if")
    return .ready (.conditional position condition)
  | .loop => do
    let head ← arguments.readAll loopHead
    return .ready (.loop position head)
  | .assign => do
    let (name, e) ← arguments.readAll assignment
    return .ready (.assign position name e)
  | .props => do
    let list ← arguments.readAll (propList arguments.count)
    return .ready (.props position list)
  | .outlet =>
    return .ready (.slot (arguments.readAll outletName).toOption (arguments.readAll Expr.acceptString).toOption.join)
  | .fragment => do
    match ← arguments.readAll Expr.acceptString with
    | none => .error (.malformed arguments.site .fragmentNameMissing)
    | some name => return .ready (.fragment name)
  | .component => (c.componentTag position arguments).map .component
  | .custom _ => .error (.malformed arguments.site .argumentsNotAllowed)

/-- a tag with its arguments -/
def Context.tagWord (c : Context) (name : String) (position : Position) (arguments : Arguments) :
    Except TemplateError Word :=
  match c.tags.get? name with
  | some tag => c.startWord tag position arguments
  | none =>
    if name = "elif" then do
      let condition ← arguments.readAll (expressionOnly "elif")
      return .ready (.arm position condition)
    else if name ∈ bareEnds then .ok (.ready (.ending name arguments.count))
    else .error (.malformed arguments.site (.unknownTag name))

/-- a token with its arguments, whatever is open where it stands -/
def Context.word (c : Context) : Token → Except TemplateError Word
  | .text s => .ok (.ready (.text s))
  | .output expr position => do
    let arguments ← Arguments.ofText ⟨c.template, position⟩ expr
    let e ← arguments.readAll outputExpression
    return .ready (.output e position)
  | .tag name args position => do
    let arguments ← Arguments.ofText ⟨c.template, position⟩ args
    c.tagWord name position arguments

variable {c : Context} {b b' : Blocks} {name : String} {position : Position} {arguments : Arguments}

/-! ## Tags that end or continue a block -/

theorem get?_builtinTags_of_mem (h : name ∈ "elif" :: bareEnds) : builtinTags.get? name = none := by
  simp only [bareEnds, List.mem_cons, List.not_mem_nil, or_false] at h
  simp only [builtinTags, Dict.ofList, List.foldl_cons, List.foldl_nil, Dict.get?_insert, Dict.get?_empty]
  rcases h with rfl | rfl | rfl | rfl | rfl | rfl | rfl | rfl <;> decide

theorem tagWord_bareEnd (htags : c.tags = builtinTags) (h : name ∈ bareEnds) :
    c.tagWord name position arguments = .ok (.ready (.ending name arguments.count)) := by
  have helif : name ≠ "elif" := by
    rintro rfl
    simp [bareEnds] at h
  rw [Context.tagWord, htags, get?_builtinTags_of_mem (List.mem_cons_of_mem _ h)]
  simp [helif, h]

theorem tagWord_elif (htags : c.tags = builtinTags) :
    c.tagWord "elif" position arguments =
      (arguments.readAll (expressionOnly "elif")).map fun condition => .ready (.arm position condition) := by
  rw [Context.tagWord, htags, get?_builtinTags_of_mem List.mem_cons_self]
  rfl

theorem tagWord_slot (htags : c.tags = builtinTags) :
    c.tagWord "slot" position arguments =
      .ok (.ready (.slot (arguments.readAll outletName).toOption
        (arguments.readAll Expr.acceptString).toOption.join)) := by
  rw [Context.tagWord, htags]
  rfl

theorem noArguments_eq_ok {u : Unit} : noArguments arguments = .ok u ↔ arguments.count = 0 := by
  unfold noArguments
  split_ifs with h <;> simp [h]

/-- a terminal that ends or continues a block does so to a block that ends or goes on at it -/
theorem Takes.ends {n : Nat} (h : Takes b (.ending name n) b') :
    ∃ frame outer, b.frames = frame :: outer ∧ name ∈ frame.block.ends := by
  generalize hx : Terminal.ending name n = x at h
  cases h with
  | single hnode =>
    subst hx
    cases hnode
  | conditional | loop | outlet | fragment | component | arm | slot => cases hx
  | orElse | endArm | endOtherwise | empty | endLoop | endEmpty | endOutlet | endFragment | endSlot | endComponent =>
    cases hx
    exact ⟨_, _, rfl, by simp [Block.ends]⟩

theorem Takes.arm_ends {e : Expr} (h : Takes b (.arm position e) b') :
    ∃ frame outer, b.frames = frame :: outer ∧ "elif" ∈ frame.block.ends := by
  generalize hx : Terminal.arm position e = x at h
  cases h with
  | single hnode =>
    subst hx
    cases hnode
  | arm => exact ⟨_, _, rfl, by simp [Block.ends]⟩
  | _ => cases hx

theorem Takes.count {n : Nat} (h : Takes b (.ending name n) b') : n = 0 := by
  generalize hx : Terminal.ending name n = x at h
  cases h with
  | single hnode =>
    subst hx
    cases hnode
  | _ => cases hx <;> rfl

/-- a terminal does one thing at most -/
theorem Takes.unique {x : Terminal} {b₁ b₂ : Blocks} (h₁ : Takes b x b₁) (h₂ : Takes b x b₂) : b₁ = b₂ := by
  cases h₁ with
  | single hnode =>
    cases h₂ with
    | single hnode' => rw [Option.some.inj (hnode.symm.trans hnode')]
    | _ => cases hnode
  | outlet hdirect =>
    cases h₂ with
    | single hnode => cases hnode
    | outlet => rfl
    | slot => cases hdirect
  | slot =>
    cases h₂ with
    | single hnode => cases hnode
    | outlet hdirect => cases hdirect
    | slot => rfl
  | orElse | endArm | endOtherwise | empty | endLoop | endEmpty | endOutlet | endFragment | endSlot | endComponent =>
    generalize hx : Terminal.ending _ 0 = x at h₂
    cases h₂ with
    | single hnode =>
      subst hx
      cases hnode
    | _ => first | rfl | simp at hx
  | conditional | loop | fragment | component | arm =>
    cases h₂ with
    | single hnode => cases hnode
    | _ => rfl

/-- what a terminal does that is there for sure -/
theorem Takes.word_iff {x : Terminal} {b₁ : Blocks} (h : Takes b x b₁) :
    b₁ = b' ↔ ∃ x', (.ok (.ready x) : Except TemplateError Word) = .ok (.ready x') ∧ Takes b x' b' := by
  constructor
  · rintro rfl
    exact ⟨x, rfl, h⟩
  · rintro ⟨x', hx, h'⟩
    cases hx
    exact h.unique h'

theorem Takes.reading_iff {x : Terminal} {b₁ : Blocks} (h : Takes b x b₁) :
    (.ok (.ready b₁) : Except TemplateError Reading) = .ok (.ready b') ↔
      ∃ x', (.ok (.ready x) : Except TemplateError Word) = .ok (.ready x') ∧ Takes b x' b' := by
  rw [← h.word_iff, Except.ok.injEq, Reading.ready.injEq]

/-- a slot directly in a component needs the name that a named slot has -/
theorem Takes.named {outlet name : Option String} (hdirect : direct b.frames = true)
    (h : Takes b (.slot outlet name) b') : ∃ slot, name = some slot := by
  cases h with
  | single hnode => cases hnode
  | outlet houtlet => rw [hdirect] at houtlet; cases houtlet
  | slot => exact ⟨_, rfl⟩

/-- a slot elsewhere needs the name that an outlet has -/
theorem Takes.outlet_name {outlet name : Option String} (hdirect : direct b.frames = false)
    (h : Takes b (.slot outlet name) b') : ∃ slot, outlet = some slot := by
  cases h with
  | single hnode => cases hnode
  | outlet => exact ⟨_, rfl⟩
  | slot => cases hdirect

variable {frame : Frame} {outer : List Frame}

/-- a tag without arguments at which the innermost block ends or goes on -/
theorem close_bareEnd (hframes : b.frames = frame :: outer) (hb : b.BuiltIn) (hname : name ∈ frame.block.ends)
    (hbare : name ∈ bareEnds) (arguments : Arguments) :
    ∃ b', Takes b (.ending name 0) b' ∧
      b.close frame outer name arguments = (noArguments arguments).map fun _ => b' := by
  obtain ⟨nodes, frames, props, fragments⟩ := b
  obtain ⟨block, before⟩ := frame
  dsimp only at hframes hname
  subst hframes
  cases block with
  | custom tag use closing => exact absurd rfl (hb _ List.mem_cons_self tag use closing)
  | arm position done e =>
    simp only [Block.ends, List.mem_cons, List.not_mem_nil, or_false] at hname
    rcases hname with rfl | rfl | rfl
    · simp [bareEnds] at hbare
    · refine ⟨_, .orElse, ?_⟩
      simp only [Blocks.close, Block.finish]
      cases noArguments arguments <;> rfl
    · refine ⟨_, .endArm, ?_⟩
      simp only [Blocks.close, Block.finish]
      cases noArguments arguments <;> rfl
  | otherwise position arms =>
    obtain rfl := List.mem_singleton.1 hname
    refine ⟨_, .endOtherwise, ?_⟩
    simp only [Blocks.close, Block.finish]
    cases noArguments arguments <;> rfl
  | loop position head =>
    simp only [Block.ends, List.mem_cons, List.not_mem_nil, or_false] at hname
    rcases hname with rfl | rfl
    · refine ⟨_, .empty, ?_⟩
      simp only [Blocks.close, Block.finish]
      cases noArguments arguments <;> rfl
    · refine ⟨_, .endLoop, ?_⟩
      simp only [Blocks.close, Block.finish]
      cases noArguments arguments <;> rfl
  | loopEmpty position head body =>
    obtain rfl := List.mem_singleton.1 hname
    refine ⟨_, .endEmpty, ?_⟩
    simp only [Blocks.close, Block.finish]
    cases noArguments arguments <;> rfl
  | outlet slot =>
    obtain rfl := List.mem_singleton.1 hname
    refine ⟨_, .endOutlet, ?_⟩
    simp only [Blocks.close, Block.finish]
    cases noArguments arguments <;> rfl
  | fragment name =>
    obtain rfl := List.mem_singleton.1 hname
    refine ⟨_, .endFragment, ?_⟩
    simp only [Blocks.close, Block.finish]
    cases noArguments arguments <;> rfl
  | component use template body slots =>
    simp only [Block.ends, List.mem_cons, List.not_mem_nil, or_false] at hname
    rcases hname with rfl | rfl
    · simp [bareEnds] at hbare
    · refine ⟨_, .endComponent, ?_⟩
      simp only [Blocks.close, Block.finish]
      cases noArguments arguments <;> rfl
  | namedSlot use template body slots name content =>
    obtain rfl := List.mem_singleton.1 hname
    refine ⟨_, .endSlot, ?_⟩
    simp only [Blocks.close, Block.finish]
    cases noArguments arguments <;> rfl

/-- a built-in block ends or goes on at tags without arguments, an arm at a further arm, a component at a slot -/
theorem mem_ends_cases {block : Block} (hblock : ∀ tag use closing, block ≠ .custom tag use closing)
    (hname : name ∈ block.ends) :
    name ∈ bareEnds ∨ (name = "elif" ∧ ∃ position done e, block = .arm position done e) ∨
      name = "slot" ∧ ∃ use template body slots, block = .component use template body slots := by
  cases block with
  | custom tag use closing => exact absurd rfl (hblock tag use closing)
  | _ => grind [Block.ends, bareEnds]

/-- the innermost block at a tag that it ends or goes on at does what the terminal of the tag does -/
theorem close_iff (htags : c.tags = builtinTags) (hframes : b.frames = frame :: outer) (hb : b.BuiltIn)
    (hname : name ∈ frame.block.ends) :
    b.close frame outer name arguments = .ok b' ↔
      ∃ x, c.tagWord name position arguments = .ok (.ready x) ∧ Takes b x b' := by
  have hblock := hb frame (by simp [hframes])
  rcases mem_ends_cases hblock hname with hbare | ⟨rfl, start, done, e, harm⟩ | ⟨rfl, use, template, body, slots, hown⟩
  · obtain ⟨b₁, htakes, hclose⟩ := close_bareEnd hframes hb hname hbare arguments
    rw [hclose, tagWord_bareEnd htags hbare, map_eq_ok]
    constructor
    · rintro ⟨u, hcount, rfl⟩
      exact ⟨_, rfl, by rwa [noArguments_eq_ok.1 hcount]⟩
    · rintro ⟨x, hx, h⟩
      cases hx
      have hcount := h.count
      rw [hcount] at h
      exact ⟨(), noArguments_eq_ok.2 hcount, htakes.unique h⟩
  · obtain ⟨nodes, frames, props, fragments⟩ := b
    obtain ⟨block, before⟩ := frame
    dsimp only at hframes harm
    subst hframes harm
    rw [tagWord_elif htags]
    simp only [Blocks.close, Block.finish, if_true]
    cases arguments.readAll (expressionOnly "elif") with
    | error e => simp [bind, Except.bind, Except.map]
    | ok next => exact (Except.ok.injEq ..).to_iff.trans (Takes.word_iff .arm)
  · obtain ⟨nodes, frames, props, fragments⟩ := b
    obtain ⟨block, before⟩ := frame
    dsimp only at hframes hown
    subst hframes hown
    rw [tagWord_slot htags]
    simp only [Blocks.close, Block.finish]
    cases arguments.readAll Expr.acceptString with
    | error e =>
      constructor
      · intro h
        cases h
      · rintro ⟨x, hx, h⟩
        cases hx
        obtain ⟨slot, hslot⟩ := h.named rfl
        cases hslot
    | ok found =>
      cases found with
      | none =>
        constructor
        · intro h
          cases h
        · rintro ⟨x, hx, h⟩
          cases hx
          obtain ⟨slot, hslot⟩ := h.named rfl
          cases hslot
      | some name => exact (Except.ok.injEq ..).to_iff.trans (Takes.word_iff .slot)

/-! ## Tags that start something -/

theorem openTag_iff {tag : Tag} (htag : ∀ host, tag ≠ .custom host) (hslot : tag = .outlet → direct b.frames = false) :
    c.openTag b tag position arguments = .ok (.ready b') ↔
      ∃ x, c.startWord tag position arguments = .ok (.ready x) ∧ Takes b x b' := by
  cases tag with
  | custom host => exact absurd rfl (htag host)
  | component =>
    simp only [Context.openTag, Context.startWord]
    cases c.componentTag position arguments <;> simp [Except.map]
  | conditional =>
    simp only [Context.openTag, Context.startWord]
    cases arguments.readAll (expressionOnly "if") with
    | error e => simp [bind, Except.bind]
    | ok condition => exact Takes.reading_iff .conditional
  | loop =>
    simp only [Context.openTag, Context.startWord]
    cases arguments.readAll loopHead with
    | error e => simp [bind, Except.bind]
    | ok head => exact Takes.reading_iff .loop
  | assign =>
    simp only [Context.openTag, Context.startWord]
    cases arguments.readAll assignment with
    | error e => simp [bind, Except.bind]
    | ok assigned => exact Takes.reading_iff (.single rfl)
  | props =>
    simp only [Context.openTag, Context.startWord]
    cases arguments.readAll (propList arguments.count) with
    | error e => simp [bind, Except.bind]
    | ok list => exact Takes.reading_iff (.single rfl)
  | fragment =>
    simp only [Context.openTag, Context.startWord]
    cases arguments.readAll Expr.acceptString with
    | error e => simp [bind, Except.bind]
    | ok found =>
      cases found with
      | none => simp [bind, Except.bind]
      | some name => exact Takes.reading_iff .fragment
  | outlet =>
    simp only [Context.openTag, Context.startWord]
    cases arguments.readAll outletName with
    | error e =>
      constructor
      · intro h
        cases h
      · rintro ⟨x, hx, h⟩
        cases hx
        obtain ⟨slot, hname⟩ := h.outlet_name (hslot rfl)
        cases hname
    | ok slot => exact Takes.reading_iff (.outlet (hslot rfl))

theorem get?_builtinTags {tag : Tag} (h : builtinTags.get? name = some tag) :
    (∀ host, tag ≠ .custom host) ∧ (tag = .outlet → name = "slot") := by
  simp only [builtinTags, Dict.ofList, List.foldl_cons, List.foldl_nil, Dict.get?_insert, Dict.get?_empty] at h
  split_ifs at h with hname <;> cases h <;> simp_all

/-- outside of slots a component goes on at the next one -/
theorem slot_mem_ends (h : direct b.frames = true) : ∃ frame outer, b.frames = frame :: outer ∧
    "slot" ∈ frame.block.ends := by
  obtain ⟨nodes, frames, props, fragments⟩ := b
  rcases frames with _ | ⟨⟨block, before⟩, outer⟩
  · cases h
  · refine ⟨_, _, rfl, ?_⟩
    cases block with
    | component => exact List.mem_cons_self
    | _ => cases h

/-- a built-in tag at which the innermost block neither ends nor goes on -/
theorem startTag_iff (htags : c.tags = builtinTags)
    (hends : ∀ frame outer, b.frames = frame :: outer → name ∉ frame.block.ends) :
    c.startTag b name position arguments = .ok (.ready b') ↔
      ∃ x, c.tagWord name position arguments = .ok (.ready x) ∧ Takes b x b' := by
  unfold Context.startTag Context.tagWord
  cases hget : c.tags.get? name with
  | some tag =>
    rw [htags] at hget
    obtain ⟨hhost, houtlet⟩ := get?_builtinTags hget
    refine openTag_iff hhost fun htag => ?_
    by_contra hdirect
    obtain ⟨frame, outer, hframes, hslot⟩ := slot_mem_ends (eq_true_of_ne_false hdirect)
    exact hends frame outer hframes (houtlet htag ▸ hslot)
  | none =>
    constructor
    · intro h
      cases h
    · rintro ⟨x, hx, h⟩
      dsimp only at hx
      split_ifs at hx with helif hbare
      · subst helif
        obtain ⟨condition, -, hx⟩ := bind_eq_ok.1 hx
        cases hx
        obtain ⟨frame, outer, hframes, hmem⟩ := h.arm_ends
        exact absurd hmem (hends frame outer hframes)
      · cases hx
        obtain ⟨frame, outer, hframes, hmem⟩ := h.ends
        exact absurd hmem (hends frame outer hframes)

/-! ## Tokens -/

theorem readTag_ready_iff (htags : c.tags = builtinTags) (hb : b.BuiltIn) :
    c.readTag b name position arguments = .ok (.ready b') ↔
      ∃ x, c.tagWord name position arguments = .ok (.ready x) ∧ Takes b x b' := by
  unfold Context.readTag
  cases hframes : b.frames with
  | nil => exact startTag_iff htags (by simp [hframes])
  | cons frame outer =>
    dsimp only
    split_ifs with hname
    · rw [← close_iff htags hframes hb hname]
      cases b.close frame outer name arguments <;> simp [Except.map]
    · refine startTag_iff htags fun frame' outer' hframes' => ?_
      rw [hframes] at hframes'
      cases hframes'
      exact hname

/-- **A token that is read at once** does what its terminal does, and no other token is. -/
theorem read_ready_iff (htags : c.tags = builtinTags) (hb : b.BuiltIn) {token : Token} :
    c.read b token = .ok (.ready b') ↔ ∃ x, c.word token = .ok (.ready x) ∧ Takes b x b' := by
  cases token with
  | text s => exact Takes.reading_iff (.single rfl)
  | output expr position =>
    simp only [Context.read, Context.word]
    cases Arguments.ofText ⟨c.template, position⟩ expr with
    | error e => simp [bind, Except.bind]
    | ok arguments =>
      simp only [bind, Except.bind]
      cases arguments.readAll outputExpression with
      | error e => simp
      | ok e => exact Takes.reading_iff (.single rfl)
  | tag name args position =>
    simp only [Context.read, Context.word]
    cases Arguments.ofText ⟨c.template, position⟩ args with
    | error e => simp [bind, Except.bind]
    | ok arguments => exact readTag_ready_iff htags hb

theorem get?_builtinTags_component (h : builtinTags.get? name = some .component) : name = "component" := by
  simp only [builtinTags, Dict.ofList, List.foldl_cons, List.foldl_nil, Dict.get?_insert, Dict.get?_empty] at h
  split_ifs at h with hname <;> simp_all

theorem tagWord_component_iff {tag : ComponentTag} :
    c.tagWord name position arguments = .ok (.component tag) ↔
      c.tags.get? name = some .component ∧ c.componentTag position arguments = .ok tag := by
  unfold Context.tagWord
  cases c.tags.get? name with
  | none =>
    dsimp only
    split_ifs
    · simp [bind_eq_ok, pure, Except.pure]
    · simp
    · simp
  | some opening =>
    cases opening with
    | component => simp [Context.startWord, map_eq_ok]
    | fragment =>
      simp only [Context.startWord, bind_eq_ok, reduceCtorEq, Option.some.injEq, false_and, iff_false, not_exists,
        not_and]
      rintro (_ | name) - h <;> cases h
    | _ => simp [Context.startWord, bind_eq_ok, pure, Except.pure]

/-- what a tag can be that is read at once -/
theorem tagWord_ready_cases {x : Terminal} (h : c.tagWord name position arguments = .ok (.ready x)) :
    (∃ e, x = .conditional position e) ∨ (∃ e, x = .arm position e) ∨ (∃ head, x = .loop position head) ∨
      (∃ key e, x = .assign position key e) ∨ (∃ list, x = .props position list) ∨
      (∃ outlet slot, x = .slot outlet slot) ∨ (∃ fragment, x = .fragment fragment) ∨
      ∃ tag count, x = .ending tag count := by
  unfold Context.tagWord at h
  cases hget : c.tags.get? name with
  | none =>
    rw [hget] at h
    dsimp only at h
    split_ifs at h
    · obtain ⟨condition, -, h⟩ := bind_eq_ok.1 h
      cases h
      simp
    · cases h
      simp
  | some tag =>
    rw [hget] at h
    cases tag with
    | custom host => cases h
    | component =>
      obtain ⟨tag, -, h⟩ := map_eq_ok.1 h
      cases h
    | outlet =>
      cases h
      simp
    | fragment =>
      obtain ⟨found, -, h⟩ := bind_eq_ok.1 h
      cases found <;> cases h
      simp
    | conditional | loop | assign | props =>
      obtain ⟨read, -, h⟩ := bind_eq_ok.1 h
      cases h
      simp

/-- what is read of the arguments of a fragment tag, and of a props tag -/
theorem tagWord_read {x : Terminal} (h : c.tagWord name position arguments = .ok (.ready x)) :
    (∀ fragment, x = .fragment fragment →
      c.tags.get? name = some .fragment ∧ arguments.readAll Expr.acceptString = .ok (some fragment)) ∧
    ∀ place list, x = .props place list →
      c.tags.get? name = some .props ∧ place = position ∧ arguments.readAll (propList arguments.count) = .ok list := by
  unfold Context.tagWord at h
  cases hget : c.tags.get? name with
  | none =>
    rw [hget] at h
    dsimp only at h
    split_ifs at h
    · obtain ⟨condition, -, h⟩ := bind_eq_ok.1 h
      cases h
      simp
    · cases h
      simp
  | some tag =>
    rw [hget] at h
    cases tag with
    | custom host => cases h
    | component =>
      obtain ⟨tag, -, h⟩ := map_eq_ok.1 h
      cases h
    | outlet =>
      cases h
      simp
    | fragment =>
      obtain ⟨found, hfound, h⟩ := bind_eq_ok.1 h
      cases found <;> cases h
      simp [hfound]
    | props =>
      obtain ⟨list, hlist, h⟩ := bind_eq_ok.1 h
      cases h
      simp [hlist]
    | conditional | loop | assign =>
      obtain ⟨read, -, h⟩ := bind_eq_ok.1 h
      cases h
      simp

/-- a component tag stands at its position and names a component -/
theorem word_component {token : Token} {tag : ComponentTag} (h : c.word token = .ok (.component tag)) :
    ∃ name args, token = .tag name args tag.position ∧ c.registry.get? tag.name = some tag.component := by
  cases token with
  | text s => cases h
  | output expr position => simp [Context.word, bind_eq_ok, pure, Except.pure] at h
  | tag name args position =>
    obtain ⟨arguments, -, h⟩ := bind_eq_ok.1 h
    obtain ⟨-, htag⟩ := tagWord_component_iff.1 h
    obtain ⟨-, rfl, hregistry⟩ := componentTag_eq_ok htag
    exact ⟨name, args, rfl, hregistry⟩

theorem readTag_component_iff (htags : c.tags = builtinTags) (hb : b.BuiltIn) {tag : ComponentTag} :
    c.readTag b name position arguments = .ok (.component tag) ↔
      c.tagWord name position arguments = .ok (.component tag) := by
  rw [tagWord_component_iff]
  constructor
  · intro h
    rcases readTag_cases h with ⟨frame, outer, b', -, -, -, hb'⟩ | ⟨opening, hget, hopen⟩
    · cases hb'
    · obtain ⟨rfl, htag⟩ := openTag_component hopen
      exact ⟨hget, htag⟩
  · rintro ⟨hget, htag⟩
    have hstart : c.startTag b name position arguments = .ok (.component tag) := by
      rw [Context.startTag, hget]
      exact map_eq_ok.2 ⟨tag, htag, rfl⟩
    rw [htags] at hget
    obtain rfl := get?_builtinTags_component hget
    unfold Context.readTag
    cases hframes : b.frames with
    | nil => exact hstart
    | cons frame outer => exact (if_neg (component_not_mem_ends (hb frame (by simp [hframes])))).trans hstart

/-- **A component tag** is read the same wherever it stands. -/
theorem read_component_iff (htags : c.tags = builtinTags) (hb : b.BuiltIn) {token : Token} {tag : ComponentTag} :
    c.read b token = .ok (.component tag) ↔ c.word token = .ok (.component tag) := by
  cases token with
  | text s => simp [Context.read, Context.word]
  | output expr position => simp [Context.read, Context.word, bind_eq_ok, pure, Except.pure]
  | tag name args position =>
    simp only [Context.read, Context.word, bind_eq_ok]
    exact exists_congr fun arguments => and_congr_right fun _ => readTag_component_iff htags hb

/-! ## Steps of a compilation -/

/-- the terminal of a component tag whose template is there -/
def ComponentTag.terminal (tag : ComponentTag) (t : Template) : Except TemplateError Terminal := do
  let (slotData, given) ← tag.arguments.readAll componentArguments
  return .component (useOf tag.component t tag.position slotData given) t

/-- the block that a component tag opens is that of its terminal -/
theorem block_iff {tag : ComponentTag} {t : Template} :
    (∃ block, tag.block t = .ok block ∧ b' = b.opened block) ↔ ∃ x, tag.terminal t = .ok x ∧ Takes b x b' := by
  unfold ComponentTag.block ComponentTag.terminal
  cases tag.arguments.readAll componentArguments with
  | error e => simp [bind, Except.bind]
  | ok given =>
    constructor
    · rintro ⟨block, hblock, rfl⟩
      cases hblock
      exact ⟨_, rfl, .component⟩
    · rintro ⟨x, hx, h⟩
      cases hx
      exact ⟨_, rfl, h.unique .component⟩

/-- the terminal that a token is, where `compile` gives the templates of components -/
def Context.Stands (c : Context) (compile : Component → Except TemplateError (Option Template)) (token : Token)
    (x : Terminal) : Prop :=
  c.word token = .ok (.ready x) ∨
    ∃ tag t, c.word token = .ok (.component tag) ∧ compile tag.component = .ok (some t) ∧ tag.terminal t = .ok x

variable {compile : Component → Except TemplateError (Option Template)}

/-- **One step of a compilation** is what the terminal of the token does. -/
theorem stepFresh_iff (htags : c.tags = builtinTags) (hb : b.BuiltIn) {token : Token} :
    c.stepFresh compile b token = .ok b' ↔ ∃ x, c.Stands compile token x ∧ Takes b x b' := by
  rw [Context.stepFresh_eq_ok, read_ready_iff htags hb]
  simp only [read_component_iff htags hb, Context.Stands]
  constructor
  · rintro (⟨x, hword, h⟩ | ⟨tag, t, block, hword, hcompile, hblock⟩)
    · exact ⟨x, .inl hword, h⟩
    · obtain ⟨x, hx, h⟩ := block_iff.1 ⟨block, hblock⟩
      exact ⟨x, .inr ⟨tag, t, hword, hcompile, hx⟩, h⟩
  · rintro ⟨x, hword | ⟨tag, t, hword, hcompile, hx⟩, h⟩
    · exact .inl ⟨x, hword, h⟩
    · obtain ⟨block, hblock⟩ := block_iff.2 ⟨x, hx, h⟩
      exact .inr ⟨tag, t, block, hword, hcompile, hblock⟩

/-- **Tokens that compile** are terminals one by one, which do the same. -/
theorem foldFresh_iff (htags : c.tags = builtinTags) {tokens : List Token} (hb : b.BuiltIn) :
    tokens.foldlM (c.stepFresh compile) b = .ok b' ↔
      ∃ terminals, List.Forall₂ (c.Stands compile) tokens terminals ∧ Runs b terminals b' := by
  induction tokens generalizing b with
  | nil =>
    constructor
    · intro h
      cases h
      exact ⟨[], .nil, .nil⟩
    · rintro ⟨terminals, hall, h⟩
      cases hall
      cases h
      rfl
  | cons token tokens ih =>
    rw [List.foldlM_cons, bind_eq_ok]
    constructor
    · rintro ⟨b₁, hstep, hrest⟩
      obtain ⟨x, hx, htakes⟩ := (stepFresh_iff htags hb).1 hstep
      obtain ⟨terminals, hall, hruns⟩ := (ih (htakes.builtIn hb)).1 hrest
      exact ⟨x :: terminals, .cons hx hall, .cons htakes hruns⟩
    · rintro ⟨terminals, hall, hruns⟩
      cases hall with
      | cons hx hall =>
        cases hruns with
        | cons htakes hruns =>
          exact ⟨_, (stepFresh_iff htags hb).2 ⟨_, hx, htakes⟩, (ih (htakes.builtIn hb)).2 ⟨_, hall, hruns⟩⟩

theorem finish_eq_ok : c.finish b position = .ok b' ↔ b.frames = [] ∧ b = b' := by
  unfold Context.finish
  cases b.frames <;> simp

end Template

namespace TemplateSet

variable {s : TemplateSet}

/-- **A source that compiles** is terminals that build its template and leave no block open. -/
theorem fresh_runs (htags : s.tags = Template.builtinTags) {levels : Nat} {name source : String} {t : Template}
    (ht : s.fresh levels name source = .ok t) :
    ∃ tokens terminals b, Template.tokens (s.preprocess source) = .ok tokens ∧
      List.Forall₂ ((s.reading name).Stands (s.below name levels)) tokens terminals ∧
      Template.Runs .start terminals b ∧ b.frames = [] ∧ t = s.assemble name (s.preprocess source) b := by
  rw [fresh_eq] at ht
  obtain ⟨tokens, b, b', htokens, hfold, hfinish, rfl⟩ := freshSource_eq_ok.1 ht
  obtain ⟨terminals, hall, hruns⟩ := (Template.foldFresh_iff (c := s.reading name) htags Template.start_builtIn).1 hfold
  obtain ⟨hframes, rfl⟩ := Template.finish_eq_ok.1 hfinish
  exact ⟨tokens, terminals, b, htokens, hall, hruns, hframes, rfl⟩

/-- so the terminals derive the nodes of the template -/
theorem fresh_derives (htags : s.tags = Template.builtinTags) {levels : Nat} {name source : String} {t : Template}
    (ht : s.fresh levels name source = .ok t) :
    ∃ tokens terminals, Template.tokens (s.preprocess source) = .ok tokens ∧
      List.Forall₂ ((s.reading name).Stands (s.below name levels)) tokens terminals ∧
      Template.Derives terminals (.body false t.nodes) ∧ t.name = name ∧ t.source = s.preprocess source := by
  obtain ⟨tokens, terminals, b, htokens, hall, hruns, hframes, rfl⟩ := fresh_runs htags ht
  exact ⟨tokens, terminals, htokens, hall, Template.derives_iff_runs.2 ⟨b, hruns, hframes, rfl⟩, rfl, rfl⟩

end TemplateSet

end Templating
