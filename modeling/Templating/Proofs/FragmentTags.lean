/-
Fragments and the tags that make them.

A fragment tag makes a node and an entry in the fragments of its template, both with the nodes up to its end tag. Every
tag has its node, but a later tag of the same name writes over the entry. So the entry of a name is the body of its tag
when there is no other tag of this name.

- `Derives.exists_fragment`, `Derives.exists_fragmentIn`: the fragment tags in what is derived are its fragment nodes.
- `Takes.keeps_fragment`, `Runs.keeps_fragment`: other terminals leave the entry of a name alone.
- `Runs.fragment`: so the only fragment tag of a name makes its entry.
- `Gives.exists_fragmentTag`, `Gives.get?_fragments`: in a template, a name that its source has once is that of one
  body, and this is its fragment.
-/
import Templating.Proofs.ErrorPlaces

namespace Templating

open Template (Terminal)

namespace Template

/-! ## Fragments in what is derived -/

/-- the name of the fragment that the terminal starts -/
def Terminal.fragment? : Terminal → Option String
  | fragment name => some name
  | _ => none

/-- among the terminals is a fragment tag of the name with its end tag, and these nodes are derived in between -/
def FragmentIn (ts : List Terminal) (name : String) (body : List Node) : Prop :=
  ∃ inner, .fragment name :: inner ++ [.ending "endfragment" 0] <:+: ts ∧ Derives inner (.body false body)

theorem FragmentIn.mono {ts ts' : List Terminal} {name : String} {body : List Node} (h : FragmentIn ts name body)
    (hts : ts <:+: ts') : FragmentIn ts' name body := by
  obtain ⟨inner, hinner, hbody⟩ := h
  exact ⟨inner, hinner.trans hts, hbody⟩

/-- every fragment tag among the terminals has its end tag, and its node in the trees of these -/
def FragmentsOf (ts : List Terminal) (nodes : List Node) : Prop :=
  ∀ name, .fragment name ∈ ts → ∃ body, FragmentIn ts name body ∧ ∃ root ∈ nodes, root.Within (.fragment body)

namespace FragmentsOf

variable {ts ts' : List Terminal} {nodes nodes' : List Node} {x : Terminal}

theorem subset (h : FragmentsOf ts nodes) (hsub : nodes ⊆ nodes') : FragmentsOf ts nodes' := by
  intro name hname
  obtain ⟨body, hbody, root, hroot, hwithin⟩ := h name hname
  exact ⟨body, hbody, root, hsub hroot, hwithin⟩

theorem append (h : FragmentsOf ts nodes) (h' : FragmentsOf ts' nodes') :
    FragmentsOf (ts ++ ts') (nodes ++ nodes') := by
  intro name hname
  rcases List.mem_append.1 hname with hname | hname
  · obtain ⟨body, hbody, hnode⟩ := h.subset (List.subset_append_left nodes nodes') name hname
    exact ⟨body, hbody.mono (List.prefix_append ts ts').isInfix, hnode⟩
  · obtain ⟨body, hbody, hnode⟩ := h'.subset (List.subset_append_right nodes nodes') name hname
    exact ⟨body, hbody.mono (List.suffix_append ts ts').isInfix, hnode⟩

/-- one more terminal that is no fragment tag -/
theorem single (hx : x.fragment? = none) : FragmentsOf [x] nodes := by
  intro name hname
  obtain rfl := List.mem_singleton.1 hname
  cases hx

theorem cons (h : FragmentsOf ts nodes) (hx : x.fragment? = none) : FragmentsOf (x :: ts) nodes :=
  (single hx : FragmentsOf [x] []).append h

theorem concat (h : FragmentsOf ts nodes) (hx : x.fragment? = none) : FragmentsOf (ts ++ [x]) nodes := by
  simpa using h.append (single hx : FragmentsOf [x] [])

/-- the node above stands for those below it -/
theorem node {direct : Bool} {node : Node} (h : FragmentsOf ts (node.children false)) :
    FragmentsOf ts (Phrase.part direct node).roots := by
  intro name hname
  obtain ⟨body, hbody, child, hchild, hwithin⟩ := h name hname
  exact ⟨body, hbody, node, List.mem_singleton_self node, .head hchild hwithin⟩

end FragmentsOf

/-- **Every fragment tag** in what is derived has its end tag, and its node. -/
theorem Derives.exists_fragment {ts : List Terminal} {phrase : Phrase} (h : Derives ts phrase) :
    FragmentsOf ts phrase.roots := by
  induction h with
  | nil => simp [FragmentsOf]
  | first | opening => exact .single rfl
  | @single _ x _ hnode => cases x <;> cases hnode <;> exact .single rfl
  | snoc _ _ ihfront ihlast => exact ihfront.append ihlast
  | next _ _ ihfront ihbody => simpa [Phrase.roots] using (ihfront.append ihbody).concat rfl
  | conditional _ _ ihfront ihbody =>
    refine .node ?_
    simpa [Phrase.roots, Node.children] using (ihfront.append ihbody).concat rfl
  | otherwise _ _ _ ihfront ihbody ihother =>
    refine .node ?_
    simpa [Phrase.roots, Node.children] using ((ihfront.append ihbody).append (ihother.cons rfl)).concat rfl
  | loop _ ihbody =>
    refine .node ?_
    simpa [Phrase.roots, Node.children] using (ihbody.cons rfl).concat rfl
  | loopEmpty _ _ ihbody ihother =>
    refine .node ?_
    simpa [Phrase.roots, Node.children] using ((ihbody.cons rfl).append (ihother.cons rfl)).concat rfl
  | outlet _ ihbody => exact .node ((ihbody.cons rfl).concat rfl)
  | @fragment direct ts name nodes hbody ihbody =>
    intro name' hname
    rcases List.mem_cons.1 hname with hname | hname
    · cases hname
      exact ⟨nodes, ⟨ts, List.infix_rfl, hbody⟩, .fragment nodes, List.mem_singleton_self _, .refl⟩
    · -- a tag further inside
      have hinside : FragmentsOf (ts ++ [.ending "endfragment" 0]) (Phrase.part direct (.fragment nodes)).roots :=
        .node (ihbody.concat rfl)
      obtain ⟨body, hin, hnode⟩ := hinside name' hname
      exact ⟨body, hin.mono (List.suffix_cons _ _).isInfix, hnode⟩
  | content _ _ ihfront ihlast => simpa [Phrase.roots] using ihfront.append ihlast
  | slot _ _ ihfront ihbody =>
    refine ((ihfront.append (ihbody.cons rfl)).concat rfl).subset ?_
    simp [Phrase.roots]
  | component _ ihfront =>
    refine .node ?_
    simpa [Phrase.roots, Node.children] using ihfront.concat rfl

/-- **Every fragment node** is derived from a fragment tag. -/
theorem Derives.exists_fragmentIn {ts : List Terminal} {phrase : Phrase} (h : Derives ts phrase) {root : Node}
    (hroot : root ∈ phrase.roots) {body : List Node} (hwithin : root.Within (.fragment body)) :
    ∃ name, FragmentIn ts name body := by
  obtain ⟨direct, own, hown, hpart⟩ := h.exists_part root hroot _ hwithin
  cases hpart with
  | @single _ x _ hnode => cases x <;> cases hnode
  | @fragment _ inner name _ hbody => exact ⟨name, inner, hown, hbody⟩

/-! ## The entry of a name -/

/-- no fragment of the name is open -/
def Blocks.Closed (b : Blocks) (name : String) : Prop :=
  ∀ frame ∈ b.frames, frame.block ≠ .fragment name

theorem Blocks.Closed.opened {b : Blocks} {name : String} (h : b.Closed name) {block : Block}
    (hblock : block ≠ .fragment name) : (b.opened block).Closed name :=
  List.forall_mem_cons.2 ⟨hblock, h⟩

variable {b b' b₁ b₂ : Blocks} {x : Terminal} {ts ts' : List Terminal} {name : String} {body : List Node}

/-- **Other terminals** leave the entry of a name alone, and do not open a fragment of this name. -/
theorem Takes.keeps_fragment (h : Takes b x b') (hx : x ≠ .fragment name) (hb : b.Closed name) :
    b'.fragments.get? name = b.fragments.get? name ∧ b'.Closed name := by
  cases h with
  | single => exact ⟨rfl, hb⟩
  | conditional | loop | outlet | component => exact ⟨rfl, hb.opened nofun⟩
  | @fragment _ other =>
    refine ⟨rfl, hb.opened ?_⟩
    rintro ⟨⟩
    exact hx rfl
  | arm | orElse | empty | slot | endSlot =>
    exact ⟨rfl, List.forall_mem_cons.2 ⟨nofun, (List.forall_mem_cons.1 hb).2⟩⟩
  | endArm | endOtherwise | endLoop | endEmpty | endOutlet | endComponent =>
    exact ⟨rfl, (List.forall_mem_cons.1 hb).2⟩
  | @endFragment _ other =>
    obtain ⟨hother, hb⟩ := List.forall_mem_cons.1 hb
    refine ⟨(Dict.get?_insert ..).trans (if_neg ?_), hb⟩
    rintro rfl
    exact hother rfl

theorem Runs.keeps_fragment (h : Runs b ts b') (hts : .fragment name ∉ ts) (hb : b.Closed name) :
    b'.fragments.get? name = b.fragments.get? name ∧ b'.Closed name := by
  induction h with
  | nil => exact ⟨rfl, hb⟩
  | cons hfirst _ ih =>
    obtain ⟨hx, hrest⟩ := not_or.1 (hts ∘ List.mem_cons.2)
    obtain ⟨hstep, hclosed⟩ := hfirst.keeps_fragment (Ne.symm hx) hb
    obtain ⟨hkeeps, hclosed⟩ := ih hrest hclosed
    exact ⟨hkeeps.trans hstep, hclosed⟩

theorem Runs.unique (h₁ : Runs b ts b₁) (h₂ : Runs b ts b₂) : b₁ = b₂ := by
  induction h₁ with
  | nil =>
    cases h₂
    rfl
  | cons hfirst _ ih =>
    cases h₂ with
    | cons hfirst' hrest => exact ih (hfirst.unique hfirst' ▸ hrest)

theorem Runs.split (h : Runs b (ts ++ ts') b') : ∃ b₁, Runs b ts b₁ ∧ Runs b₁ ts' b' := by
  induction ts generalizing b with
  | nil => exact ⟨b, .nil, h⟩
  | cons x ts ih =>
    cases h with
    | cons hfirst hrest =>
      obtain ⟨b₁, hts, hts'⟩ := ih hrest
      exact ⟨b₁, .cons hfirst hts, hts'⟩

/-- a fragment tag with its end tag writes the entry of its name -/
theorem Derives.fragment_runs {inner : List Terminal} (hbody : Derives inner (.body false body)) (b : Blocks)
    (name : String) : ∃ b', Runs b (.fragment name :: inner ++ [.ending "endfragment" 0]) b' ∧ b'.frames = b.frames ∧
      b'.fragments.get? name = some body := by
  obtain ⟨props, fragments, hruns⟩ := hbody.runs [] (⟨.fragment name, b.nodes⟩ :: b.frames) b.props b.fragments rfl
  have hopen : Takes b (.fragment name) (b.opened (.fragment name)) := .fragment
  exact ⟨_, (hopen.runs.append hruns).append Takes.endFragment.runs, rfl,
    (Dict.get?_insert ..).trans (if_pos rfl)⟩

theorem mem_filterMap_fragment (h : .fragment name ∈ ts) : name ∈ ts.filterMap Terminal.fragment? :=
  List.mem_filterMap.2 ⟨_, h, rfl⟩

/-- **The only fragment tag of a name** makes its entry. -/
theorem Runs.fragment (h : Runs .start ts b) (hfragment : FragmentIn ts name body)
    (honce : (ts.filterMap Terminal.fragment?).count name = 1) : b.fragments.get? name = some body := by
  obtain ⟨inner, ⟨front, behind, rfl⟩, hbody⟩ := hfragment
  -- neither in front of it nor behind is another one
  have hothers : (front.filterMap Terminal.fragment?).count name = 0 ∧
      (behind.filterMap Terminal.fragment?).count name = 0 := by
    simp only [List.filterMap_append, List.count_append, List.cons_append, List.filterMap_cons, Terminal.fragment?,
      List.count_cons_self] at honce
    omega
  have hfront : .fragment name ∉ front := mt mem_filterMap_fragment (List.count_eq_zero.1 hothers.1)
  have hbehind : .fragment name ∉ behind := mt mem_filterMap_fragment (List.count_eq_zero.1 hothers.2)
  obtain ⟨b₁, hruns, hbehindRuns⟩ := h.split
  obtain ⟨b₀, hfrontRuns, hownRuns⟩ := hruns.split
  obtain ⟨b₂, hown, hframes, hentry⟩ := hbody.fragment_runs b₀ name
  obtain rfl := hownRuns.unique hown
  have hclosed : b₁.Closed name := by
    rw [Blocks.Closed, hframes]
    exact (hfrontRuns.keeps_fragment hfront (by simp [Blocks.Closed, Blocks.start])).2
  rw [(hbehindRuns.keeps_fragment hbehind hclosed).1, hentry]

/-! ## The names in a source -/

/-- the name of the fragment that the token starts in the template -/
def Token.fragment? (template : String) : Token → Option String
  | .tag "fragment" args position =>
    (Arguments.ofText ⟨template, position⟩ args >>= (·.readAll Expr.acceptString)).toOption.join
  | _ => none

/-- the names of the fragment tags in the source of the template, one after the other -/
def fragmentNames (t : Template) : List String :=
  ((tokens t.source).toOption.getD []).filterMap (·.fragment? t.name)

variable {c : Context} {compile : Component → Except TemplateError (Option Template)} {token : Token}

theorem get?_builtinTags_fragment (h : builtinTags.get? name = some .fragment) : name = "fragment" := by
  simp only [builtinTags, Dict.ofList, List.foldl_cons, List.foldl_nil, Dict.get?_insert, Dict.get?_empty] at h
  split_ifs at h with hname <;> simp_all

theorem tagWord_fragment_iff (htags : c.tags = builtinTags) {tag : String} {position : Position}
    {arguments : Arguments} :
    c.tagWord tag position arguments = .ok (.ready (.fragment name)) ↔
      tag = "fragment" ∧ arguments.readAll Expr.acceptString = .ok (some name) := by
  constructor
  · intro h
    obtain ⟨hget, hfound⟩ := (tagWord_read h).1 name rfl
    exact ⟨get?_builtinTags_fragment (htags ▸ hget), hfound⟩
  · rintro ⟨rfl, h⟩
    rw [Context.tagWord, htags]
    exact bind_eq_ok.2 ⟨some name, h, rfl⟩

/-- a token starts a fragment exactly when it is read as that -/
theorem word_fragment_iff (htags : c.tags = builtinTags) :
    c.word token = .ok (.ready (.fragment name)) ↔ token.fragment? c.template = some name := by
  cases token with
  | text s => simp [Context.word, Token.fragment?]
  | output expr position => simp [Context.word, Token.fragment?, bind_eq_ok, pure, Except.pure]
  | tag tag args position =>
    simp only [Context.word, bind_eq_ok, tagWord_fragment_iff htags]
    constructor
    · rintro ⟨arguments, harguments, rfl, hname⟩
      rw [Token.fragment?, harguments]
      exact congrArg (Option.join ∘ Except.toOption) hname
    · intro h
      unfold Token.fragment? at h
      split at h
      · next args' position' heq =>
        cases heq
        obtain ⟨arguments, harguments, hname⟩ := bind_eq_ok.1 (eq_ok_of_toOption (Option.join_eq_some_iff.1 h))
        exact ⟨arguments, harguments, rfl, hname⟩
      · cases h

/-- **A terminal starts the fragment** that its token does. -/
theorem Context.Stands.fragment (htags : c.tags = builtinTags) (h : c.Stands compile token x) :
    x.fragment? = token.fragment? c.template := by
  refine Option.ext fun name => ?_
  rw [← word_fragment_iff htags]
  rcases h with hword | ⟨tag, t, hword, -, hx⟩
  · rw [hword]
    cases x <;> simp [Terminal.fragment?]
  · obtain ⟨given, -, hx⟩ := bind_eq_ok.1 hx
    cases hx
    simp [hword, Terminal.fragment?]

/-- what the tokens say one by one, their terminals say -/
theorem stands_filterMap {α : Type} {ofTerminal : Terminal → Option α} {ofToken : Token → Option α}
    (hsame : ∀ token x, c.Stands compile token x → ofTerminal x = ofToken token) {tokens : List Token}
    {terminals : List Terminal} (h : List.Forall₂ (c.Stands compile) tokens terminals) :
    terminals.filterMap ofTerminal = tokens.filterMap ofToken := by
  induction h with
  | nil => rfl
  | cons hx _ ih => rw [List.filterMap_cons, List.filterMap_cons, hsame _ _ hx, ih]

theorem Context.Stands.mono {compile' : Component → Except TemplateError (Option Template)}
    (h : c.Stands compile token x) (hmore : ∀ k r, compile k = .ok r → compile' k = .ok r) :
    c.Stands compile' token x := by
  rcases h with hword | ⟨tag, t, hword, hcompile, hx⟩
  · exact .inl hword
  · exact .inr ⟨tag, t, hword, hmore _ _ hcompile, hx⟩

/-- a token is one terminal at most -/
theorem Context.Stands.unique {y : Terminal} (hx : c.Stands compile token x) (hy : c.Stands compile token y) :
    x = y := by
  rcases hx with hword | ⟨tag, t, hword, hcompile, hx⟩ <;>
    rcases hy with hword' | ⟨tag', t', hword', hcompile', hy⟩ <;>
    cases hword.symm.trans hword'
  · rfl
  · cases hcompile.symm.trans hcompile'
    exact Except.ok.inj (hx.symm.trans hy)

end Template

/-! ## The fragments of a template -/

namespace TemplateSet

variable {s : TemplateSet} {request : Request} {u : Template} {name : String} {body : List Node}
  {terminals terminals' : List Terminal}

/-- the tokens of the template's source are these terminals, with enough levels of component templates -/
def ReadsAs (s : TemplateSet) (u : Template) (terminals : List Terminal) : Prop :=
  ∃ levels tokens, Template.tokens u.source = .ok tokens ∧
    List.Forall₂ ((s.reading u.name).Stands (s.below u.name levels)) tokens terminals

/-- in the source of the template stands a fragment tag of the name, and this is the body up to its end tag -/
def FragmentTag (s : TemplateSet) (u : Template) (name : String) (body : List Node) : Prop :=
  ∃ terminals, s.ReadsAs u terminals ∧ Template.FragmentIn terminals name body

theorem below_mono {levels more : Nat} (h : levels ≤ more) (k : Component) (r : Option Template)
    (hr : s.below name levels k = .ok r) : s.below name more k = .ok r := by
  cases levels with
  | zero => cases hr
  | succ levels =>
    obtain ⟨more, rfl⟩ := Nat.exists_eq_add_one_of_ne_zero (Nat.ne_zero_of_lt h)
    have hfresh : ∀ name source t, s.fresh levels name source = .ok t → s.fresh more name source = .ok t :=
      fun _ _ _ => fresh_mono (Nat.le_of_succ_le_succ h)
    exact freshComponent_mono hfresh k r hr

/-- a source is one list of terminals at most -/
theorem ReadsAs.unique (h : s.ReadsAs u terminals) (h' : s.ReadsAs u terminals') : terminals = terminals' := by
  obtain ⟨levels, tokens, htokens, hall⟩ := h
  obtain ⟨levels', tokens', htokens', hall'⟩ := h'
  cases htokens.symm.trans htokens'
  have hmax := hall.imp fun _ _ hx => hx.mono (below_mono (Nat.le_max_left levels levels'))
  have hmax' := hall'.imp fun _ _ hx => hx.mono (below_mono (Nat.le_max_right levels levels'))
  have hunique : Relator.RightUnique ((s.reading u.name).Stands (s.below u.name (max levels levels'))) :=
    fun _ _ _ => Template.Context.Stands.unique
  exact List.right_unique_forall₂' hunique hmax hmax'

theorem ReadsAs.fragmentNames (hs : s.Usual) (h : s.ReadsAs u terminals) :
    u.fragmentNames = terminals.filterMap Terminal.fragment? := by
  obtain ⟨levels, tokens, htokens, hall⟩ := h
  rw [Template.fragmentNames, htokens, Template.stands_filterMap (fun _ _ hx => hx.fragment hs.tags) hall]
  rfl

/-- a template that is rendered is what the terminals of its source build -/
theorem Gives.runs (hs : s.Usual) (h : s.Gives request u) :
    ∃ terminals b, s.ReadsAs u terminals ∧ Template.Runs .start terminals b ∧ b.props = u.props ∧
      b.fragments = u.fragments ∧ Template.Derives terminals (.body false u.nodes) := by
  obtain ⟨levels, name, source, hfresh⟩ := h.fresh hs
  obtain ⟨tokens, terminals, b, htokens, hall, hruns, hframes, rfl⟩ := fresh_runs hs.tags hfresh
  exact ⟨terminals, b, ⟨levels, tokens, htokens, hall⟩, hruns, rfl, rfl,
    Template.derives_iff_runs.2 ⟨b, hruns, hframes, rfl⟩⟩

/-- **The only fragment tag of a name** has the body that the template keeps for the name. -/
theorem Gives.get?_fragments (hs : s.Usual) (h : s.Gives request u) (honce : u.fragmentNames.count name = 1)
    (htag : s.FragmentTag u name body) : u.fragments.get? name = some body := by
  obtain ⟨terminals, hreads, hin⟩ := htag
  obtain ⟨terminals', b, hreads', hruns, -, hfragments, -⟩ := h.runs hs
  obtain rfl := hreads.unique hreads'
  rw [hreads.fragmentNames hs] at honce
  rw [← hfragments, hruns.fragment hin honce]

/-- **A name that is there once** is that of one body, whose node is in the tree of the template. -/
theorem Gives.exists_fragmentTag (hs : s.Usual) (h : s.Gives request u) (honce : u.fragmentNames.count name = 1) :
    ∃ body, (∀ body', s.FragmentTag u name body' ↔ body' = body) ∧
      ∃ root ∈ u.nodes, root.Within (.fragment body) := by
  obtain ⟨terminals, b, hreads, -, -, -, hderives⟩ := h.runs hs
  have hmem : name ∈ terminals.filterMap Terminal.fragment? := by
    rw [← hreads.fragmentNames hs]
    exact List.count_pos_iff.1 (by omega)
  obtain ⟨x, hx, hname⟩ := List.mem_filterMap.1 hmem
  cases x <;> cases hname
  obtain ⟨body, hin, hnode⟩ := hderives.exists_fragment _ hx
  have htag : s.FragmentTag u name body := ⟨terminals, hreads, hin⟩
  refine ⟨body, fun body' => ⟨fun htag' => ?_, fun heq => heq ▸ htag⟩, hnode⟩
  exact Option.some.inj ((h.get?_fragments hs honce htag').symm.trans (h.get?_fragments hs honce htag))

/-- **A fragment node** in the tree of a template is that of a fragment tag. -/
theorem Gives.exists_name (hs : s.Usual) (h : s.Gives request u) {root : Node} (hroot : root ∈ u.nodes)
    (hwithin : root.Within (.fragment body)) : ∃ name, s.FragmentTag u name body := by
  obtain ⟨terminals, b, hreads, -, -, -, hderives⟩ := h.runs hs
  obtain ⟨name, hin⟩ := hderives.exists_fragmentIn hroot hwithin
  exact ⟨name, terminals, hreads, hin⟩

end TemplateSet

end Templating
