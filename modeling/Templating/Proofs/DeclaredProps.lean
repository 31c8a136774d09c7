/-
Which arguments of a component are props.

A props tag declares keys. It leaves a node with their defaults, and the keys themselves to the template, where they
take the place of those of the tag before it. So a template has the defaults of all its props tags, but the props of the
last one alone, and a use of the component goes by these props: an argument under another key is an attribute, also when
an earlier props tag declares the key and has a default for it. An argument that is a prop is a variable that no default
writes over.

- `Takes.props`, `Runs.props`: the last terminal that declares props makes the props of a template.
- `Gives.props_eq`: so the last props tag of its source does.
- `Gives.exists_propTag`: defaults are those of some props tag.
- `Gives.exists_componentTag`: a component node comes from a tag, and its arguments from those of the tag.
- `useOf_binds`: what the arguments are bound as.
- `renderDefaults_keeps`: a value that is there stays there.
- `declared_props`: all of this, for the templates that are rendered.
-/
import Templating.Proofs.FragmentTags
import Templating.Proofs.SharedVariables

namespace Templating

open Template (Terminal)

namespace Template

variable {b b' : Blocks} {x : Terminal} {ts : List Terminal} {c : Context}
  {compile : Component → Except TemplateError (Option Template)} {token : Token}

/-! ## The last one -/

/-- a terminal that declares props writes over those that were declared before -/
theorem Takes.props (h : Takes b x b') : b'.props = x.declared?.getD b.props := by
  cases h <;> rfl

/-- **The last terminal that declares props** makes the props. -/
theorem Runs.props (h : Runs b ts b') : b'.props = (ts.filterMap Terminal.declared?).getLast?.getD b.props := by
  induction h with
  | nil => rfl
  | @cons b b₁ b' x ts hfirst _ ih =>
    rw [ih, hfirst.props]
    cases hx : x.declared? with
    | none => rw [List.filterMap_cons_none hx, Option.getD_none]
    | some keys =>
      rw [List.filterMap_cons_some hx, List.getLast?_cons, Option.getD_some, Option.getD_some]

/-! ## Props tags -/

/-- the props that the token declares in the template, with and without defaults -/
def Token.declared? (template : String) : Token → Option (List String)
  | .tag "props" args position =>
    (Arguments.ofText ⟨template, position⟩ args >>= fun arguments =>
      (arguments.readAll (propList arguments.count)).map (·.map Prod.fst)).toOption
  | _ => none

/-- what the props tags in the source of the template declare, one after the other -/
def propTags (t : Template) : List (List String) :=
  ((tokens t.source).toOption.getD []).filterMap (·.declared? t.name)

theorem get?_builtinTags_props {name : String} (h : builtinTags.get? name = some .props) : name = "props" := by
  simp only [builtinTags, Dict.ofList, List.foldl_cons, List.foldl_nil, Dict.get?_insert, Dict.get?_empty] at h
  split_ifs at h with hname <;> simp_all

theorem tagWord_props_iff (htags : c.tags = builtinTags) {tag : String} {position place : Position}
    {arguments : Arguments} {list : List (String × Option Expr)} :
    c.tagWord tag position arguments = .ok (.ready (.props place list)) ↔
      tag = "props" ∧ place = position ∧ arguments.readAll (propList arguments.count) = .ok list := by
  constructor
  · intro h
    obtain ⟨hget, hplace, hlist⟩ := (tagWord_read h).2 place list rfl
    exact ⟨get?_builtinTags_props (htags ▸ hget), hplace, hlist⟩
  · rintro ⟨rfl, rfl, h⟩
    rw [Context.tagWord, htags]
    exact bind_eq_ok.2 ⟨list, h, rfl⟩

/-- a token declares props exactly when it is read as that -/
theorem word_props_iff (htags : c.tags = builtinTags) {keys : List String} :
    (∃ position list, c.word token = .ok (.ready (.props position list)) ∧ list.map (·.1) = keys) ↔
      token.declared? c.template = some keys := by
  cases token with
  | text s => simp [Context.word, Token.declared?]
  | output expr position => simp [Context.word, Token.declared?, bind_eq_ok, pure, Except.pure]
  | tag tag args position =>
    simp only [Context.word, bind_eq_ok, tagWord_props_iff htags]
    constructor
    · rintro ⟨place, list, ⟨arguments, harguments, rfl, rfl, hlist⟩, rfl⟩
      simp only [Token.declared?, harguments, bind, Except.bind, hlist]
      rfl
    · intro h
      unfold Token.declared? at h
      split at h
      · next args' position' heq =>
        cases heq
        obtain ⟨arguments, harguments, hkeys⟩ := bind_eq_ok.1 (eq_ok_of_toOption h)
        obtain ⟨list, hlist, rfl⟩ := map_eq_ok.1 hkeys
        exact ⟨position, list, ⟨arguments, harguments, rfl, rfl, hlist⟩, rfl⟩
      · cases h

/-- **A terminal declares the props** that its token does. -/
theorem Context.Stands.declared (htags : c.tags = builtinTags) (h : c.Stands compile token x) :
    x.declared? = token.declared? c.template := by
  refine Option.ext fun keys => ?_
  rw [← word_props_iff htags]
  rcases h with hword | ⟨tag, t, hword, -, hx⟩
  · rw [hword]
    cases x <;> simp [Terminal.declared?]
  · obtain ⟨given, -, hx⟩ := bind_eq_ok.1 hx
    cases hx
    simp [hword, Terminal.declared?]

/-! ## Component tags -/

/-- **A component terminal** comes from a tag that names a registered component, and has its template; the arguments of
its use are those of the tag. -/
theorem Context.Stands.componentTag (htags : c.tags = builtinTags) {use : ComponentUse} {t : Template}
    (h : c.Stands compile token (.component use t)) :
    ∃ args name words k slotData given, token = .tag "component" args use.position ∧
      Expr.tokens args.toList = .ok (.str name :: words) ∧ c.registry.get? name = some k ∧
      (componentArguments.read words).1 = .ok (slotData, given) ∧ compile k = .ok (some t) ∧
      use = useOf k t use.position slotData given := by
  rcases h with hword | ⟨tag, t', hword, hcompile, hx⟩
  · cases token with
    | text s => cases hword
    | output expr position => simp [Context.word, bind_eq_ok, pure, Except.pure] at hword
    | tag name args position =>
      obtain ⟨arguments, -, hword⟩ := bind_eq_ok.1 hword
      simpa using tagWord_ready_cases hword
  · cases token with
    | text s => cases hword
    | output expr position => simp [Context.word, bind_eq_ok, pure, Except.pure] at hword
    | tag name args position =>
      obtain ⟨arguments, harguments, hword⟩ := bind_eq_ok.1 hword
      obtain ⟨hget, htag⟩ := tagWord_component_iff.1 hword
      obtain rfl := get?_builtinTags_component (htags ▸ hget)
      obtain ⟨hwords, rfl, hregistry⟩ := componentTag_eq_ok htag
      obtain ⟨⟨slotData, given⟩, hread, hx⟩ := bind_eq_ok.1 hx
      cases hx
      obtain ⟨rest, hread⟩ := Arguments.readAll_eq_ok.1 hread
      have htokens := ofText_words harguments
      rw [hwords] at htokens
      exact ⟨args, tag.name, tag.arguments.words, tag.component, slotData, given, rfl, htokens, hregistry,
        by rw [hread], hcompile, rfl⟩

end Template

/-! ## What an argument is bound as -/

/-- the data has the value as a variable under the key, and no attribute there -/
def Data.BindsProp (data : Data) (key : String) (value : Value) : Prop :=
  data.get? key = some value ∧ ∃ set, data.get? attributesKey = some (.attrs set) ∧ set.values.get? key = none

/-- the data has the value as an attribute under the key, and no variable there -/
def Data.BindsAttribute (data : Data) (key : String) (value : Value) : Prop :=
  data.get? key = none ∧
    ∃ set, data.get? attributesKey = some (.attrs set) ∧ set.values.get? key = some value.text

variable {page : Page} {position : Position} {scope scope' : Scope} {key : String} {e : Expr} {value : Value}

/-- the value of the last expression with a key -/
theorem Evaluated.last {pairs : List (String × Expr)} {values : List (String × Value)}
    (h : Evaluated scope pairs values) (key : String) :
    (Dict.last key pairs = none ∧ Dict.last key values = none) ∨
      ∃ e value, Dict.last key pairs = some e ∧ e.eval scope = .ok value ∧ Dict.last key values = some value := by
  induction h with
  | nil => exact .inl ⟨rfl, rfl⟩
  | @cons pair entry pairs values hfirst _ ih =>
    obtain ⟨hname, hvalue⟩ := hfirst
    simp only [Dict.last_cons, hname]
    rcases ih with ⟨hpairs, hvalues⟩ | ⟨e, value, hpairs, heval, hvalues⟩
    · by_cases hkey : key = pair.1
      · exact .inr ⟨pair.2, entry.2, by simp [hpairs, hkey.symm], hvalue, by simp [hvalues, hkey.symm]⟩
      · exact .inl ⟨by simp [hpairs, hkey], by simp [hvalues, hkey]⟩
    · exact .inr ⟨e, value, by simp [hpairs], heval, by simp [hvalues]⟩

theorem Evaluated.last_eq_some {pairs : List (String × Expr)} {values : List (String × Value)}
    (h : Evaluated scope pairs values) (hlast : Dict.last key pairs = some e) (heval : e.eval scope = .ok value) :
    Dict.last key values = some value := by
  rcases h.last key with ⟨hpairs, -⟩ | ⟨e', value', hpairs, heval', hvalues⟩
  · cases hlast.symm.trans hpairs
  · cases hlast.symm.trans hpairs
    cases heval.symm.trans heval'
    exact hvalues

theorem Evaluated.last_eq_none {pairs : List (String × Expr)} {values : List (String × Value)}
    (h : Evaluated scope pairs values) (hlast : Dict.last key pairs = none) : Dict.last key values = none := by
  rcases h.last key with ⟨-, hvalues⟩ | ⟨e', value', hpairs, -, -⟩
  · exact hvalues
  · cases hlast.symm.trans hpairs

/-- **The last argument of a name** is a variable when the template tells the name as a prop, and an attribute
otherwise. -/
theorem useOf_binds {k : Component} {t : Template} {slotData : SlotData} {given : List (String × Expr)} {data : Data}
    (hprops : k.props = []) (hdata : (Template.useOf k t position slotData given).data page scope = .ok data)
    (hkey : key ≠ attributesKey) (hlast : Dict.last key given = some e) (heval : e.eval scope = .ok value) :
    (key ∈ t.props → data.BindsProp key value) ∧ (key ∉ t.props → data.BindsAttribute key value) := by
  obtain @⟨props, attributes, set, _, hpropValues, hattributes, -, hset, hget, -⟩ := ComponentUse.data_eq_ok.1 hdata
  have hattrs : data.get? attributesKey = some (.attrs set) := (hget attributesKey).trans (if_pos rfl)
  have hprop := Dict.last_filter (fun name => t.props.contains name) key given
  have hattribute := Dict.last_filter (fun name => !t.props.contains name) key given
  rw [hlast] at hprop hattribute
  simp only [Template.useOf, hprops, List.isEmpty_nil, if_true] at hpropValues hattributes
  constructor
  · intro hmem
    rw [if_pos (by simpa using hmem)] at hprop
    rw [if_neg (by simpa using hmem)] at hattribute
    refine ⟨?_, set, hattrs, ?_⟩
    · rw [hget, if_neg hkey, hpropValues.last_eq_some hprop heval]
    · rw [hset, Dict.last_map, hattributes.last_eq_none hattribute]
      rfl
  · intro hmem
    rw [if_neg (by simpa using hmem)] at hprop
    rw [if_pos (by simpa using hmem)] at hattribute
    refine ⟨?_, set, hattrs, ?_⟩
    · rw [hget, if_neg hkey, hpropValues.last_eq_none hprop]
    · rw [hset, Dict.last_map, hattributes.last_eq_some hattribute heval]
      rfl

/-- without a setup, the template of a component sees the data that the use starts with, but for the variables that are
shared and the names of slots -/
theorem ComponentUse.get?_input_eq {use : ComponentUse} {slots : List (String × List Node)} {data shown : Data}
    (hsetup : use.setup = none) (hdata : use.data page scope = .ok data)
    (hinput : use.input page slots scope = .ok (some shown)) (hshared : key ∉ page.sharedKeys)
    (hslots : key ∉ slots.map (·.1)) : shown.get? key = data.get? key := by
  obtain ⟨given, prepared, contents, hgiven, hprepared, hcontents, rfl⟩ := input_eq_some.1 hinput
  cases hdata.symm.trans hgiven
  rw [ComponentUse.prepared, hsetup] at hprepared
  cases hprepared
  have hnone : Dict.last key contents = none := by
    rw [← slotsWrite_names hcontents] at hslots
    rwa [← Dict.isSome_last, Option.not_isSome_iff_eq_none] at hslots
  rw [(withSlots_fills page scope data contents).value, hnone, Page.shared?, if_neg hshared]
  rfl

/-! ## Defaults -/

theorem applyDefaults_keepsSome {defaults : List (String × Expr)}
    (h : page.applyDefaults position defaults scope = .ok scope') (hvalue : scope.get? key = some value)
    (hsome : value.isNull = false) : scope'.get? key = some value := by
  induction defaults generalizing scope with
  | nil =>
    cases h
    exact hvalue
  | cons default rest ih =>
    obtain ⟨name, e⟩ := default
    rw [Page.applyDefaults] at h
    split_ifs at h with hnull
    · obtain ⟨v, -, h⟩ := bind_eq_ok.1 h
      have hne : key ≠ name := by
        rintro rfl
        rw [hvalue, Option.getD_some, hsome] at hnull
        cases hnull
      exact ih h (by rw [Scope.get?_set, if_neg hne, hvalue])
    · exact ih h hvalue

/-- **Defaults write over no value** but `none`. -/
theorem renderDefaults_keeps {defaults : List (String × Expr)} {out out' : String}
    (h : (Node.defaults position defaults).render page scope out = .ok (scope', out'))
    (hvalue : scope.get? key = some value) (hsome : value.isNull = false) : scope'.get? key = some value := by
  obtain ⟨behind, hdefaults, h⟩ := bind_eq_ok.1 h
  cases h
  exact applyDefaults_keepsSome hdefaults hvalue hsome

/-! ## Templates -/

namespace TemplateSet

variable {s : TemplateSet} {request : Request} {u : Template} {terminals : List Terminal}

theorem ReadsAs.propTags (hs : s.Usual) (h : s.ReadsAs u terminals) :
    u.propTags = terminals.filterMap Terminal.declared? := by
  obtain ⟨levels, tokens, htokens, hall⟩ := h
  rw [Template.propTags, htokens, Template.stands_filterMap (fun _ _ hx => hx.declared hs.tags) hall]
  rfl

/-- **The last props tag** of the source makes the props of the template. -/
theorem Gives.props_eq (hs : s.Usual) (h : s.Gives request u) : u.props = u.propTags.getLast?.getD [] := by
  obtain ⟨terminals, b, hreads, hruns, hprops, -, -⟩ := h.runs hs
  rw [← hprops, hruns.props, hreads.propTags hs]
  rfl

/-- **Defaults** are those of a props tag, whichever it is. -/
theorem Gives.exists_propTag (hs : s.Usual) (h : s.Gives request u) {root : Node} (hroot : root ∈ u.nodes)
    {position : Position} {defaults : List (String × Expr)} (hwithin : root.Within (.defaults position defaults)) :
    ∃ keys ∈ u.propTags, defaults.map (·.1) ⊆ keys := by
  obtain ⟨terminals, b, hreads, -, -, -, hderives⟩ := h.runs hs
  obtain ⟨direct, own, hown, hpart⟩ := hderives.exists_part root hroot _ hwithin
  cases hpart with
  | @single _ x _ hnode =>
    cases x with
    | props place list =>
      cases hnode
      refine ⟨list.map (·.1), ?_, fun key hkey => ?_⟩
      · rw [hreads.propTags hs]
        exact List.mem_filterMap.2 ⟨_, hown.subset List.mem_cons_self, rfl⟩
      · obtain ⟨⟨_, e⟩, hmem, rfl⟩ := List.mem_map.1 hkey
        obtain ⟨⟨name, default⟩, hlist, hdefault⟩ := List.mem_filterMap.1 hmem
        obtain ⟨e', -, heq⟩ := Option.map_eq_some_iff.1 hdefault
        cases heq
        exact List.mem_map_of_mem hlist
    | _ => cases hnode

/-- at the position, in the source of the template, a component tag stands that names the component and has these
arguments -/
def ComponentTagAt (s : TemplateSet) (u : Template) (position : Position) (k : Component)
    (given : List (String × Expr)) : Prop :=
  ∃ args name words slotData, Template.TokenAt u.source.toList position (.tag "component" args position) ∧
    Expr.tokens args.toList = .ok (.str name :: words) ∧ s.registry.get? name = some k ∧
    (Template.componentArguments.read words).1 = .ok (slotData, given)

/-- the template of the component -/
def TemplateOf (s : TemplateSet) (k : Component) (v : Template) : Prop :=
  ∃ levels, s.freshComponent (s.fresh levels) k = .ok (some v)

/-- **A component node** comes from a component tag of the source, and its body from the template of the component. -/
theorem Gives.exists_componentTag (hs : s.Usual) (h : s.Gives request u) {root : Node} (hroot : root ∈ u.nodes)
    {use : ComponentUse} {template : String} {body : List Node} {slots : List (String × List Node)}
    (hwithin : root.Within (.component use template body slots)) :
    ∃ k v slotData given, s.ComponentTagAt u use.position k given ∧ s.TemplateOf k v ∧ s.Gives request v ∧
      template = v.name ∧ body = v.nodes ∧ use = Template.useOf k v use.position slotData given := by
  obtain ⟨levels, tokens, terminals, htokens, hall, hderives⟩ := h.derives hs
  obtain ⟨direct, own, hown, hpart⟩ := hderives.exists_part root hroot _ hwithin
  obtain ⟨v, inner, items, rfl, -, htemplate, hbody, -⟩ := hpart.component_items
  have hmem : Terminal.component use v ∈ terminals := hown.subset List.mem_cons_self
  obtain ⟨token, htoken, hstands⟩ := Template.exists_of_mem_right hall hmem
  obtain ⟨args, name, words, k, slotData, given, rfl, hwords, hregistry, hread, hbelow, huse⟩ :=
    hstands.componentTag hs.tags
  cases levels with
  | zero => cases hbelow
  | succ levels =>
    have hat := Template.exists_tokenAt htokens htoken rfl
    exact ⟨k, v, slotData, given, ⟨args, name, words, slotData, hat, hwords, hregistry, hread⟩, ⟨levels, hbelow⟩,
      .component hregistry hbelow, htemplate, hbody, huse⟩

/-- a component has one template at most -/
theorem TemplateOf.unique {k : Component} {v v' : Template} (h : s.TemplateOf k v) (h' : s.TemplateOf k v') :
    v = v' := by
  obtain ⟨levels, hv⟩ := h
  obtain ⟨levels', hv'⟩ := h'
  have hlevel : s.below v.name (levels + 1) k = .ok (some v) := hv
  have hlevel' : s.below v.name (levels' + 1) k = .ok (some v') := hv'
  have hmore := below_mono (Nat.le_max_left (levels + 1) (levels' + 1)) k (some v) hlevel
  have hmore' := below_mono (Nat.le_max_right (levels + 1) (levels' + 1)) k (some v') hlevel'
  exact Option.some.inj (Except.ok.inj (hmore.symm.trans hmore'))

/-- **Which arguments are props.** In a template that is rendered, the props are those of the last props tag in its
source, wherever the tags stand, and every default is one of a props tag. A component node comes from a component tag.
When the component is registered without props, the last argument of a name is a variable if the props of the
component's template have this name, and an attribute if they do not; without a setup the template sees it so, unless
the name is that of a shared variable or of a slot. A variable that is not none stays as it is behind all defaults. -/
theorem declared_props (loader : Loader) (options : Options) (ops : List Operation) (request : Request) {u : Template}
    (hu : ((new loader options).after ops).Gives request u) :
    u.props = u.propTags.getLast?.getD [] ∧
    (∀ root ∈ u.nodes, ∀ position defaults, root.Within (.defaults position defaults) →
      ∃ keys ∈ u.propTags, defaults.map (·.1) ⊆ keys) ∧
    (∀ root ∈ u.nodes, ∀ use template body slots, root.Within (.component use template body slots) →
      ∃ k v given, ((new loader options).after ops).ComponentTagAt u use.position k given ∧
        ((new loader options).after ops).TemplateOf k v ∧ ((new loader options).after ops).Gives request v ∧
        template = v.name ∧ body = v.nodes ∧
        (k.props = [] → ∀ page scope data, use.data page scope = .ok data → ∀ key e value, key ≠ attributesKey →
          Dict.last key given = some e → e.eval scope = .ok value →
            (key ∈ v.props → data.BindsProp key value) ∧ (key ∉ v.props → data.BindsAttribute key value))) ∧
    (∀ (use : ComponentUse) page slots scope data shown key, use.setup = none → use.data page scope = .ok data →
      use.input page slots scope = .ok (some shown) → key ∉ page.sharedKeys → key ∉ slots.map (·.1) →
        shown.get? key = data.get? key) ∧
    ∀ page position defaults scope scope' out out' key value,
      (Node.defaults position defaults).render page scope out = .ok (scope', out') → scope.get? key = some value →
        value.isNull = false → scope'.get? key = some value := by
  have hs := usual_after loader options ops
  refine ⟨hu.props_eq hs, fun root hroot position defaults => hu.exists_propTag hs hroot,
    fun root hroot use template body slots hwithin => ?_, ?_, ?_⟩
  · obtain ⟨k, v, slotData, given, htag, htemplate, hv, hname, hbody, huse⟩ := hu.exists_componentTag hs hroot hwithin
    refine ⟨k, v, given, htag, htemplate, hv, hname, hbody, ?_⟩
    intro hprops page scope data hdata key e value hkey hlast heval
    rw [huse] at hdata
    exact useOf_binds hprops hdata hkey hlast heval
  · intro use page slots scope data shown key hsetup hdata hinput
    exact ComponentUse.get?_input_eq hsetup hdata hinput
  · intro page position defaults scope scope' out out' key value
    exact renderDefaults_keeps

/-- a notice that declares its title in one props tag, and its kind in another -/
def notice : Component :=
  ⟨"notice", .inline "\x7b% props title='none' %\x7d\x7b% props kind %\x7d\x7b\x7b title \x7d\x7d", [], none⟩

/-- the set of the notice, without component markup -/
def noticeSet : TemplateSet :=
  (new (.memory .empty) { Options.standard with tagPrefix := none }).after [.register notice]

/-- a page with a notice that is given both -/
def noticePage : String :=
  "\x7b% props a, b='c' %\x7d\x7b% component \"notice\" withAttrs \"title\"='Hi' \"kind\"='Ho' %\x7d" ++
    "\x7b% endcomponent %\x7d"

theorem exists_noticeTemplate :
    ∃ u, noticeSet.TemplateOf notice u ∧ u.propTags = [["title"], ["kind"]] ∧ u.props = ["kind"] := by
  have hrun : (noticeSet.freshComponent (noticeSet.fresh 0) notice).toOption.join.any
      (fun u => u.propTags = [["title"], ["kind"]] ∧ u.props = ["kind"]) = true := by
    decide +kernel
  obtain ⟨u, hu, hprops⟩ := (Option.any_eq_true _ _).1 hrun
  exact ⟨u, ⟨0, eq_ok_of_toOption (Option.join_eq_some_iff.1 hu)⟩, of_decide_eq_true hprops⟩

/-- the component tag of the page names the notice, and has these arguments -/
theorem noticePage_componentTag {t : Template} (hsource : t.source = noticePage) {k : Component}
    {given : List (String × Expr)} (h : noticeSet.ComponentTagAt t ⟨20, 0, 20⟩ k given) :
    k = notice ∧ given = [("title", .literal (.str "Hi")), ("kind", .literal (.str "Ho"))] := by
  have htokens : Template.tokens noticePage = .ok [.tag "props" "a, b='c'" .start,
      .tag "component" "\"notice\" withAttrs \"title\"='Hi' \"kind\"='Ho'" ⟨20, 0, 20⟩,
      .tag "endcomponent" "" ⟨79, 0, 79⟩] := by
    decide +kernel
  have hwordsAt : Expr.tokens "\"notice\" withAttrs \"title\"='Hi' \"kind\"='Ho'".toList =
      .ok [.str "notice", .ident "withAttrs", .str "title", .symbol .assign, .str "Hi", .str "kind", .symbol .assign,
        .str "Ho"] := by
    rfl
  have hargs : (Template.componentArguments.read [.ident "withAttrs", .str "title", .symbol .assign, .str "Hi",
      .str "kind", .symbol .assign, .str "Ho"]).1 =
        .ok (.nothing, [("title", .literal (.str "Hi")), ("kind", .literal (.str "Ho"))]) := by
    rfl
  obtain ⟨args, name, words, slotData, hat, hwords, hregistry, hread⟩ := h
  rw [hsource] at hat
  have hfound := hat.unique (Template.exists_tokenAt htokens (List.mem_cons_of_mem _ List.mem_cons_self) rfl)
  obtain ⟨-, rfl, -⟩ := Template.Token.tag.inj hfound
  cases hwordsAt.symm.trans hwords
  cases hargs.symm.trans hread
  exact ⟨(Option.some.inj hregistry).symm, rfl⟩

/-- the page is a props tag and a component, which evaluates its arguments -/
def isNoticePage (t : Template) : Bool :=
  match t.nodes with
  | [.defaults _ _, .component use _ _ _] =>
    use.position == ⟨20, 0, 20⟩ && t.source == noticePage && t.propTags == [["a", "b"]] &&
      (use.data t.page (.root .empty)).isOk
  | _ => false

theorem declared_props_notice :
    ∃ t use data, (noticeSet.obtain (.text noticePage)).1 = .ok t ∧ t.props = ["a", "b"] ∧
      (∃ template body slots, Node.component use template body slots ∈ t.nodes) ∧
      use.data t.page (.root .empty) = .ok data ∧ data.BindsProp "kind" (.str "Ho") ∧
      data.BindsAttribute "title" (.str "Hi") := by
  have hrun : (noticeSet.obtain (.text noticePage)).1.toOption.any isNoticePage = true := by decide +kernel
  obtain ⟨t, ht, hpage⟩ := (Option.any_eq_true _ _).1 hrun
  have hobtain := eq_ok_of_toOption ht
  unfold isNoticePage at hpage
  split at hpage
  · next use template body slots hnodes =>
    simp only [Bool.and_eq_true, beq_iff_eq] at hpage
    obtain ⟨⟨⟨hposition, hsource⟩, htags⟩, hdata⟩ := hpage
    obtain ⟨data, hdata⟩ := exists_eq_ok_of_isOk hdata
    have hmem : Node.component use template body slots ∈ t.nodes := by simp [hnodes]
    obtain ⟨hprops, -, hcomponents, -, -⟩ :=
      declared_props (.memory .empty) { Options.standard with tagPrefix := none } [.register notice] (.text noticePage)
        (.page hobtain)
    obtain ⟨k, v, given, htag, htemplate, -, -, -, hbinds⟩ := hcomponents _ hmem use template body slots .refl
    rw [hposition] at htag
    obtain ⟨rfl, rfl⟩ := noticePage_componentTag hsource htag
    obtain ⟨u, hu, -, hkind⟩ := exists_noticeTemplate
    obtain rfl := htemplate.unique hu
    have hbound := hbinds rfl t.page (.root .empty) data hdata
    refine ⟨t, use, data, hobtain, by rw [hprops, htags]; rfl, ⟨template, body, slots, hmem⟩, hdata, ?_, ?_⟩
    · exact (hbound "kind" (.literal (.str "Ho")) (.str "Ho") (by decide) rfl rfl).1 (by simp [hkind])
    · exact (hbound "title" (.literal (.str "Hi")) (.str "Hi") (by decide) rfl rfl).2 (by simp [hkind])
  · cases hpage

/-- **Props of an earlier tag are lost**: the notice is given a title and shows its default. -/
theorem earlier_props_lost :
    ∃ u t, noticeSet.TemplateOf notice u ∧ u.propTags = [["title"], ["kind"]] ∧ u.props = ["kind"] ∧
      (noticeSet.obtain (.text noticePage)).1 = .ok t ∧ t.render .empty = .ok "none" := by
  have hrun : (noticeSet.obtain (.text noticePage)).1.toOption.any
      (fun t => (t.render .empty).toOption = some "none") = true := by
    decide +kernel
  obtain ⟨t, ht, hrender⟩ := (Option.any_eq_true _ _).1 hrun
  obtain ⟨u, hu, htags, hprops⟩ := exists_noticeTemplate
  exact ⟨u, t, hu, htags, hprops, eq_ok_of_toOption ht, eq_ok_of_toOption (of_decide_eq_true hrender)⟩

end TemplateSet

end Templating
