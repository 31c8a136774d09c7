/-
Where the errors of a compilation point.

A fault is found in one of three places: between the delimiters of a region, in the words of an output or a tag, or at
the end of a source that has a block open. The first two are told at the start of the region, the last at the end of
the source. The compilation of a page compiles the templates of components on the way, and their faults go through it
unchanged: the name and the position of an error belong to the same source.

- `exists_opening_of_error`: a region that cannot be read starts with an opening delimiter.
- `read_error`: what cannot be read of a token is told at the token.
- `obtain_malformed_place`: so a compile error names the page or a component template below it, and its position is
  that of an opening delimiter in the source of that template, or that of the end for a block that is not closed.
-/
import Templating.Proofs.ComponentTree
import Templating.Proofs.DepthLimit
import Templating.Proofs.LineIndex
import Templating.Proofs.TokenPlaces

namespace Templating

namespace Template

variable {text : List Char} {position : Position} {fault : SyntaxFault}

/-! ## Regions -/

/-- an output, a tag or a comment starts at the offset: the reading of the source comes there, and there stands an
opening delimiter -/
def OpensAt (source : List Char) (offset : Nat) : Prop :=
  ∃ front d body, source = front ++ '\x7b' :: d :: body ∧ (Delimiter.ofChar? d).isSome ∧
    Outside ('\x7b' :: d :: body) front ∧ offset = byteLength front

/-- where a region starts, read or not, there is an opening delimiter -/
theorem opensAt_of_regionAt? {front rest : List Char} {read : Except SyntaxFault (Region × List Char)}
    (hout : Outside rest front) (h : regionAt? position rest = some read) :
    OpensAt (front ++ rest) (byteLength front) := by
  unfold regionAt? at h
  split at h
  · next d body =>
    obtain ⟨delimiter, hdelimiter, -⟩ := Option.map_eq_some_iff.1 h
    exact ⟨front, d, body, rfl, Option.isSome_iff_exists.2 ⟨delimiter, hdelimiter⟩, hout, rfl⟩
  · cases h

/-- **A region that cannot be read** is one to which the reading comes. -/
theorem exists_opening_of_error {p : Position} (h : regionsAfter 0 p text = .error (position, fault)) :
    ∃ front rest, text = front ++ rest ∧ Outside rest front ∧ position = p.after front ∧
      regionAt? position rest = some (.error fault) := by
  induction hlength : text.length using Nat.strongRecOn generalizing p text with
  | ind n ih =>
    subst hlength
    cases text with
    | nil => cases h
    | cons c rest =>
      cases hregion : regionAt? p (c :: rest) with
      | none =>
        rw [regionsAfter_char hregion] at h
        obtain ⟨front, behind, rfl, hout, hposition, hfault⟩ := ih _ (Nat.lt_succ_self _) (map_eq_error.1 h) rfl
        exact ⟨c :: front, behind, rfl, .char (regionAt?_eq_none_iff.2 (regionAt?_eq_none_iff.1 hregion)) hout,
          hposition, hfault⟩
      | some read =>
        rcases read with found | ⟨region, left⟩
        · rw [regionsAfter, hregion] at h
          cases h
          exact ⟨[], c :: rest, rfl, .here, rfl, hregion⟩
        · obtain ⟨piece, hpiece, hisRegion, hplaced, -⟩ := exists_piece hregion
          rw [hpiece] at h ⊢
          rw [regionsAfter_piece hisRegion] at h
          have hshort : left.length < (c :: rest).length := by
            have hne := List.length_pos_iff.2 hisRegion.ne_nil
            rw [hpiece, List.length_append]
            omega
          obtain ⟨front, behind, rfl, hout, hposition, hfault⟩ := ih _ hshort (map_eq_error.1 h) rfl
          refine ⟨piece ++ front, behind, by rw [List.append_assoc], .region (hisRegion _ _) hout, ?_, hfault⟩
          rwa [Position.after_append]

/-- the fault is where it belongs in the source: at an opening delimiter, or at the end for a block that is not
closed -/
def FaultIn (source : List Char) (position : Position) (fault : SyntaxFault) : Prop :=
  ∃ offset, position = positionAt source offset ∧
    (OpensAt source offset ∨ offset = byteLength source ∧ ∃ ends, fault = .blockNotClosed ends)

/-- a region that cannot be read is a fault where it starts -/
theorem faultIn_of_tokens {source : String} (h : tokens source = .error (position, fault)) :
    FaultIn source.toList position fault := by
  obtain ⟨front, rest, htext, hout, rfl, hregion⟩ := exists_opening_of_error (map_eq_error.1 h)
  rw [htext]
  exact ⟨byteLength front, (positionAt_front front rest).symm, .inl (opensAt_of_regionAt? hout hregion)⟩

/-- so is anything that is told at the position of a token -/
theorem faultIn_of_token {source : String} {all : List Token} (h : tokens source = .ok all) {token : Token}
    (hmem : token ∈ all) {code : Position × List Char} (hcode : token.code? = some code) (fault : SyntaxFault) :
    FaultIn source.toList code.1 fault := by
  obtain ⟨front, rest, region, left, htext, hout, hposition, hregion, -⟩ := exists_tokenAt h hmem hcode
  rw [htext, hposition]
  exact ⟨byteLength front, (positionAt_front front rest).symm, .inl (opensAt_of_regionAt? hout hregion)⟩

theorem faultIn_end (source : String) (ends : List String) :
    FaultIn source.toList (endOf source) (.blockNotClosed ends) := by
  have hend := positionAt_front source.toList []
  rw [List.append_nil] at hend
  exact ⟨byteLength source.toList, hend.symm, .inr ⟨rfl, ends, rfl⟩⟩

end Template

/-! ## Words of tags -/

/-- a step that tells its faults at the site -/
def FailsAt {α : Type} (site : Site) (x : Except TemplateError α) : Prop :=
  ∀ e, x = .error e → ∃ fault, e = .malformed site fault

section

variable {α β : Type} {site : Site}

theorem failsAt_ok (a : α) : FailsAt site (.ok a : Except TemplateError α) := by
  intro e h
  cases h

theorem failsAt_malformed (fault : SyntaxFault) :
    FailsAt site (.error (.malformed site fault) : Except TemplateError α) := by
  intro e h
  cases h
  exact ⟨fault, rfl⟩

theorem FailsAt.bind {x : Except TemplateError α} {f : α → Except TemplateError β} (hx : FailsAt site x)
    (hf : ∀ a, x = .ok a → FailsAt site (f a)) : FailsAt site (x >>= f) := by
  intro e h
  rcases bind_eq_error.1 h with h | ⟨a, ha, h⟩
  · exact hx e h
  · exact hf a ha e h

theorem FailsAt.map {x : Except TemplateError α} (hx : FailsAt site x) (f : α → β) : FailsAt site (x.map f) :=
  fun e h => hx e (map_eq_error.1 h)

theorem failsAt_read (a : Arguments) (reader : Expr.Reader α) : FailsAt a.site (a.read reader).1 := by
  rw [Arguments.read_eq]
  rcases reader.read a.words with ⟨fault | result, words⟩
  · exact failsAt_malformed fault
  · exact failsAt_ok result

theorem failsAt_readAll (a : Arguments) (reader : Expr.Reader α) : FailsAt a.site (a.readAll reader) :=
  failsAt_read a reader

theorem read_site (a : Arguments) (reader : Expr.Reader α) : (a.read reader).2.site = a.site := by
  rw [Arguments.read_eq, Arguments.move]

theorem failsAt_ofText (site : Site) (text : String) : FailsAt site (Arguments.ofText site text) := by
  unfold Arguments.ofText
  cases Expr.tokens text.toList with
  | ok words => exact failsAt_ok _
  | error fault => exact failsAt_malformed fault

theorem ofText_site {text : String} {a : Arguments} (h : Arguments.ofText site text = .ok a) : a.site = site := by
  unfold Arguments.ofText at h
  cases hwords : Expr.tokens text.toList with
  | error fault => rw [hwords] at h; cases h
  | ok words => rw [hwords] at h; cases h; rfl

end

namespace Template

variable {c : Context} {b : Blocks} {arguments : Arguments}

theorem failsAt_noArguments (arguments : Arguments) : FailsAt arguments.site (noArguments arguments) := by
  unfold noArguments
  split_ifs
  · exact failsAt_ok ()
  · exact failsAt_malformed _

theorem failsAt_finish (block : Block) (tag : String) (arguments : Arguments) (nodes : List Node) :
    FailsAt arguments.site (block.finish tag arguments nodes) := by
  have hnone {α : Type} (x : Except TemplateError α) (hx : FailsAt arguments.site x) :
      FailsAt arguments.site (noArguments arguments >>= fun _ => x) :=
    (failsAt_noArguments arguments).bind fun _ _ => hx
  cases block with
  | arm position done condition =>
    simp only [Block.finish]
    split_ifs
    · exact (failsAt_readAll arguments _).bind fun next _ => failsAt_ok _
    · exact hnone _ (failsAt_ok _)
    · exact hnone _ (failsAt_ok _)
  | loop position head =>
    simp only [Block.finish]
    split_ifs <;> exact hnone _ (failsAt_ok _)
  | component use template body slots =>
    simp only [Block.finish]
    split_ifs
    · exact hnone _ (failsAt_ok _)
    · refine (failsAt_readAll arguments _).bind fun name _ => ?_
      cases name with
      | none => exact failsAt_malformed _
      | some name => exact failsAt_ok _
  | custom tag use closing => exact failsAt_ok _
  | _ => exact hnone _ (failsAt_ok _)

theorem failsAt_close (b : Blocks) (frame : Frame) (outer : List Frame) (tag : String) (arguments : Arguments) :
    FailsAt arguments.site (b.close frame outer tag arguments) := by
  refine (failsAt_finish frame.block tag arguments b.nodes).bind fun closing _ => ?_
  cases closing <;> exact failsAt_ok _

/-- a component tag tells its faults at the tag, also those that its component's template comes to -/
theorem failsAt_componentTag (c : Context) (position : Position) (arguments : Arguments) :
    FailsAt arguments.site (c.componentTag position arguments) ∧
      ∀ tag, c.componentTag position arguments = .ok tag → tag.arguments.site = arguments.site := by
  have hread := failsAt_read arguments Expr.acceptString
  have hsite := read_site arguments Expr.acceptString
  unfold Context.componentTag
  generalize arguments.read Expr.acceptString = result at hread hsite
  obtain ⟨named, behind⟩ := result
  dsimp only at hread hsite ⊢
  rw [← hsite] at hread ⊢
  constructor
  · refine hread.bind fun name _ => ?_
    cases name with
    | none => exact failsAt_malformed _
    | some name =>
      dsimp only
      cases c.registry.get? name with
      | none => exact failsAt_malformed _
      | some component => exact failsAt_ok _
  · intro tag h
    obtain ⟨name, -, h⟩ := bind_eq_ok.1 h
    cases name with
    | none => cases h
    | some name =>
      dsimp only at h
      cases hget : c.registry.get? name <;> rw [hget] at h <;> cases h
      rfl

theorem failsAt_openTag (c : Context) (b : Blocks) (tag : Tag) (position : Position) (arguments : Arguments) :
    FailsAt arguments.site (c.openTag b tag position arguments) := by
  have hread {α : Type} (reader : Expr.Reader α) (f : α → Reading) :
      FailsAt arguments.site (arguments.readAll reader >>= fun a => .ok (f a)) :=
    (failsAt_readAll arguments reader).bind fun _ _ => failsAt_ok _
  cases tag with
  | fragment =>
    refine (failsAt_readAll arguments _).bind fun name _ => ?_
    cases name with
    | none => exact failsAt_malformed _
    | some name => exact failsAt_ok _
  | component => exact (failsAt_componentTag c position arguments).1.map _
  | custom tag =>
    refine FailsAt.map ?_ _
    unfold Context.customTag
    dsimp only
    split
    · exact failsAt_malformed _
    · split <;> exact failsAt_ok _
  | _ => exact hread _ _

theorem failsAt_readTag (c : Context) (b : Blocks) (name : String) (position : Position) (arguments : Arguments) :
    FailsAt arguments.site (c.readTag b name position arguments) := by
  have hstart : FailsAt arguments.site (c.startTag b name position arguments) := by
    unfold Context.startTag
    cases c.tags.get? name with
    | none => exact failsAt_malformed _
    | some tag => exact failsAt_openTag c b tag position arguments
  unfold Context.readTag
  split
  · split_ifs
    · exact (failsAt_close b _ _ name arguments).map _
    · exact hstart
  · exact hstart

/-- **What cannot be read of a token** is told at the token. -/
theorem read_error {token : Token} {e : TemplateError} (h : c.read b token = .error e) :
    ∃ code fault, token.code? = some code ∧ e = .malformed ⟨c.template, code.1⟩ fault := by
  cases token with
  | text text => cases h
  | output expr position =>
    have hread : FailsAt ⟨c.template, position⟩ (c.read b (.output expr position)) := by
      refine (failsAt_ofText _ expr).bind fun arguments harguments => ?_
      rw [← ofText_site harguments]
      exact (failsAt_readAll arguments _).bind fun e _ => failsAt_ok _
    obtain ⟨fault, hfault⟩ := hread e h
    exact ⟨_, fault, rfl, hfault⟩
  | tag name args position =>
    have hread : FailsAt ⟨c.template, position⟩ (c.read b (.tag name args position)) := by
      refine (failsAt_ofText _ args).bind fun arguments harguments => ?_
      rw [← ofText_site harguments]
      exact failsAt_readTag c b name position arguments
    obtain ⟨fault, hfault⟩ := hread e h
    exact ⟨_, fault, rfl, hfault⟩

/-- a tag that waits for the template of its component tells its faults at the tag too -/
theorem read_component_site {token : Token} {tag : ComponentTag} (h : c.read b token = .ok (.component tag)) :
    ∃ code, token.code? = some code ∧ tag.arguments.site = ⟨c.template, code.1⟩ := by
  cases token with
  | text text => cases h
  | output expr position =>
    obtain ⟨_, -, h⟩ := bind_eq_ok.1 h
    obtain ⟨_, -, h⟩ := bind_eq_ok.1 h
    cases h
  | tag name args position =>
    obtain ⟨arguments, harguments, h⟩ := bind_eq_ok.1 h
    rcases readTag_cases h with ⟨_, _, _, -, -, -, hready⟩ | ⟨opening, -, h⟩
    · cases hready
    · obtain ⟨-, htag⟩ := openTag_component h
      refine ⟨_, rfl, ?_⟩
      rw [(failsAt_componentTag c position arguments).2 tag htag, ofText_site harguments]

theorem failsAt_block (tag : ComponentTag) (t : Template) : FailsAt tag.arguments.site (tag.block t) :=
  (failsAt_readAll tag.arguments componentArguments).bind fun _ _ => failsAt_ok _

end Template

/-! ## Compilations -/

namespace Compile

variable {α β : Type} {P : TemplateError → Prop}

/-- a compilation whose errors are all of a kind, whatever the cache holds -/
def FailsBy (P : TemplateError → Prop) (x : Compile α) : Prop :=
  ∀ cache e, (x.outcome cache).1 = .error e → P e

theorem failsBy_ofExcept {x : Except TemplateError α} (h : ∀ e, x = .error e → P e) : FailsBy P (ofExcept x) :=
  fun _ e he => h e he

theorem failsBy_throw {e : TemplateError} (h : P e) : FailsBy P (throw e : Compile α) := by
  intro cache e' he
  cases he
  exact h

theorem failsBy_pure (a : α) : FailsBy P (pure a) := by
  intro cache e h
  cases h

theorem FailsBy.bind {x : Compile α} {f : α → Compile β} (hx : FailsBy P x) (hf : ∀ a, FailsBy P (f a)) :
    FailsBy P (x >>= f) := by
  intro cache e h
  have hfirst := hx cache
  rw [outcome_bind] at h
  generalize x.outcome cache = out at h hfirst
  rcases out with ⟨e' | a, cache'⟩
  · cases h
    exact hfirst e rfl
  · exact hf a cache' e h

theorem FailsBy.mono {Q : TemplateError → Prop} {x : Compile α} (hx : FailsBy P x) (h : ∀ e, P e → Q e) :
    FailsBy Q x :=
  fun cache e he => h e (hx cache e he)

theorem failsBy_foldlM {f : β → α → Compile β} {l : List α} (h : ∀ a ∈ l, ∀ b, FailsBy P (f b a)) (b : β) :
    FailsBy P (l.foldlM f b) := by
  induction l generalizing b with
  | nil => exact failsBy_pure b
  | cons a l ih =>
    rw [List.foldlM_cons]
    exact (h a List.mem_cons_self b).bind (ih fun a ha => h a (List.mem_cons_of_mem _ ha))

/-- what can go wrong when a component tag is opened: it is told at the tag, or its template fails to compile -/
theorem FailsBy.openComponent {c : Template.Context} {tag : Template.ComponentTag}
    (hsite : ∀ fault, P (.malformed tag.arguments.site fault))
    (hcompile : ∀ compile, c.componentTemplate = some compile → FailsBy P (compile tag.component))
    (b : Template.Blocks) : FailsBy P (c.openComponent b tag) := by
  unfold Template.Context.openComponent
  cases hbelow : c.componentTemplate with
  | none => exact failsBy_throw (hsite _)
  | some compile =>
    refine (hcompile compile hbelow).bind fun found => ?_
    cases found with
    | none => exact failsBy_throw (hsite _)
    | some t =>
      refine FailsBy.bind (failsBy_ofExcept fun e he => ?_) fun block => failsBy_pure _
      obtain ⟨fault, rfl⟩ := Template.failsAt_block tag t e he
      exact hsite fault

end Compile

open Compile

namespace TemplateSet

variable {s : TemplateSet} {name source : String}

/-- a template of this name and source is compiled for a template of another: it is the same one, or that of the last
component of a chain of uses -/
def CompiledFor (s : TemplateSet) (name source own inner : String) : Prop :=
  (own = name ∧ inner = source) ∨
    ∃ chain c, s.Chain source (chain ++ [c]) ∧ own = s.templateName c ∧ s.componentSource c = .ok inner

/-- what is compiled for the template of a component that is used, is compiled for the template that uses it -/
theorem CompiledFor.use {c : Component} {inner own last : String} (hc : c ∈ s.uses source)
    (hinner : s.componentSource c = .ok inner) (h : s.CompiledFor (s.templateName c) inner own last) :
    s.CompiledFor name source own last := by
  rcases h with ⟨rfl, rfl⟩ | ⟨chain, d, hchain, hown, hlast⟩
  · exact .inr ⟨[], c, .cons hc hinner (.nil last), rfl, hinner⟩
  · exact .inr ⟨c :: chain, d, .cons hc hinner hchain, hown, hlast⟩

/-- a compile error, if it is one of syntax, points into a source that is compiled for the template -/
def PointsInto (s : TemplateSet) (name source : String) (e : TemplateError) : Prop :=
  ∀ site fault, e = .malformed site fault → ∃ inner, s.CompiledFor name source site.template inner ∧
    Template.FaultIn (s.preprocess inner).toList site.position fault

theorem pointsInto_self {position : Position} {fault : SyntaxFault}
    (h : Template.FaultIn (s.preprocess source).toList position fault) :
    s.PointsInto name source (.malformed ⟨name, position⟩ fault) := by
  rintro site fault' ⟨⟩
  exact ⟨source, .inl ⟨rfl, rfl⟩, h⟩

/-- the errors of a component that is used -/
theorem PointsInto.use {c : Component} {inner : String} {e : TemplateError} (hc : c ∈ s.uses source)
    (hinner : s.componentSource c = .ok inner) (h : s.PointsInto (s.templateName c) inner e) :
    s.PointsInto name source e := by
  intro site fault he
  obtain ⟨last, hlast, hfault⟩ := h site fault he
  exact ⟨last, hlast.use hc hinner, hfault⟩

theorem loadSource_not_malformed {site : Site} {fault : SyntaxFault} :
    s.loadSource source ≠ .error (.malformed site fault) := by
  unfold loadSource
  dsimp only
  split <;> simp

variable {compile : (name source : String) → Compile Template}

/-- a file that fails to compile has no source, or its source fails to compile -/
theorem compileFile_eq_error {name : String} {cache : Dict Template} {e : TemplateError}
    (h : ((s.compileFile compile name).outcome cache).1 = .error e) :
    s.loadSource (s.resolveName name) = .error e ∨
      ∃ source, s.loadSource (s.resolveName name) = .ok source ∧
        ((compile (s.resolveName name) source).outcome cache).1 = .error e := by
  rw [compileFile_outcome] at h
  cases hget : cache.get? (s.resolveName name) with
  | some t =>
    rw [hget] at h
    cases h
  | none =>
    rw [hget] at h
    cases hload : s.loadSource (s.resolveName name) with
    | error e' =>
      rw [hload] at h
      cases h
      exact .inl rfl
    | ok source =>
      rw [hload] at h
      refine .inr ⟨source, rfl, ?_⟩
      dsimp only at h
      generalize (compile (s.resolveName name) source).outcome cache = out at h ⊢
      rcases out with ⟨e' | t, cache'⟩
      · exact h
      · cases h

/-- the errors of a component's template, when the errors of sources are known -/
theorem compileComponent_pointsInto (h : ∀ name source, FailsBy (s.PointsInto name source) (compile name source))
    {c : Component} (hc : c ∈ s.uses source) : FailsBy (s.PointsInto name source) (s.compileComponent compile c) := by
  unfold compileComponent
  cases hsource : c.source with
  | file path =>
    have hname : s.templateName c = s.resolveName path := by rw [templateName, hsource]
    have hinner : s.componentSource c = s.loadSource (s.resolveName path) := by rw [componentSource, hsource]
    dsimp only
    split_ifs
    · exact failsBy_pure none
    · refine FailsBy.bind (fun cache e he => ?_) fun t => failsBy_pure (some t)
      rcases compileFile_eq_error he with hload | ⟨inner, hload, hcompile⟩
      · rintro site fault rfl
        exact absurd hload loadSource_not_malformed
      · have hpoints := h (s.resolveName path) inner cache e hcompile
        rw [← hname] at hpoints
        exact hpoints.use hc (hinner.trans hload)
  | inline inner =>
    have hname : s.templateName c = inlineTemplateName c.name := by rw [templateName, hsource]
    have hinner : s.componentSource c = .ok inner := by rw [componentSource, hsource]
    dsimp only
    split_ifs
    · exact failsBy_pure none
    · refine FailsBy.bind ((h (inlineTemplateName c.name) inner).mono fun e he => ?_) fun t => failsBy_pure (some t)
      rw [← hname] at he
      exact he.use hc hinner

/-- a token of a source that waits for the template of a component is a use of it -/
theorem mem_uses {c : Template.Context} (htags : c.tags = s.tags) (hregistry : c.registry = s.registry)
    {tokens : List Template.Token} (htokens : Template.tokens (s.preprocess source) = .ok tokens)
    {token : Template.Token} (htoken : token ∈ tokens) {b : Template.Blocks} {tag : Template.ComponentTag}
    (hread : c.read b token = .ok (.component tag)) : tag.component ∈ s.uses source := by
  obtain ⟨opening, args, rfl, hget, hwords, hcomponent⟩ := Template.read_component hread
  rw [htags] at hget
  rw [hregistry] at hcomponent
  rw [uses, htokens]
  exact List.mem_filterMap.2 ⟨_, htoken, by rw [componentOf?_tag_some hget hwords, hcomponent]⟩

/-- the errors of the component templates that a context offers point into the source, when its tags are those of it -/
def PointBelow (s : TemplateSet) (name source : String) (c : Template.Context) : Prop :=
  ∀ compile, c.componentTemplate = some compile → ∀ k ∈ s.uses source, FailsBy (s.PointsInto name source) (compile k)

theorem step_pointsInto {c : Template.Context} (hname : c.template = name) (htags : c.tags = s.tags)
    (hregistry : c.registry = s.registry) (hbelow : s.PointBelow name source c) {tokens : List Template.Token}
    (htokens : Template.tokens (s.preprocess source) = .ok tokens) {token : Template.Token} (htoken : token ∈ tokens)
    (b : Template.Blocks) : FailsBy (s.PointsInto name source) (c.step b token) := by
  -- whatever is told at the token is in its place
  have hat : ∀ code fault, token.code? = some code →
      s.PointsInto name source (.malformed ⟨c.template, code.1⟩ fault) := fun code fault hcode => by
    rw [hname]
    exact pointsInto_self (Template.faultIn_of_token htokens htoken hcode fault)
  intro cache e he
  rw [Template.Context.step, outcome_bind, outcome_ofExcept] at he
  cases hread : c.read b token with
  | error e' =>
    rw [hread] at he
    cases he
    obtain ⟨code, fault, hcode, rfl⟩ := Template.read_error hread
    exact hat code fault hcode
  | ok reading =>
    rw [hread] at he
    cases reading with
    | ready b' => cases he
    | component tag =>
      obtain ⟨code, hcode, hsite⟩ := Template.read_component_site hread
      have hk : tag.component ∈ s.uses source := mem_uses htags hregistry htokens htoken hread
      refine FailsBy.openComponent (P := s.PointsInto name source) (fun fault => ?_) ?_ b cache e he
      · rw [hsite]
        exact hat code fault hcode
      · exact fun compile hcompile => hbelow compile hcompile _ hk

/-- the errors of a source, when those of the component templates below it are known -/
theorem compileSource_pointsInto {c : Template.Context} (hname : c.template = name) (htags : c.tags = s.tags)
    (hregistry : c.registry = s.registry) (hbelow : s.PointBelow name source c) :
    FailsBy (s.PointsInto name source) (s.compileSource c source) := by
  unfold compileSource
  dsimp only
  cases htokens : Template.tokens (s.preprocess source) with
  | error fault =>
    obtain ⟨position, fault⟩ := fault
    rw [hname]
    exact failsBy_throw (pointsInto_self (Template.faultIn_of_tokens htokens))
  | ok tokens =>
    refine FailsBy.bind (FailsBy.bind ?_ fun b => failsBy_ofExcept fun e he => ?_) fun b => failsBy_pure _
    · exact failsBy_foldlM (fun token htoken => step_pointsInto hname htags hregistry hbelow htokens htoken) _
    · unfold Template.Context.finish at he
      split at he
      · cases he
      · cases he
        rw [hname]
        exact pointsInto_self (Template.faultIn_end _ _)

/-- **The errors of a source** point into it, or into that of a component template below it. -/
theorem compileWithin_pointsInto (s : TemplateSet) (levels : Nat) (name source : String) :
    FailsBy (s.PointsInto name source) (s.compileWithin levels name source) := by
  induction levels generalizing name source with
  | zero =>
    refine compileSource_pointsInto rfl rfl rfl fun compile hcompile => ?_
    cases hcompile
  | succ levels ih =>
    refine compileSource_pointsInto rfl rfl rfl fun compile hcompile k hk => ?_
    cases hcompile
    exact compileComponent_pointsInto ih hk

/-- **A compile error points into the right source**, whatever is cached. Its template is the one that is asked for or
that of a component which is reached from it through component uses, and its position, in the preprocessed source of
that template, is the line and the column of an offset: one where an output, a tag or a comment starts, or that of the
end, and then the fault is a block that is not closed. -/
theorem obtain_malformed_place (s : TemplateSet) (request : Request) (site : Site) (fault : SyntaxFault)
    (h : (s.obtain request).1 = .error (.malformed site fault)) :
    ∃ source inner, s.requestSource request = .ok source ∧
      ((site.template = s.requestName request ∧ inner = source) ∨
        ∃ chain c, s.Chain source (chain ++ [c]) ∧ site.template = s.templateName c ∧
          s.componentSource c = .ok inner) ∧
      ∃ offset, site.position = positionAt (s.preprocess inner).toList offset ∧
        (Template.OpensAt (s.preprocess inner).toList offset ∨
          offset = byteLength (s.preprocess inner).toList ∧ ∃ ends, fault = .blockNotClosed ends) := by
  have hpoints := s.compileWithin_pointsInto s.options.maxDepth
  cases request with
  | file name =>
    rcases compileFile_eq_error h with hload | ⟨source, hload, hcompile⟩
    · exact absurd hload loadSource_not_malformed
    · obtain ⟨inner, hcompiled, hfault⟩ := hpoints _ _ _ _ hcompile site fault rfl
      exact ⟨source, inner, hload, hcompiled, hfault⟩
  | text source =>
    obtain ⟨inner, hcompiled, hfault⟩ := hpoints stringTemplateName source _ _ h site fault rfl
    exact ⟨source, inner, rfl, hcompiled, hfault⟩

/-- a component whose second line breaks off -/
def brokenSet : TemplateSet :=
  (new (.memory .empty) { Options.standard with maxDepth := 3 }).register
    ⟨"broken", .inline "a\n\x7b\x7b x. \x7d\x7d", [], none⟩

/-- a page that uses it -/
def brokenPage : String := "\x7b% if x %\x7d<x-broken/>\x7b% endif %\x7d"

theorem obtain_malformed_place_broken :
    let site : Site := ⟨"<component broken>", ⟨2, 1, 0⟩⟩
    (brokenSet.obtain (.text brokenPage)).1 = .error (.malformed site .memberNameMissing) ∧
      ∃ inner chain c offset, brokenSet.Chain brokenPage (chain ++ [c]) ∧ site.template = brokenSet.templateName c ∧
        brokenSet.componentSource c = .ok inner ∧
        site.position = positionAt (brokenSet.preprocess inner).toList offset ∧
        Template.OpensAt (brokenSet.preprocess inner).toList offset := by
  intro site
  have hname : (brokenSet.obtain (.text brokenPage)).1.map (·.name) = .error (.malformed site .memberNameMissing) := by
    decide +kernel
  have hobtain := map_eq_error.1 hname
  obtain ⟨source, inner, hsource, hcompiled, offset, hposition, hplace⟩ :=
    obtain_malformed_place brokenSet (.text brokenPage) site .memberNameMissing hobtain
  cases hsource
  rcases hcompiled with ⟨htemplate, -⟩ | ⟨chain, c, hchain, htemplate, hinner⟩
  · exact absurd htemplate (by decide)
  · rcases hplace with hopens | ⟨-, ends, hends⟩
    · exact ⟨hobtain, inner, chain, c, offset, hchain, htemplate, hinner, hposition, hopens⟩
    · cases hends

end TemplateSet

end Templating
