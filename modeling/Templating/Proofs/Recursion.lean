/-
No component is compiled inside itself.

Going down a chain of component uses, the templates compile with fewer and fewer levels. A chain that led back to where
it began could be followed again with fewer levels each time, so there is none in what compiles; and since a name
stands for one component, no name comes up twice in a chain.

- `fresh_of_chain`: what a chain does to the levels.
- `not_chain_to_itself`: so no chain leads back to the source that it starts in.
- `ends_without_recursion`: every compilation ends, and what a set gives holds no recursion, whatever was compiled
  before.
-/
import Templating.Proofs.CompilationRules
import Templating.Proofs.DepthLimit

namespace Templating

/-! ## Names of components -/

/-- every component is found under its own name -/
def Registry.Named (r : Registry) : Prop :=
  ∀ name c, r.get? name = some c → c.name = name

namespace Registry.Named

variable {r : Registry}

theorem register (h : r.Named) (c : Component) : (r.register c).Named := by
  intro name d hd
  rw [Registry.register, Dict.get?_insert] at hd
  split_ifs at hd with hname
  · cases hd
    exact hname.symm
  · exact h name d hd

theorem registerFiles (h : r.Named) (dir lead : String) (ext : Option String) (files : List String) :
    (r.registerFiles dir lead ext files).2.Named := by
  induction files generalizing r with
  | nil => exact h
  | cons file files ih =>
    rw [Registry.registerFiles]
    cases DirectoryScan.component (Path.trimSlashes dir.toList) lead (Path.bareExtension? ext) file with
    | ok c => exact ih (h.register c)
    | error fault => exact h

end Registry.Named

namespace TemplateSet

variable {s : TemplateSet}

/-- an operation leaves every component under its own name -/
theorem apply_named (h : s.registry.Named) (op : Operation) : (op.apply s).registry.Named := by
  cases op with
  | register c => exact h.register c
  | registerDirectory dir lead =>
    simp only [Operation.apply, registerDirectory]
    cases s.loader.list (String.ofList (Path.trimSlashes dir.toList)) with
    | ok files => exact h.registerFiles dir lead _ files
    | error fault => exact h
  | addPass pass => exact h
  | clearCache => exact h
  | obtain request =>
    obtain ⟨cache, hset⟩ := Operation.obtain_set s request
    rw [Operation.apply, hset]
    exact h
  | render request data =>
    obtain ⟨cache, hset⟩ := Operation.obtain_set s request
    rw [Operation.apply, Operation.render_set, hset]
    exact h

/-- a set that operations made of a new one has every component under its own name -/
theorem after_named (loader : Loader) (options : Options) (ops : List Operation) :
    ((new loader options).after ops).registry.Named := by
  have hstart : (new loader options).registry.Named := by
    intro name c hc
    simp [new] at hc
  generalize new loader options = s at hstart
  induction ops generalizing s with
  | nil => exact hstart
  | cons op ops ih => exact ih _ (apply_named hstart op)

/-! ## Chains of uses -/

variable {source inner : String} {chain rest : List Component} {c : Component}

/-- a component that a source uses is the one of its name -/
theorem get?_of_mem_uses (hnamed : s.registry.Named) (hc : c ∈ s.uses source) : s.registry.get? c.name = some c := by
  unfold uses at hc
  cases htokens : Template.tokens (s.preprocess source) with
  | error fault => simp [htokens] at hc
  | ok tokens =>
    rw [htokens] at hc
    obtain ⟨token, -, htoken⟩ := List.mem_filterMap.1 hc
    unfold componentOf? at htoken
    split at htoken
    · split at htoken
      · next hget => rw [hnamed _ _ htoken, htoken]
      · cases htoken
    · cases htoken

theorem Chain.get? (hnamed : s.registry.Named) (hchain : s.Chain source chain) (hc : c ∈ chain) :
    s.registry.get? c.name = some c := by
  induction hchain with
  | nil => simp at hc
  | cons hhead _ _ ih =>
    rcases List.mem_cons.1 hc with rfl | hc
    · exact get?_of_mem_uses hnamed hhead
    · exact ih hc

/-- the beginning of a chain is one -/
theorem Chain.left (hchain : s.Chain source (chain ++ rest)) : s.Chain source chain := by
  induction chain generalizing source with
  | nil => exact .nil source
  | cons head chain ih =>
    cases hchain with
    | cons hhead hinner hrest => exact .cons hhead hinner (ih hrest)

/-- **What a chain does to the levels**: the template of its last component compiles with fewer of them. -/
theorem fresh_of_chain (htags : s.tags = Template.builtinTags) {n : Nat} {name : String} {t : Template}
    (ht : s.fresh n name source = .ok t) (hchain : s.Chain source (chain ++ [c])) :
    ∃ inner m own u, m < n ∧ s.componentSource c = .ok inner ∧ s.fresh m own inner = .ok u := by
  induction chain generalizing source n name t with
  | nil =>
    cases hchain with
    | cons hc _ _ => exact source_of_mem_uses htags ht hc
  | cons head chain ih =>
    cases hchain with
    | cons hhead hinner hrest =>
      obtain ⟨inner, m, own, u, hlt, hinner', hu⟩ := source_of_mem_uses htags ht hhead
      rw [hinner] at hinner'
      cases hinner'
      obtain ⟨last, k, own', v, hlt', hlast, hv⟩ := ih hu hrest
      exact ⟨last, k, own', v, hlt'.trans hlt, hlast, hv⟩

/-- **No chain leads back to the source that it starts in**, when the source compiles. -/
theorem not_chain_to_itself (htags : s.tags = Template.builtinTags) {n : Nat} {name : String} {t : Template}
    (ht : s.fresh n name source = .ok t) (hchain : s.Chain source (chain ++ [c])) :
    s.componentSource c ≠ .ok source := by
  -- once around, the source compiles with fewer levels than before
  induction n using Nat.strong_induction_on generalizing name t with
  | h n ih =>
    intro hback
    obtain ⟨inner, m, own, u, hlt, hinner, hu⟩ := fresh_of_chain htags ht hchain
    rw [hback] at hinner
    cases hinner
    exact ih m hlt hu hback

/-- no component of a chain comes back to the source -/
theorem Chain.leaves (htags : s.tags = Template.builtinTags) {n : Nat} {name : String} {t : Template}
    (ht : s.fresh n name source = .ok t) (hchain : s.Chain source chain) (hc : c ∈ chain) :
    s.componentSource c ≠ .ok source := by
  obtain ⟨before, behind, rfl⟩ := List.append_of_mem hc
  rw [← List.singleton_append, ← List.append_assoc] at hchain
  exact not_chain_to_itself htags ht hchain.left

/-- **No name comes up twice in a chain**, when the source that it starts in compiles. -/
theorem Chain.nodup (htags : s.tags = Template.builtinTags) (hnamed : s.registry.Named) {n : Nat} {name : String}
    {t : Template} (ht : s.fresh n name source = .ok t) (hchain : s.Chain source chain) :
    (chain.map Component.name).Nodup := by
  induction hchain generalizing n name t with
  | nil => exact List.nodup_nil
  | @cons source inner c rest hc hinner hrest ih =>
    obtain ⟨inner', m, own, u, -, hinner', hu⟩ := source_of_mem_uses htags ht hc
    rw [hinner] at hinner'
    cases hinner'
    rw [List.map_cons, List.nodup_cons]
    refine ⟨fun hmem => ?_, ih hu⟩
    obtain ⟨d, hd, hname⟩ := List.mem_map.1 hmem
    have hsame : some d = some c := by
      rw [← hrest.get? hnamed hd, hname, get?_of_mem_uses hnamed hc]
    cases hsame
    exact hrest.leaves htags hu hd hinner

/-- **Compilation ends, and nothing recursive compiles.** The compilation of any source in any set comes to exactly one
end by the rules, at any depth, and `compile` computes it. After any operations on a new set, in no chain of component
uses that starts in a template which the set gives does a name come up twice, and no chain comes back to that
template. -/
theorem ends_without_recursion :
    (∀ (s : TemplateSet) (depth : Nat) (name source : String) (cache : Dict Template),
      ∃! out, s.SourceEnds depth name source cache out) ∧
    (∀ (s : TemplateSet) (name source : String) (cache : Dict Template),
      s.SourceEnds 0 name source cache ((s.compile name source).outcome cache)) ∧
    ∀ (loader : Loader) (options : Options) (ops : List Operation) (request : Request) (t : Template),
      let s := (new loader options).after ops
      (s.obtain request).1 = .ok t →
        ∃ source, s.requestSource request = .ok source ∧ ∀ chain, s.Chain source chain →
          (chain.map Component.name).Nodup ∧ ∀ c ∈ chain, s.componentSource c ≠ .ok source := by
  refine ⟨existsUnique_sourceEnds, fun s name source cache => ?_, fun loader options ops request t => ?_⟩
  · exact (sourceEnds_iff s s.options.maxDepth (Nat.zero_add _) name source cache _).2 rfl
  · intro s ht
    have htags : s.tags = Template.builtinTags := Operation.after_tags _ ops
    have hnamed : s.registry.Named := after_named loader options ops
    obtain ⟨source, hsource, levels, hfresh⟩ :=
      obtain_fresh (after_noHostTags loader options ops) (new_after_coherent loader options ops) ht
    refine ⟨source, hsource, fun chain hchain => ⟨hchain.nodup htags hnamed hfresh, fun c hc => ?_⟩⟩
    exact hchain.leaves htags hfresh hc

/-- a list that shows an icon for each item -/
def listSource : String :=
  "\x7b% for x in xs %\x7d\x7b% component \"icon\" %\x7d\x7b% endcomponent %\x7d\x7b% endfor %\x7d"

/-- the list and the icon are registered -/
def registerList : List Operation :=
  [.register ⟨"list", .inline listSource, [], none⟩, .register ⟨"icon", .inline "*", [], none⟩]

/-- a page that shows the list when there are items -/
def listPage : String := "\x7b% if xs %\x7d\x7b% component \"list\" %\x7d\x7b% endcomponent %\x7d\x7b% endif %\x7d"

/-- the set of the list, without component markup -/
def listSet : TemplateSet :=
  (new (.memory .empty) { Options.standard with tagPrefix := none, maxDepth := 3 }).after registerList

theorem ends_without_recursion_list :
    (∃ t, (listSet.obtain (.text listPage)).1 = .ok t) ∧
      ∃ list icon, listSet.Chain listPage [list, icon] ∧ ([list, icon].map Component.name).Nodup ∧
        listSet.componentSource icon ≠ .ok listPage := by
  obtain ⟨t, ht⟩ : ∃ t, (listSet.obtain (.text listPage)).1 = .ok t := exists_eq_ok_of_isOk (by decide +kernel)
  obtain ⟨list, hlist, hinner⟩ :
      ∃ k ∈ listSet.uses listPage, (listSet.componentSource k).toOption = some listSource := by decide +kernel
  obtain ⟨icon, hicon, hlast⟩ :
      ∃ k ∈ listSet.uses listSource, (listSet.componentSource k).toOption = some "*" := by decide +kernel
  have hchain : listSet.Chain listPage [list, icon] :=
    .cons hlist (eq_ok_of_toOption hinner) (.cons hicon (eq_ok_of_toOption hlast) (.nil "*"))
  obtain ⟨source, hsource, hchains⟩ := ends_without_recursion.2.2 _ _ registerList (.text listPage) t ht
  cases hsource
  obtain ⟨hnodup, hleaves⟩ := hchains [list, icon] hchain
  exact ⟨⟨t, ht⟩, list, icon, hchain, hnodup, hleaves icon (by simp)⟩

/-- an icon that shows the list again where nothing is given to it -/
def listInIcon : Component :=
  let source := "\x7b% slot %\x7d\x7b% component \"list\" %\x7d\x7b% endcomponent %\x7d\x7b% endslot %\x7d"
  ⟨"icon", .inline source, [], none⟩

example : ((listSet.register listInIcon).obtain (.text listPage)).1.isOk = false := by decide +kernel

end TemplateSet

end Templating
