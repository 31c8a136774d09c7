/-
Which file the components of a scanned directory are compiled from.

A scan takes the path of a file apart: the loader cuts off the directory, and the registry puts it in front again
behind its own trimming of slashes. What comes out is the path that the loader has (`join_mem`). A use of the component
then goes through name resolution like any name that a user writes, and a path without an extension does not survive
that.

- `DirectoryScan.stem_append`: at the end of a path the extension is cut off as it stands.
- `registerDirectory_eq_ok`: a scan succeeds when all of its files have components.
- `componentEnds_file`: the name under which the template of a component file is kept, and the path that is loaded.
- `withDefaultExtension_eq_iff`: the paths that name resolution leaves alone.
- `scanned_component_file`: so a scanned component is compiled from its own file exactly when the path has an extension
  or there is no default one.
- `scanned_file_without_extension`: a file that is scanned and cannot be used.
-/
import Mathlib.Data.List.DropRight
import Templating.Proofs.CompilationRules
import Templating.Proofs.DictLaws
import Templating.Proofs.LineIndex
import Templating.Proofs.Recursion

namespace Templating

/-! ## Paths of scanned files -/

namespace Path

/-- slashes are trimmed once -/
theorem trimSlashes_trimSlashes (path : List Char) : trimSlashes (trimSlashes path) = trimSlashes path := by
  have hprefix : trimSlashes path <+: path.dropWhile (· = '/') := List.rdropWhile_prefix _ _
  have hfront : (trimSlashes path).dropWhile (· = '/') = trimSlashes path := by
    cases htrim : trimSlashes path with
    | nil => rfl
    | cons c rest =>
      rw [htrim] at hprefix
      obtain ⟨behind, hbehind⟩ := hprefix
      have hc := List.head?_dropWhile_not (fun c : Char => decide (c = '/')) path
      rw [← hbehind] at hc
      exact List.dropWhile_cons_of_neg (by simpa using hc)
  have hback : (trimSlashes path).rdropWhile (· = '/') = trimSlashes path := List.rdropWhile_idempotent _ _
  calc trimSlashes (trimSlashes path)
      = ((trimSlashes path).dropWhile (· = '/')).rdropWhile (· = '/') := rfl
    _ = trimSlashes path := by rw [hfront, hback]

/-- **The paths that name resolution leaves alone** have an extension, unless there is none to add. -/
theorem withDefaultExtension_eq_iff {ext : Option String} {path : String} :
    withDefaultExtension ext path = path ↔ bareExtension? ext = none ∨ (extension? path.toList).isSome := by
  unfold withDefaultExtension
  cases bareExtension? ext with
  | none => simp
  | some bare =>
    cases extension? path.toList with
    | none => simp [String.append_assoc]
    | some own => simp

end Path

namespace DirectoryScan

variable {dir relative : String} {paths : List String}

/-- **The path of a scanned file** is the one that it is listed for. -/
theorem pathsBelow_join (dir relative : String) :
    Loader.pathsBelow dir [String.ofList (join (Path.trimSlashes dir.toList) relative.toList)] = [relative] := by
  have hmark : ∀ lead, Text.afterMark? lead (lead ++ relative.toList) = some relative.toList := fun lead =>
    Text.afterMark?_eq_some.2 rfl
  unfold Loader.pathsBelow join
  dsimp only
  split
  · simp [Text.afterMark?]
  · have h := hmark (Path.trimSlashes dir.toList ++ ['/'])
    rw [List.append_assoc, List.singleton_append] at h
    simp [h]

/-- and it is one that the loader has -/
theorem join_mem (h : relative ∈ Loader.pathsBelow dir paths) :
    String.ofList (join (Path.trimSlashes dir.toList) relative.toList) ∈ paths := by
  unfold Loader.pathsBelow at h
  obtain ⟨path, hpath, hcut⟩ := List.mem_filterMap.1 h
  obtain ⟨behind, hmark, rfl⟩ := Option.map_eq_some_iff.1 hcut
  have hjoin : join (Path.trimSlashes dir.toList) behind = path.toList := by
    rw [← Text.afterMark?_eq_some.1 hmark]
    unfold join
    split <;> simp
  rw [String.toList_ofList, hjoin, String.ofList_toList]
  exact hpath

/-- the files below a directory do not depend on the slashes around its name -/
theorem pathsBelow_trimSlashes (dir : String) (paths : List String) :
    Loader.pathsBelow (String.ofList (Path.trimSlashes dir.toList)) paths = Loader.pathsBelow dir paths := by
  unfold Loader.pathsBelow
  rw [String.toList_ofList, Path.trimSlashes_trimSlashes]

end DirectoryScan

/-! ## Components of scanned files -/

namespace DirectoryScan

variable {dir stem : List Char} {lead : String} {ext : Option (List Char)} {relative : String} {c : Component}

/-- the component of a file whose path without the extension is `stem` -/
theorem component_eq_ok : component dir lead ext relative = .ok c ↔
    ∃ stem, DirectoryScan.stem ext relative.toList = .ok stem ∧
      c = ⟨String.ofList (componentName lead.toList stem), .file (String.ofList (join dir relative.toList)), [],
        none⟩ := by
  unfold component
  cases DirectoryScan.stem ext relative.toList <;> simp [bind, Except.bind, pure, Except.pure, eq_comm]

/-- **An extension at the end of a path** is cut off as it stands, whatever characters there are: bytes and characters
make no difference there. -/
theorem stem_append {bare front : List Char} (h : Path.extension? (front ++ '.' :: bare) = some bare) :
    DirectoryScan.stem (some bare) (front ++ '.' :: bare) = .ok front := by
  have hbyte : byteLength (front ++ '.' :: bare) - byteLength bare - 1 = byteLength front := by
    have hpoint : '.'.utf8Size = 1 := rfl
    rw [byteLength_append, byteLength_cons, hpoint]
    omega
  simp only [DirectoryScan.stem, h, if_true, hbyte, takeBytes?, takeBytes_front]

/-- slashes behind the extension are cut off in its place, and the cut can fall inside a character of it -/
example : DirectoryScan.stem (some ['é']) "a.é///".toList = .ok "a.é".toList ∧
    DirectoryScan.stem (some ['é']) "a.é//".toList = .error (.notBoundary 3) := ⟨rfl, rfl⟩

end DirectoryScan

namespace Registry

variable {r : Registry} {dir lead : String} {ext : Option String} {files : List String} {components : List Component}

/-- a scan of files that all have components registers these one after the other -/
theorem registerFiles_components
    (h : files.map (DirectoryScan.component (Path.trimSlashes dir.toList) lead (Path.bareExtension? ext)) =
      components.map .ok) : r.registerFiles dir lead ext files = (.ok (), components.foldl register r) := by
  induction files generalizing r components with
  | nil =>
    obtain rfl := List.map_eq_nil_iff.1 h.symm
    rfl
  | cons file files ih =>
    obtain ⟨c, components, rfl, hc, hrest⟩ := List.map_eq_cons_iff.1 h.symm
    rw [registerFiles, ← hc]
    exact ih hrest.symm

/-- a scan comes to an end when all of its files have components -/
theorem registerFiles_eq_ok : (r.registerFiles dir lead ext files).1 = .ok () ↔
    ∃ components : List Component,
      files.map (DirectoryScan.component (Path.trimSlashes dir.toList) lead (Path.bareExtension? ext)) =
        components.map .ok := by
  refine ⟨fun h => exists_map_ok_iff.2 ?_, fun ⟨components, h⟩ => by rw [registerFiles_components h]⟩
  induction files generalizing r with
  | nil => simp
  | cons file files ih =>
    rw [registerFiles] at h
    cases hc : DirectoryScan.component (Path.trimSlashes dir.toList) lead (Path.bareExtension? ext) file with
    | error fault => simp [hc] at h
    | ok c =>
      rw [hc] at h
      exact List.forall_mem_cons.2 ⟨⟨c, hc⟩, ih h⟩

/-- a name stands for the last component with that name, or for what it stood for before -/
theorem get?_foldl_register (r : Registry) (components : List Component) (name : String) :
    (components.foldl register r).get? name =
      (Dict.last name (components.map fun c => (c.name, c))).or (r.get? name) := by
  rw [← Dict.get?_insertEach, List.foldl_map]
  rfl

/-- the name of a component that is registered with others stands for the last of them with that name -/
theorem get?_foldl_register_last (r : Registry) {c : Component} (h : c ∈ components) :
    ∃ front other behind, components = front ++ other :: behind ∧ other.name = c.name ∧
      (∀ later ∈ behind, later.name ≠ c.name) ∧ (components.foldl register r).get? c.name = some other := by
  have hname : c.name ∈ (components.map fun c => (c.name, c)).map (·.1) :=
    List.mem_map.2 ⟨_, List.mem_map.2 ⟨c, h, rfl⟩, rfl⟩
  obtain ⟨other, hother⟩ := Option.isSome_iff_exists.1 (Dict.isSome_last.2 hname)
  obtain ⟨front, other, behind, hcomponents, hname, rfl, hbehind⟩ := Dict.last_map_eq_some.1 hother
  exact ⟨front, other, behind, hcomponents, hname, hbehind, by rw [get?_foldl_register, hother, Option.some_or]⟩

end Registry

namespace TemplateSet

variable {s : TemplateSet} {depth : Nat} {c : Component} {path source : String} {cache : Dict Template}

/-! ## Files of components -/

/-- the template of a file comes to its end: it is kept under `key`, or the source under `path` is compiled and kept -/
inductive FileEnds (s : TemplateSet) (depth : Nat) (key path : String) (cache : Dict Template) :
    Except TemplateError (Option Template) × Dict Template → Prop
  | kept {t} (hget : cache.get? key = some t) : FileEnds s depth key path cache (.ok (some t), cache)
  | missing {fault} (hget : cache.get? key = none) (hload : s.loader.load path = .error fault) :
    FileEnds s depth key path cache (.error (.load path fault), cache)
  | stopped {source e cache'} (hget : cache.get? key = none) (hload : s.loader.load path = .ok source)
    (hcompile : s.SourceEnds depth key source cache (.error e, cache')) :
    FileEnds s depth key path cache (.error e, cache')
  | compiled {source t cache'} (hget : cache.get? key = none) (hload : s.loader.load path = .ok source)
    (hcompile : s.SourceEnds depth key source cache (.ok t, cache')) :
    FileEnds s depth key path cache (.ok (some t), cache'.insert key t)

theorem loadSource_eq_ok : s.loadSource path = .ok source ↔ s.loader.load (s.resolveName path) = .ok source := by
  unfold loadSource
  dsimp only
  cases s.loader.load (s.resolveName path) <;> simp

theorem loadSource_eq_error {e : TemplateError} :
    s.loadSource path = .error e ↔
      ∃ fault, s.loader.load (s.resolveName path) = .error fault ∧ e = .load (s.resolveName path) fault := by
  unfold loadSource
  dsimp only
  cases s.loader.load (s.resolveName path) <;> simp [eq_comm]

/-- **The template of a component file** is kept under the resolved name, and loaded from that name resolved again. -/
theorem componentEnds_file (hsource : c.source = .file path) (hpath : path ≠ "")
    (out : Except TemplateError (Option Template) × Dict Template) :
    s.ComponentEnds depth c cache out ↔
      s.FileEnds depth (s.resolveName path) (s.resolveName (s.resolveName path)) cache out := by
  constructor
  · intro h
    cases h with
    | noFile hnone => simp_all
    | noText hinline => simp_all
    | inline hinline => simp_all
    | cached hfile _ hget =>
      cases hsource.symm.trans hfile
      exact .kept hget
    | missing hfile _ hget hload =>
      cases hsource.symm.trans hfile
      obtain ⟨fault, hfault, rfl⟩ := loadSource_eq_error.1 hload
      exact .missing hget hfault
    | fileStopped hfile _ hget hload hcompile =>
      cases hsource.symm.trans hfile
      exact .stopped hget (loadSource_eq_ok.1 hload) hcompile
    | file hfile _ hget hload hcompile =>
      cases hsource.symm.trans hfile
      exact .compiled hget (loadSource_eq_ok.1 hload) hcompile
  · intro h
    cases h with
    | kept hget => exact .cached hsource hpath hget
    | missing hget hload => exact .missing hsource hpath hget (loadSource_eq_error.2 ⟨_, hload, rfl⟩)
    | stopped hget hload hcompile => exact .fileStopped hsource hpath hget (loadSource_eq_ok.2 hload) hcompile
    | compiled hget hload hcompile => exact .file hsource hpath hget (loadSource_eq_ok.2 hload) hcompile

/-- a component without a path has no template -/
theorem componentEnds_noFile (hsource : c.source = .file "")
    (out : Except TemplateError (Option Template) × Dict Template) :
    s.ComponentEnds depth c cache out ↔ out = (.ok none, cache) :=
  ends_iff (.noFile hsource) (fun out hother => by cases hother <;> simp_all) out

/-- every use of a component takes its template from the file that is kept under `key` and loaded from `path` -/
def LoadsFrom (s : TemplateSet) (c : Component) (key path : String) : Prop :=
  ∀ depth cache out, s.ComponentEnds depth c cache out ↔ s.FileEnds depth key path cache out

/-- a file that is not kept is not found without a change of the cache -/
theorem FileEnds.not_kept {key other : String} {t : Template} (hnone : cache.get? key = none) :
    ¬s.FileEnds depth key other cache (.ok (some t), cache) := by
  intro h
  generalize hout : (Except.ok (some t), cache) = out at h
  cases h with
  | kept hkept =>
    rw [hnone] at hkept
    cases hkept
  | missing => cases hout
  | stopped => cases hout
  | @compiled _ u cache' _ _ _ =>
    obtain ⟨-, rfl⟩ := Prod.mk.inj hout
    simp [Dict.get?_insert] at hnone

/-- **A component file is loaded from its own path** exactly when name resolution leaves the path alone. -/
theorem loadsFrom_self_iff (hsource : c.source = .file path) :
    s.LoadsFrom c path path ↔ path ≠ "" ∧ s.resolveName path = path := by
  constructor
  · intro h
    -- a cache with a template under the path and nothing else tells the names apart
    let t : Template := ⟨"", "", [], [], .empty, []⟩
    let cache : Dict Template := Dict.empty.insert path t
    have hget : cache.get? path = some t := by simp [cache, Dict.get?_insert]
    have hends : s.ComponentEnds 0 c cache (.ok (some t), cache) := (h 0 cache _).2 (.kept hget)
    have hpath : path ≠ "" := by
      rintro rfl
      cases (componentEnds_noFile hsource _).1 hends
    refine ⟨hpath, ?_⟩
    by_contra hkey
    have hnone : cache.get? (s.resolveName path) = none := by simp [cache, Dict.get?_insert, hkey]
    exact FileEnds.not_kept hnone ((componentEnds_file hsource hpath _).1 hends)
  · rintro ⟨hpath, hresolve⟩ depth cache out
    rw [componentEnds_file hsource hpath, hresolve, hresolve]

/-- what compiles without a cache has the name and the source that it is compiled from -/
theorem fresh_source {levels : Nat} {name : String} {t : Template} (ht : s.fresh levels name source = .ok t) :
    t.name = name ∧ t.source = s.preprocess source := by
  rw [fresh_eq] at ht
  obtain ⟨_, _, _, _, _, _, rfl⟩ := freshSource_eq_ok.1 ht
  exact ⟨rfl, rfl⟩

/-- so has what a compilation gives -/
theorem SourceEnds.template_source {depth : Nat} {name : String} {cache' : Dict Template} {t : Template}
    (h : s.SourceEnds depth name source cache (.ok t, cache')) : t.name = name ∧ t.source = s.preprocess source := by
  generalize hout : (Except.ok t, cache') = out at h
  cases h with
  | unread => cases hout
  | stopped => cases hout
  | finished =>
    obtain ⟨b, -, rfl⟩ := map_eq_ok.1 (Prod.mk.inj hout).1.symm
    exact ⟨rfl, rfl⟩

/-- the template of a file that is loaded from its own path is that of the file's source -/
theorem FileEnds.template_source {cache' : Dict Template} {t : Template} (hcache : s.Coherent cache)
    (hresolve : s.resolveName path = path) (hload : s.loader.load path = .ok source)
    (h : s.FileEnds depth path path cache (.ok (some t), cache')) : t.name = path ∧ t.source = s.preprocess source := by
  generalize hout : (Except.ok (some t), cache') = out at h
  cases h with
  | kept hget =>
    cases hout
    obtain ⟨source', hload', levels, hfresh⟩ := hcache _ _ hget
    rw [loadSource_eq_ok, hresolve, hload] at hload'
    cases hload'
    exact fresh_source hfresh
  | missing => cases hout
  | stopped => cases hout
  | compiled _ hload' hcompile =>
    cases hout
    rw [hload] at hload'
    cases hload'
    exact hcompile.template_source

/-- what the uses of a component file are compiled from, when there is a source under its path -/
theorem file_component_uses (hpath : c.source = .file path) (hload : s.loader.load path = .ok source) :
    (s.LoadsFrom c path path ↔ path ≠ "" ∧
      (Path.bareExtension? s.options.defaultExtension = none ∨ (Path.extension? path.toList).isSome)) ∧
    (s.LoadsFrom c path path → ∀ depth cache t cache', s.Coherent cache →
      s.ComponentEnds depth c cache (.ok (some t), cache') → t.name = path ∧ t.source = s.preprocess source) ∧
    (path = "" → ∀ depth cache out, s.ComponentEnds depth c cache out ↔ out = (.ok none, cache)) ∧
    (path ≠ "" → s.LoadsFrom c (s.resolveName path) (s.resolveName (s.resolveName path))) := by
  refine ⟨?_, fun hown depth cache t cache' hcache hends => ?_, ?_, ?_⟩
  · rw [loadsFrom_self_iff hpath, resolveName, Path.withDefaultExtension_eq_iff]
  · have hresolve := ((loadsFrom_self_iff hpath).1 hown).2
    exact FileEnds.template_source hcache hresolve hload ((hown depth cache _).1 hends)
  · rintro rfl depth cache out
    exact componentEnds_noFile hpath out
  · intro hne depth cache out
    exact componentEnds_file hpath hne out

/-! ## Scans -/

theorem apply_loader (s : TemplateSet) (op : Operation) : (op.apply s).loader = s.loader := by
  rcases Operation.apply_cases s op with ⟨request, h⟩ | ⟨registry, passes, h⟩
  · obtain ⟨cache, hset⟩ := Operation.obtain_set s request
    rw [h, hset]
  · rw [h]

/-- operations leave the loader alone -/
theorem after_loader (s : TemplateSet) (ops : List Operation) : (s.after ops).loader = s.loader := by
  induction ops generalizing s with
  | nil => rfl
  | cons op ops ih => rw [Operation.after_cons, ih, apply_loader]

section

variable {dir lead : String} {files : List String} {components : List Component}

/-- a scan whose files all have components -/
theorem registerDirectory_components
    (hlist : s.loader.list (String.ofList (Path.trimSlashes dir.toList)) = .ok files)
    (h : files.map (DirectoryScan.component (Path.trimSlashes dir.toList) lead
      (Path.bareExtension? s.options.defaultExtension)) = components.map .ok) :
    s.registerDirectory dir lead =
      (.ok files.length, { s.clearCache with registry := components.foldl Registry.register s.registry }) := by
  rw [registerDirectory, hlist]
  dsimp only
  rw [Registry.registerFiles_components h]
  rfl

/-- **A scan succeeds** when there is a list of files and all of them have components, and counts the files. -/
theorem registerDirectory_eq_ok {n : Nat} : (s.registerDirectory dir lead).1 = .ok n ↔
    ∃ (files : List String) (components : List Component),
      s.loader.list (String.ofList (Path.trimSlashes dir.toList)) = .ok files ∧ files.length = n ∧
        files.map (DirectoryScan.component (Path.trimSlashes dir.toList) lead
          (Path.bareExtension? s.options.defaultExtension)) = components.map .ok := by
  constructor
  · intro h
    cases hlist : s.loader.list (String.ofList (Path.trimSlashes dir.toList)) with
    | error fault => simp [registerDirectory, hlist] at h
    | ok files =>
      rw [registerDirectory, hlist] at h
      obtain ⟨_, hscan, rfl⟩ := map_eq_ok.1 h
      obtain ⟨components, hcomponents⟩ := Registry.registerFiles_eq_ok.1 hscan
      exact ⟨files, components, rfl, rfl, hcomponents⟩
  · rintro ⟨files, components, hlist, rfl, hcomponents⟩
    rw [registerDirectory_components hlist hcomponents]

end

/-- **What the uses of a scanned component load.** Files in memory are scanned, whatever was done before. The scan finds
the files below the directory, however the directory is written. It succeeds exactly when the extension can be cut off
the paths of all of them, and then gives the name of each of them to one of them. A file whose component is still
registered, whatever was done after the scan, is there under the path of that component, and every tag that names the
component means it. Its uses are compiled from that file, and kept under its path, exactly when the path is not empty
and either has an extension or there is no default extension to add; what they are compiled from is then its source. An
empty path is refused as a component without a template; any other path is resolved like the name of a template, and
loaded from there. -/
theorem scanned_component_file (files : Dict String) (options : Options) (before : List Operation) (dir lead : String) :
    let scan := ((new (.memory files) options).after before).registerDirectory dir lead
    let ext := Path.bareExtension? options.defaultExtension
    let listed := Loader.pathsBelow dir files.keys
    let component := DirectoryScan.component (Path.trimSlashes dir.toList) lead ext
    (∀ n, scan.1 = .ok n ↔ n = listed.length ∧ ∀ relative ∈ listed, ∃ c, component relative = .ok c) ∧
    ((∃ n, scan.1 = .ok n) → ∀ relative ∈ listed, ∃ c, component relative = .ok c ∧
      (∃ other ∈ listed, ∃ d, component other = .ok d ∧ d.name = c.name ∧ scan.2.registry.get? c.name = some d) ∧
      ∀ later,
        let s := scan.2.after later
        s.registry.get? c.name = some c →
          ∃ path source, c.source = .file path ∧ files.get? path = some source ∧
            Loader.pathsBelow dir [path] = [relative] ∧
            (∀ own depth b token tag, (s.readingAt own depth).read b token = .ok (.component tag) →
              tag.name = c.name → tag.component = c) ∧
            (s.LoadsFrom c path path ↔ path ≠ "" ∧ (ext = none ∨ (Path.extension? path.toList).isSome)) ∧
            (s.LoadsFrom c path path → s.loader.load path = .ok source ∧
              ∀ depth cache t cache', s.Coherent cache → s.ComponentEnds depth c cache (.ok (some t), cache') →
                t.name = path ∧ t.source = s.preprocess source) ∧
            (path = "" → ∀ depth cache out, s.ComponentEnds depth c cache out ↔ out = (.ok none, cache)) ∧
            (path ≠ "" → s.LoadsFrom c (s.resolveName path) (s.resolveName (s.resolveName path)))) := by
  intro scan ext listed component
  let start := (new (.memory files) options).after before
  have hstart : start.loader = .memory files := after_loader _ before
  have hoptions : start.options = options := Operation.after_options _ before
  have hlist : start.loader.list (String.ofList (Path.trimSlashes dir.toList)) = .ok listed := by
    rw [hstart]
    exact congrArg Except.ok (DirectoryScan.pathsBelow_trimSlashes dir files.keys)
  have hsucceeds : ∀ n, scan.1 = .ok n ↔
      ∃ components : List Component, listed.length = n ∧ listed.map component = components.map .ok := by
    intro n
    rw [registerDirectory_eq_ok, hlist, hoptions]
    constructor
    · rintro ⟨_, components, hfiles, hlength, hcomponents⟩
      cases hfiles
      exact ⟨components, hlength, hcomponents⟩
    · rintro ⟨components, hlength, hcomponents⟩
      exact ⟨listed, components, rfl, hlength, hcomponents⟩
  refine ⟨fun n => (hsucceeds n).trans ?_, ?_⟩
  · rw [exists_and_left, exists_map_ok_iff, eq_comm]
  · rintro ⟨n, hn⟩ relative hfile
    obtain ⟨components, -, hcomponents⟩ := (hsucceeds n).1 hn
    have hscan : scan = (.ok listed.length, { start.clearCache with
        registry := components.foldl Registry.register start.registry }) :=
      registerDirectory_components hlist (by rw [hoptions]; exact hcomponents)
    have hmem : ∀ d, d ∈ components ↔ ∃ other ∈ listed, component other = .ok d := by
      intro d
      have hmap : Except.ok d ∈ components.map (Except.ok (ε := ScanFault)) ↔ d ∈ components := by simp
      rw [← hmap, ← hcomponents, List.mem_map]
    obtain ⟨c, hc⟩ := exists_map_ok_iff.1 ⟨components, hcomponents⟩ relative hfile
    refine ⟨c, hc, ?_, ?_⟩
    · obtain ⟨front, d, behind, rfl, hname, -, hget⟩ :=
        start.registry.get?_foldl_register_last ((hmem c).2 ⟨relative, hfile, hc⟩)
      obtain ⟨other, hother, hd⟩ := (hmem d).1 (List.mem_append_right front List.mem_cons_self)
      exact ⟨other, hother, d, hd, hname, by rw [hscan]; exact hget⟩
    · intro later s hregistered
      have hloader : s.loader = .memory files := by
        rw [after_loader, hscan]
        exact hstart
      have hextension : s.options.defaultExtension = options.defaultExtension := by
        rw [Operation.after_options, hscan, ← hoptions]
        rfl
      have hpath : c.source =
          .file (String.ofList (DirectoryScan.join (Path.trimSlashes dir.toList) relative.toList)) := by
        obtain ⟨stem, -, rfl⟩ := DirectoryScan.component_eq_ok.1 hc
        rfl
      generalize hjoin : String.ofList (DirectoryScan.join _ relative.toList) = path at hpath
      have hkeys : path ∈ files.keys := hjoin ▸ DirectoryScan.join_mem hfile
      obtain ⟨source, hsource⟩ := Option.isSome_iff_exists.1 (Dict.mem_keys.1 hkeys)
      have hload : s.loader.load path = .ok source := by simp [hloader, Loader.memory, hsource]
      obtain ⟨hself, hown, hempty, hresolved⟩ := file_component_uses hpath hload
      rw [hextension] at hself
      refine ⟨path, source, hpath, hsource, hjoin ▸ DirectoryScan.pathsBelow_join dir relative, ?_, hself,
        fun h => ⟨hload, hown h⟩, hempty, hresolved⟩
      intro own depth b token tag hread hname
      obtain ⟨_, _, _, _, _, hget⟩ := Template.read_component hread
      rw [hname] at hget
      exact Option.some.inj (hget.symm.trans hregistered)

/-- a menu with the default extension, and a note without one -/
def partsFiles : Dict String :=
  .ofList [("parts/menu.html", "*"), ("parts/README", "hi")]

/-- the set behind a scan of the directory -/
def partsSet : TemplateSet :=
  (new (.memory partsFiles) Options.standard).after [.registerDirectory "/parts//" ""]

theorem scanned_component_file_menu :
    ((new (.memory partsFiles) Options.standard).registerDirectory "/parts//" "").1 = .ok 2 ∧
      ∃ c path, partsSet.registry.get? "menu" = some c ∧ c.source = .file path ∧ partsFiles.get? path = some "*" ∧
        partsSet.LoadsFrom c path path := by
  have hscan : ((new (.memory partsFiles) Options.standard).registerDirectory "/parts//" "").1 = .ok 2 := by
    decide +kernel
  have hfile : "menu.html" ∈ Loader.pathsBelow "/parts//" partsFiles.keys := by decide +kernel
  obtain ⟨c, hc, -, hload⟩ :=
    (scanned_component_file partsFiles Options.standard [] "/parts//" "").2 ⟨2, hscan⟩ "menu.html" hfile
  have hmenu : DirectoryScan.component "parts".toList "" (some "html".toList) "menu.html" =
      .ok ⟨"menu", .file "parts/menu.html", [], none⟩ := by rfl
  obtain rfl := Except.ok.inj (hmenu.symm.trans hc)
  have hregistered : partsSet.registry.get? "menu" = some ⟨"menu", .file "parts/menu.html", [], none⟩ := by rfl
  obtain ⟨path, source, hpath, hsource, -, -, hself, -⟩ := hload [] hregistered
  cases hpath
  have hown : partsSet.LoadsFrom _ "parts/menu.html" "parts/menu.html" := hself.2 (by decide +kernel)
  exact ⟨hscan, _, _, hregistered, rfl, by decide +kernel, hown⟩

/-- a use of the note -/
def readmePage : String := "\x7b% component \"README\" %\x7d\x7b% endcomponent %\x7d"

/-- **A file that is scanned and cannot be used**: the note is registered under its name with its own path, and its uses
ask for another path, which is not there. -/
theorem scanned_file_without_extension :
    (partsSet.registry.get? "README").map (·.source) = some (.file "parts/README") ∧
      partsFiles.get? "parts/README" = some "hi" ∧
      (partsSet.obtain (.text readmePage)).1 =
        .error (.load "parts/README.html" (.unknownTemplate "parts/README.html")) := by
  have hname : (partsSet.obtain (.text readmePage)).1.map (·.name) =
      .error (.load "parts/README.html" (.unknownTemplate "parts/README.html")) := by decide +kernel
  exact ⟨by decide +kernel, by decide +kernel, map_eq_error.1 hname⟩

end TemplateSet

end Templating
