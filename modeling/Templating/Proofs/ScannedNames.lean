/-
Names of scanned files.

The component of a scanned file is named after its path. The name does not tell points from slashes, and the default
extension is missing from it, so different files can have one name; the last of them is the component then, and the
others are lost, but counted.

- `component_name_eq_iff`, `nodup_names_iff`: which paths have one name, and when all names are different.
- `foldl_register_source_iff`: a component is still there under its name when none behind it has the name.
- `scanned_names`: so a scan loses nothing exactly when its files are different and have different names.
- `scan_loses_component`: two files with one name.
-/
import Templating.Proofs.DirectoryFiles

namespace Templating

namespace DirectoryScan

/-! ## Names -/

/-- texts that differ in nothing but points for slashes -/
def Alike (a b : List Char) : Prop :=
  List.Forall₂ (fun c d => c = d ∨ c ∈ ['.', '/'] ∧ d ∈ ['.', '/']) a b

/-- the paths of files without the default extension differ in nothing but points for slashes -/
def SameStem (ext : Option (List Char)) (file other : String) : Prop :=
  ∃ a b, stem ext file.toList = .ok a ∧ stem ext other.toList = .ok b ∧ Alike a b

variable {ext : Option (List Char)} {dir : List Char} {lead file other : String} {c d : Component}

theorem componentName_eq_iff {lead a b : List Char} : componentName lead a = componentName lead b ↔ Alike a b := by
  have hchar : ∀ c d : Char, (if c = '/' then '.' else c) = (if d = '/' then '.' else d) ↔
      c = d ∨ c ∈ ['.', '/'] ∧ d ∈ ['.', '/'] := by
    intro c d
    simp only [List.mem_cons, List.not_mem_nil, or_false]
    grind
  rw [componentName, componentName, List.append_cancel_left_eq, ← List.forall₂_eq_eq_eq, List.forall₂_map_left_iff,
    List.forall₂_map_right_iff, Alike]
  simp only [hchar]

/-- **Files with one name** are those whose paths are alike but for the extension. -/
theorem component_name_eq_iff (hc : component dir lead ext file = .ok c) (hd : component dir lead ext other = .ok d) :
    c.name = d.name ↔ SameStem ext file other := by
  obtain ⟨a, ha, rfl⟩ := component_eq_ok.1 hc
  obtain ⟨b, hb, rfl⟩ := component_eq_ok.1 hd
  rw [String.ofList_inj, componentName_eq_iff]
  refine ⟨fun halike => ⟨a, b, ha, hb, halike⟩, ?_⟩
  rintro ⟨_, _, ha', hb', halike⟩
  cases ha.symm.trans ha'
  cases hb.symm.trans hb'
  exact halike

/-- the path of a component's template says which file it is -/
theorem component_source_inj (hc : component dir lead ext file = .ok c) (hd : component dir lead ext other = .ok d) :
    c.source = d.source ↔ file = other := by
  obtain ⟨a, ha, rfl⟩ := component_eq_ok.1 hc
  obtain ⟨b, hb, rfl⟩ := component_eq_ok.1 hd
  rw [TemplateSource.file.injEq, String.ofList_inj, join, join]
  split <;> simp [String.toList_inj]

/-- **Different names** are those of different paths that are not alike but for the extension. -/
theorem nodup_names_iff {files : List String} {components : List Component}
    (h : files.map (component dir lead ext) = components.map .ok) :
    (components.map (·.name)).Nodup ↔
      files.Nodup ∧ ∀ file ∈ files, ∀ other ∈ files, file ≠ other → ¬SameStem ext file other := by
  let name := fun file => (component dir lead ext file).map Component.name
  have hnames : files.map name = (components.map Component.name).map .ok := by
    calc files.map name
        = (files.map (component dir lead ext)).map (Except.map Component.name) := by rw [List.map_map]; rfl
      _ = (components.map Component.name).map .ok := by rw [h, List.map_map, List.map_map]; rfl
  have hsame : ∀ file ∈ files, ∀ other ∈ files, name file = name other ↔ SameStem ext file other := by
    intro file hfile other hother
    obtain ⟨c, hc⟩ := exists_map_ok_iff.1 ⟨components, h⟩ file hfile
    obtain ⟨d, hd⟩ := exists_map_ok_iff.1 ⟨components, h⟩ other hother
    rw [← component_name_eq_iff hc hd]
    simp [name, hc, hd, Except.map]
  rw [← List.nodup_map_iff (fun _ _ => Except.ok.inj (ε := ScanFault)), ← hnames]
  constructor
  · intro h
    refine ⟨h.of_map, fun file hfile other hother hne halike => hne ?_⟩
    exact (List.nodup_map_iff_inj_on h.of_map).1 h file hfile other hother ((hsame file hfile other hother).2 halike)
  · rintro ⟨hnodup, halike⟩
    refine (List.nodup_map_iff_inj_on hnodup).2 fun file hfile other hother heq => ?_
    by_contra hne
    exact halike file hfile other hother hne ((hsame file hfile other hother).1 heq)

end DirectoryScan

namespace Registry

variable {r : Registry} {components : List Component} {c : Component}

/-- the name of a component stands for it when none behind it has that name -/
theorem get?_foldl_register_of_last {front behind : List Component} (h : ∀ other ∈ behind, other.name ≠ c.name) :
    ((front ++ c :: behind).foldl register r).get? c.name = some c := by
  rw [get?_foldl_register, Dict.last_map_eq_some.2 ⟨front, c, behind, rfl, rfl, rfl, h⟩, Option.some_or]

/-- **The last component with a name** is the one whose template is registered under the name. -/
theorem foldl_register_source_iff (hinj : ∀ d ∈ components, d.source = c.source → d = c) :
    (∃ other ∈ components, ∃ d, (components.foldl register r).get? other.name = some d ∧ d.source = c.source) ↔
      ∃ front behind, components = front ++ c :: behind ∧ ∀ other ∈ behind, other.name ≠ c.name := by
  constructor
  · rintro ⟨other, hother, d, hget, hsource⟩
    obtain ⟨front, found, behind, rfl, hname, hbehind, hfound⟩ := r.get?_foldl_register_last hother
    cases hfound.symm.trans hget
    obtain rfl := hinj _ (List.mem_append_right front List.mem_cons_self) hsource
    exact ⟨front, behind, rfl, fun other hother => hname ▸ hbehind other hother⟩
  · rintro ⟨front, behind, rfl, hbehind⟩
    exact ⟨c, List.mem_append_right _ List.mem_cons_self, c, get?_foldl_register_of_last hbehind, rfl⟩

/-- every component is there under its name when no two of them have one name -/
theorem get?_foldl_register_of_nodup (h : (components.map (·.name)).Nodup) (hc : c ∈ components) :
    (components.foldl register r).get? c.name = some c := by
  obtain ⟨front, behind, rfl⟩ := List.append_of_mem hc
  rw [List.map_append, List.map_cons] at h
  have hnot := (List.nodup_cons.1 (List.nodup_append.1 h).2.1).1
  exact get?_foldl_register_of_last fun other hother heq => hnot (heq ▸ List.mem_map_of_mem hother)

end Registry

namespace TemplateSet

/-- **What a scan loses.** A scan that succeeds gives a component to each file that the loader lists, named after its
path without the default extension; an extension at the end of a path is cut off as it stands. All of them have names
of their own exactly when no file is listed twice and no two of them are alike without the default extension, which
means that they differ in points for slashes at most. Every file is then the template of the component under its name.
In general a file is the template of a component that the scan registers exactly when no file that is listed behind it
has its name. -/
theorem scanned_names (s : TemplateSet) (dir lead : String) {n : Nat} (h : (s.registerDirectory dir lead).1 = .ok n) :
    let ext := Path.bareExtension? s.options.defaultExtension
    let component := DirectoryScan.component (Path.trimSlashes dir.toList) lead ext
    let r := (s.registerDirectory dir lead).2.registry
    ∃ (files : List String) (components : List Component),
      s.loader.list (String.ofList (Path.trimSlashes dir.toList)) = .ok files ∧ files.length = n ∧
      files.map component = components.map .ok ∧
      (∀ front bare, ext = some bare → Path.extension? (front ++ '.' :: bare) = some bare →
        DirectoryScan.stem ext (front ++ '.' :: bare) = .ok front) ∧
      ((components.map (·.name)).Nodup ↔
        files.Nodup ∧ ∀ file ∈ files, ∀ other ∈ files, file ≠ other → ¬DirectoryScan.SameStem ext file other) ∧
      ((components.map (·.name)).Nodup → ∀ c ∈ components, r.get? c.name = some c) ∧
      ∀ c ∈ components, (∃ other ∈ components, ∃ d, r.get? other.name = some d ∧ d.source = c.source) ↔
        ∃ front behind, components = front ++ c :: behind ∧ ∀ other ∈ behind, other.name ≠ c.name := by
  intro ext component r
  obtain ⟨files, components, hlist, hlength, hcomponents⟩ := registerDirectory_eq_ok.1 h
  have hregistry : r = components.foldl Registry.register s.registry := by
    show (s.registerDirectory dir lead).2.registry = _
    rw [registerDirectory_components hlist hcomponents]
  have hfile : ∀ c ∈ components, ∃ file ∈ files, component file = .ok c := by
    intro c hc
    obtain ⟨file, hfile, hok⟩ := List.mem_map.1 (hcomponents ▸ List.mem_map_of_mem (f := Except.ok) hc)
    exact ⟨file, hfile, hok⟩
  rw [hregistry]
  refine ⟨files, components, hlist, hlength, hcomponents, ?_, DirectoryScan.nodup_names_iff hcomponents,
    fun hnames c hc => Registry.get?_foldl_register_of_nodup hnames hc, fun c hc => ?_⟩
  · intro front bare hext hown
    rw [hext]
    exact DirectoryScan.stem_append hown
  · refine Registry.foldl_register_source_iff fun d hd hsource => ?_
    obtain ⟨file, -, hfileOk⟩ := hfile c hc
    obtain ⟨other, -, hotherOk⟩ := hfile d hd
    obtain rfl := (DirectoryScan.component_source_inj hotherOk hfileOk).1 hsource
    exact Except.ok.inj (hotherOk.symm.trans hfileOk)

/-- a file in a directory of its own, next to the directory -/
def nestedSet : TemplateSet :=
  new (.memory (.ofList [("parts/menu.html", "*"), ("parts/ui/row.html", "+")])) Options.standard

theorem scanned_names_nested :
    (nestedSet.registerDirectory "parts" "").1 = .ok 2 ∧
      ∃ c, (nestedSet.registerDirectory "parts" "").2.registry.get? "ui.row" = some c ∧
        c.source = .file "parts/ui/row.html" := by
  have hscan : (nestedSet.registerDirectory "parts" "").1 = .ok 2 := by rfl
  obtain ⟨files, components, hlist, -, hcomponents, -, -, hnames, -⟩ := scanned_names nestedSet "parts" "" hscan
  obtain rfl : files = ["menu.html", "ui/row.html"] := by
    have hfiles : nestedSet.loader.list "parts" = .ok ["menu.html", "ui/row.html"] := by rfl
    exact Except.ok.inj (hlist.symm.trans hfiles)
  obtain rfl : components =
      [⟨"menu", .file "parts/menu.html", [], none⟩, ⟨"ui.row", .file "parts/ui/row.html", [], none⟩] :=
    List.map_injective_iff.2 (fun _ _ => Except.ok.inj) hcomponents.symm
  exact ⟨hscan, _, hnames (by decide) _ (List.mem_cons_of_mem _ List.mem_cons_self), rfl⟩

/-- two files whose paths differ in a point for a slash -/
def alikeSet : TemplateSet :=
  new (.memory (.ofList [("parts/a.b.html", "1"), ("parts/a/b.html", "2")])) Options.standard

/-- **A component that a scan loses**: two files are counted under one name, and the second one is registered. -/
theorem scan_loses_component :
    (alikeSet.registerDirectory "parts" "").1 = .ok 2 ∧
      (alikeSet.registerDirectory "parts" "").2.registry.keys = ["a.b"] ∧
      ((alikeSet.registerDirectory "parts" "").2.registry.get? "a.b").map (·.source) =
        some (.file "parts/a/b.html") :=
  ⟨by rfl, by rfl, by rfl⟩

end TemplateSet

end Templating
