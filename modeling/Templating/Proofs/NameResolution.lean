/-
Names that are resolved twice.

The template of a name is kept under the resolved name, but the loader is asked for that name resolved again. The two
are the same unless the first resolution makes a name without an extension, which it does where nothing stands behind
the last slash: with the point of the extension in front, the last name is a hidden file.

- `fileName?_append`: the last name of a path is what stands behind its last slash.
- `extension?_withDefaultExtension`: when the default extension gives a path an extension.
- `compileFile_ends`: under which name a file is kept, and which one is loaded.
- `resolved_twice`: so a name is loaded from the path that it is kept under exactly when the resolved name has an
  extension or there is none to add.
- `directory_resolved_twice`: a name that is not.
-/
import Templating.Proofs.DirectoryFiles

namespace Templating

namespace Path

variable {separator : Char} {a b front tail name path bare : List Char} {ext : Option String}

/-! ## Names -/

theorem splitOn_ne_nil (path : List Char) : splitOn separator path ≠ [] := by
  fun_cases splitOn separator path <;> simp

theorem splitOn_append (a b : List Char) :
    splitOn separator (a ++ separator :: b) = splitOn separator a ++ splitOn separator b := by
  fun_induction splitOn separator a with
  | case1 => simp [splitOn]
  | case2 rest ih => simp [splitOn, ih]
  | case3 c rest hc hrest ih => exact absurd hrest (splitOn_ne_nil rest)
  | case4 c rest hc part parts hrest ih =>
    rw [List.cons_append, splitOn, if_neg hc, ih, hrest]
    rfl

theorem splitOn_of_not_mem (h : separator ∉ path) : splitOn separator path = [path] := by
  induction path with
  | nil => rfl
  | cons c rest ih =>
    have hc : c ≠ separator := fun hc => h (hc ▸ List.mem_cons_self)
    rw [splitOn, if_neg hc, ih fun hrest => h (List.mem_cons_of_mem c hrest)]

theorem names_append (a b : List Char) : names (a ++ '/' :: b) = names a ++ names b := by
  rw [names, splitOn_append, List.filter_append]
  rfl

/-- every path has an end without slashes, which is all of it or stands behind a slash -/
theorem exists_tail (path : List Char) :
    ∃ front tail, path = front ++ tail ∧ '/' ∉ tail ∧ (front = [] ∨ ∃ a, front = a ++ ['/']) := by
  by_cases h : '/' ∈ path
  · obtain ⟨tail, front, hreverse, htail⟩ := List.eq_append_cons_of_mem (List.mem_reverse.2 h)
    refine ⟨front.reverse ++ ['/'], tail.reverse, ?_, by simpa using htail, .inr ⟨_, rfl⟩⟩
    rw [← List.reverse_reverse path, hreverse]
    simp
  · exact ⟨[], path, rfl, h, .inl rfl⟩

/-- **The last name of a path** is what stands behind its last slash. -/
theorem fileName?_append (hfront : front = [] ∨ ∃ a, front = a ++ ['/']) (hslash : '/' ∉ tail) (hne : tail ≠ [])
    (hself : tail ≠ ['.']) (hparent : tail ≠ ['.', '.']) : fileName? (front ++ tail) = some tail := by
  have htail : names tail = [tail] := by simp [names, splitOn_of_not_mem hslash, hne, hself]
  have hlast : (names (front ++ tail)).getLast? = some tail := by
    rcases hfront with rfl | ⟨a, rfl⟩
    · simp [htail]
    · rw [List.append_assoc, List.singleton_append, names_append, htail, List.getLast?_concat]
  rw [fileName?, hlast]
  split
  · next heq => exact absurd (Option.some.inj heq) hparent
  · rfl

/-! ## Extensions -/

/-- a name has an extension when there is a point in it that it does not start with -/
theorem nameExtension?_isSome (c : Char) (rest : List Char) : (nameExtension? (c :: rest)).isSome ↔ '.' ∈ rest := by
  unfold nameExtension?
  dsimp only
  rw [List.reverse_cons, List.dropWhile_append]
  cases hdrop : rest.reverse.dropWhile fun c => decide (c ≠ '.') with
  | nil =>
    have hnone : '.' ∉ rest := fun h => by simpa using List.dropWhile_eq_nil_iff.1 hdrop '.' (List.mem_reverse.2 h)
    by_cases hc : c = '.' <;> simp [hc, hnone]
  | cons d more =>
    have hsome : '.' ∈ rest := by
      by_contra hnone
      have hnil : rest.reverse.dropWhile (fun c => decide (c ≠ '.')) = [] :=
        List.dropWhile_eq_nil_iff.2 fun x hx =>
          decide_eq_true fun hpoint : x = '.' => hnone (hpoint ▸ List.mem_reverse.1 hx)
      rw [hnil] at hdrop
      cases hdrop
    cases more <;> simp [hsome]

/-- an extension does not start with a point -/
theorem bareExtension?_eq_some (h : bareExtension? ext = some bare) : bare ≠ [] ∧ bare.head? ≠ some '.' := by
  unfold bareExtension? at h
  split at h
  · cases h
  · cases h
  · next hne heq =>
    cases h
    obtain ⟨e, -, hdrop⟩ := Option.map_eq_some_iff.1 heq
    refine ⟨hne, fun hpoint => ?_⟩
    have hhead := List.head?_dropWhile_not (fun c : Char => decide (c = '.')) e.toList
    rw [hdrop, hpoint] at hhead
    simp at hhead

/-- a path with an extension behind it has one, unless that is all of the last name and has no point inside -/
theorem extension?_append_eq_none (hfront : front = [] ∨ ∃ a, front = a ++ ['/']) (htail : '/' ∉ tail)
    (hslash : '/' ∉ bare) (hne : bare ≠ []) (hpoint : bare.head? ≠ some '.') :
    extension? (front ++ (tail ++ '.' :: bare)) = none ↔ tail = [] ∧ '.' ∉ bare := by
  -- the last name is not one of those that only say where they are
  have hself : tail ++ '.' :: bare ≠ ['.'] := by cases tail <;> simp [hne]
  have hparent : tail ++ '.' :: bare ≠ ['.', '.'] := by
    intro heq
    have hlength := congrArg List.length heq
    have hbare := List.length_pos_iff.2 hne
    obtain rfl : tail = [] := List.eq_nil_of_length_eq_zero (by simp at hlength; omega)
    cases heq
    exact hpoint rfl
  rw [extension?, fileName?_append hfront (by simp [htail, hslash]) (by simp) hself hparent, Option.bind_some,
    ← Option.not_isSome_iff_eq_none]
  cases tail with
  | nil => simp [nameExtension?_isSome]
  | cons c rest => simp [nameExtension?_isSome]

/-- **When the default extension gives a path an extension.** Behind a last name it does, and behind a slash it makes a
hidden file, whose extension is what follows another point. -/
theorem extension?_withDefaultExtension {path : String} (hext : bareExtension? ext = some bare) (hslash : '/' ∉ bare) :
    extension? (withDefaultExtension ext path).toList = none ↔
      extension? path.toList = none ∧ (path = "" ∨ path.toList.getLast? = some '/') ∧ '.' ∉ bare := by
  cases hown : extension? path.toList with
  | some own => simp [withDefaultExtension, hext, hown]
  | none =>
    obtain ⟨hne, hpoint⟩ := bareExtension?_eq_some hext
    obtain ⟨front, tail, hpath, htail, hfront⟩ := exists_tail path.toList
    have hadded : withDefaultExtension ext path = path ++ "." ++ String.ofList bare := by
      simp [withDefaultExtension, hext, hown]
    have hkey : (withDefaultExtension ext path).toList = front ++ (tail ++ '.' :: bare) := by simp [hadded, hpath]
    have hend : tail = [] ↔ path = "" ∨ path.toList.getLast? = some '/' := by
      constructor
      · rintro rfl
        rcases hfront with rfl | ⟨a, rfl⟩
        · exact .inl (by simpa using hpath)
        · exact .inr (by simp [hpath])
      · rintro (rfl | hlast)
        · exact (List.append_eq_nil_iff.1 hpath.symm).2
        · by_contra hsome
          rw [hpath, List.getLast?_append_of_ne_nil _ hsome] at hlast
          exact htail (List.mem_of_getLast? hlast)
    rw [hkey, extension?_append_eq_none hfront htail hslash hne hpoint, hend]
    simp

end Path

namespace TemplateSet

variable {s : TemplateSet} {depth : Nat} {key path : String} {cache cache' : Dict Template} {t : Template}
  {fault : LoadFault} {out : Except TemplateError (Option Template) × Dict Template}

/-- **Under which name a file is kept, and which one is loaded**: the name resolved once, and the one resolved twice. -/
theorem compileFile_ends (s : TemplateSet) (name : String) (cache : Dict Template) :
    let out := (s.compileFile s.compile name).outcome cache
    s.FileEnds 0 (s.resolveName name) (s.resolveName (s.resolveName name)) cache (out.1.map some, out.2) := by
  intro out
  have hout : out = (s.compileFile s.compile name).outcome cache := rfl
  rw [compileFile_outcome] at hout
  cases hget : cache.get? (s.resolveName name) with
  | some t =>
    rw [hget] at hout
    rw [hout]
    exact .kept hget
  | none =>
    rw [hget] at hout
    cases hload : s.loadSource (s.resolveName name) with
    | error e =>
      obtain ⟨fault, hfault, rfl⟩ := loadSource_eq_error.1 hload
      rw [hload] at hout
      rw [hout]
      exact .missing hget hfault
    | ok source =>
      have hends : s.SourceEnds 0 (s.resolveName name) source cache
          ((s.compile (s.resolveName name) source).outcome cache) :=
        (sourceEnds_iff s s.options.maxDepth (Nat.zero_add _) _ source cache _).2 rfl
      rw [hload] at hout
      rcases hcompile : (s.compile (s.resolveName name) source).outcome cache with ⟨e | t, cache'⟩
      · simp only [hcompile] at hout hends
        rw [hout]
        exact .stopped hget (loadSource_eq_ok.1 hload) hends
      · simp only [hcompile] at hout hends
        rw [hout]
        exact .compiled hget (loadSource_eq_ok.1 hload) hends

theorem FileEnds.eq_missing (hget : cache.get? key = none) (hload : s.loader.load path = .error fault)
    (h : s.FileEnds depth key path cache out) : out = (.error (.load path fault), cache) := by
  cases h <;> simp_all

/-- a template that was not kept before is compiled from the file, and kept -/
theorem FileEnds.template_kept (hget : cache.get? key = none)
    (h : s.FileEnds depth key path cache (.ok (some t), cache')) :
    ∃ source, s.loader.load path = .ok source ∧ t.name = key ∧ t.source = s.preprocess source ∧
      cache'.get? key = some t := by
  generalize hout : (Except.ok (some t), cache') = out at h
  cases h with
  | kept hkept =>
    rw [hget] at hkept
    cases hkept
  | missing => cases hout
  | stopped => cases hout
  | compiled _ hload hcompile =>
    cases hout
    obtain ⟨hname, hsource⟩ := hcompile.template_source
    exact ⟨_, hload, hname, hsource, by simp [Dict.get?_insert]⟩

/-- **Names that are resolved twice.** A template is kept under its resolved name, and loaded from that name resolved
again. The two are the same exactly when the resolved name has an extension or there is no default one; with a default
extension that has no slash in it they differ exactly for the names without an extension that are empty or end in a
slash, when the default extension has no point inside. A name that is not kept is not found when there is nothing under
the name resolved twice, and the error tells that name; a template that it gives has the resolved name, is compiled from
what is there under the name resolved twice, and is kept under the resolved name. -/
theorem resolved_twice (s : TemplateSet) (name : String) :
    let ext := Path.bareExtension? s.options.defaultExtension
    let key := s.resolveName name
    let path := s.resolveName key
    (path = key ↔ ext = none ∨ (Path.extension? key.toList).isSome) ∧
      (∀ bare, ext = some bare → '/' ∉ bare →
        (path ≠ key ↔ Path.extension? name.toList = none ∧ (name = "" ∨ name.toList.getLast? = some '/') ∧
          '.' ∉ bare)) ∧
      (∃ result cache, s.fromFile name = (result, { s with cache }) ∧
        s.FileEnds 0 key path s.cache (result.map some, cache)) ∧
      (s.cache.get? key = none →
        (∀ fault, s.loader.load path = .error fault → s.fromFile name = (.error (.load path fault), s)) ∧
        ∀ t s', s.fromFile name = (.ok t, s') → ∃ source, s.loader.load path = .ok source ∧
          t.name = key ∧ t.source = s.preprocess source ∧ s'.cache.get? key = some t) := by
  intro ext key path
  have hself : path = key ↔ ext = none ∨ (Path.extension? key.toList).isSome := Path.withDefaultExtension_eq_iff
  obtain ⟨result, cache, hfile, hends⟩ : ∃ result cache, s.fromFile name = (result, { s with cache }) ∧
      s.FileEnds 0 key path s.cache (result.map some, cache) := ⟨_, _, rfl, compileFile_ends s name s.cache⟩
  refine ⟨hself, fun bare hbare hslash => ?_, ⟨result, cache, hfile, hends⟩, fun hget => ⟨fun fault hload => ?_, ?_⟩⟩
  · rw [← Path.extension?_withDefaultExtension hbare hslash, Ne, hself, hbare, ← Option.not_isSome_iff_eq_none]
    simp [key, resolveName]
  · obtain ⟨hresult, rfl⟩ := Prod.mk.inj (hends.eq_missing hget hload)
    rw [hfile, map_eq_error.1 hresult]
  · rintro t s' hgiven
    rw [hfile] at hgiven
    cases hgiven
    exact hends.template_kept hget

/-- a page with the default extension, and a page that has nothing but its extension for a name -/
def pagesSet : TemplateSet :=
  new (.memory (.ofList [("pages/index.html", "*"), ("pages/.html", "hi")])) Options.standard

theorem resolved_twice_index :
    pagesSet.resolveName (pagesSet.resolveName "pages/index") = pagesSet.resolveName "pages/index" ∧
      (∃ t s', pagesSet.fromFile "pages/index" = (.ok t, s') ∧ t.name = "pages/index.html" ∧
        s'.cache.get? "pages/index.html" = some t) ∧
      pagesSet.resolveName (pagesSet.resolveName "") ≠ pagesSet.resolveName "" ∧
      pagesSet.fromFile "" = (.error (.load ".html.html" (.unknownTemplate ".html.html")), pagesSet) := by
  obtain ⟨hself, -, -, hindex⟩ := resolved_twice pagesSet "pages/index"
  obtain ⟨-, hdiffer, -, hempty⟩ := resolved_twice pagesSet ""
  refine ⟨hself.2 (.inr (by decide +kernel)), ?_, ?_, ?_⟩
  · have hok : ((pagesSet.fromFile "pages/index").1.map (·.name)).toOption.isSome := by decide +kernel
    rcases hfile : pagesSet.fromFile "pages/index" with ⟨e | t, s'⟩
    · rw [hfile] at hok
      cases hok
    · obtain ⟨source, -, hname, -, hkept⟩ := (hindex (by rfl)).2 t s' hfile
      exact ⟨t, s', rfl, hname, hkept⟩
  · exact (hdiffer "html".toList (by rfl) (by decide)).2 ⟨by rfl, .inl rfl, by decide⟩
  · exact (hempty (by rfl)).1 _ (by rfl)

/-- **A name that is loaded from another path than it resolves to**: what is behind the slash is the extension alone.
The source of the name is there under the resolved name, and the template is looked for elsewhere. -/
theorem directory_resolved_twice :
    pagesSet.resolveName "pages/" = "pages/.html" ∧ pagesSet.loadSource "pages/" = .ok "hi" ∧
      pagesSet.resolveName (pagesSet.resolveName "pages/") = "pages/.html.html" ∧
      pagesSet.fromFile "pages/" =
        (.error (.load "pages/.html.html" (.unknownTemplate "pages/.html.html")), pagesSet) :=
  ⟨by rfl, by rfl, by rfl, by rfl⟩

end TemplateSet

end Templating
