/-
Components and the registry that knows them by name.

A component has a template of its own, in a file or in place, and may declare props and a setup. A later registration
of a name replaces the earlier one. A scan of a directory registers every file below it under its path, with points
for slashes and without the default extension. The extension is cut off by bytes: as many as it has with its point are
taken from the end of the path, also where slashes stand behind it. A cut inside a character ends the scan.
-/
import Templating.Component.Setup
import Templating.Fault
import Templating.Path
import Templating.Position

namespace Templating

/-- where the template of a component is -/
inductive TemplateSource where
  | file (path : String)
  | inline (source : String)
  deriving DecidableEq, Repr

/-- the template of a component that shows nothing but its default slot -/
def headlessTemplate : String := "\x7b\x7b slot \x7d\x7d"

/-- a component -/
structure Component where
  name : String
  source : TemplateSource
  props : List String
  setup : Option Setup

namespace Component

/-- a component that shows nothing but its default slot -/
def headless (name : String) (props : List String) (setup : Option Setup) : Component :=
  ⟨name, .inline headlessTemplate, props, setup⟩

/-- the component shows nothing but its default slot -/
def isHeadless (c : Component) : Bool :=
  c.source = .inline headlessTemplate

end Component

/-- components by name -/
abbrev Registry := Dict Component

/-- the registry with a component added or replaced -/
def Registry.register (r : Registry) (c : Component) : Registry :=
  r.insert c.name c

namespace DirectoryScan

/-- the path of a file below a directory without slashes at its ends -/
def join (dir relative : List Char) : List Char :=
  if dir.isEmpty then relative else dir ++ '/' :: relative

/-- a path without the extension, when it has that extension -/
def stem (ext : Option (List Char)) (relative : List Char) : Except ScanFault (List Char) :=
  match ext with
  | some ext =>
    if Path.extension? relative = some ext then
      let byte := byteLength relative - byteLength ext - 1
      match takeBytes? byte relative with
      | some stem => .ok stem
      | none => .error (.notBoundary byte)
    else .ok relative
  | none => .ok relative

/-- the name of a component: `lead` and a path without its extension, with points for slashes -/
def componentName (lead stem : List Char) : List Char :=
  lead ++ stem.map fun c => if c = '/' then '.' else c

/-- the component of a file below a directory -/
def component (dir : List Char) (lead : String) (ext : Option (List Char)) (relative : String) :
    Except ScanFault Component := do
  let stem ← stem ext relative.toList
  return {
    name := String.ofList (componentName lead.toList stem)
    source := .file (String.ofList (join dir relative.toList))
    props := []
    setup := none }

end DirectoryScan

/-- the registry with the components of files below a directory, up to the first file that has none -/
def Registry.registerFiles (r : Registry) (dir lead : String) (ext : Option String) :
    (files : List String) → Except ScanFault Unit × Registry
  | [] => (.ok (), r)
  | relative :: rest =>
    match DirectoryScan.component (Path.trimSlashes dir.toList) lead (Path.bareExtension? ext) relative with
    | .ok c => (r.register c).registerFiles dir lead ext rest
    | .error fault => (.error fault, r)

end Templating
