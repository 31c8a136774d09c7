/-
The configuration of a template set.

A configuration is a JSON object whose fields may be left out, or an array of the values of the first fields in their
order. Fields that it does not know, fields given twice and values of the wrong kind are refused; only the prefix and
the extension may be `null`. A directory of components may have further fields, whose values are not read.
-/
import Templating.FileTree
import Templating.Json.Reader
import Templating.TemplateSet

namespace Templating

/-- a directory of components, and what their names start with -/
structure ComponentDir where
  dir : String
  lead : String
  deriving DecidableEq, Repr

/-- everything that a configuration says -/
structure Config where
  baseDir : String
  tagPrefix : Option String
  defaultExtension : Option String
  sharedKeys : List String
  maxDepth : Nat
  componentDirs : List ComponentDir
  removePatterns : List String
  deriving DecidableEq, Repr

namespace Config

/-- what holds without a configuration -/
def standard : Config where
  baseDir := "."
  tagPrefix := Options.standard.tagPrefix
  defaultExtension := Options.standard.defaultExtension
  sharedKeys := Options.standard.sharedKeys
  maxDepth := Options.standard.maxDepth
  componentDirs := []
  removePatterns := []

/-! ## reading -/

/-- a text -/
def readText : Json.Written → Option String
  | .str s => some s
  | _ => none

/-- a text, or none for `null` -/
def readOptionalText : Json.Written → Option (Option String)
  | .null => some none
  | .str s => some (some s)
  | _ => none

/-- a list of what `read` reads -/
def readList {α : Type} (read : Json.Written → Option α) : Json.Written → Option (List α)
  | .array items => items.mapM read
  | _ => none

/-- a number of levels, which fits sixty-four bits -/
def readDepth : Json.Written → Option Nat
  | .int i => if 0 ≤ i ∧ i.toNat ≤ Json.maxUnsigned then some i.toNat else none
  | _ => none

/-- the value of a member; none inside when there is none, none when there are several -/
def onlyMember (name : String) (members : List (String × Json.Written)) : Option (Option Json.Written) :=
  match members.filter (·.1 = name) with
  | [] => some none
  | [(_, value)] => some (some value)
  | _ => none

/-- a directory of components: an object or a short array; the start of the names may be left out -/
def readComponentDir : Json.Written → Option ComponentDir
  | .object members => do
    let dir ← (← onlyMember "dir" members).bind readText
    match ← onlyMember "prefix" members with
    | none => some ⟨dir, ""⟩
    | some lead => some ⟨dir, ← readText lead⟩
  | .array [dir] => do some ⟨← readText dir, ""⟩
  | .array [dir, lead] => do some ⟨← readText dir, ← readText lead⟩
  | _ => none

/-- the fields in their order, each with how it is read into a configuration -/
def fields : List (String × (Config → Json.Written → Option Config)) :=
  [("base_dir", fun c v => (readText v).map fun baseDir => { c with baseDir }),
    ("tag_prefix", fun c v => (readOptionalText v).map fun tagPrefix => { c with tagPrefix }),
    ("default_extension", fun c v => (readOptionalText v).map fun defaultExtension => { c with defaultExtension }),
    ("shared_context_keys", fun c v => (readList readText v).map fun sharedKeys => { c with sharedKeys }),
    ("max_component_depth", fun c v => (readDepth v).map fun maxDepth => { c with maxDepth }),
    ("component_dirs", fun c v => (readList readComponentDir v).map fun componentDirs => { c with componentDirs }),
    ("remove_patterns", fun c v => (readList readText v).map fun removePatterns => { c with removePatterns })]

/-- a configuration with one more member -/
def readMember (c : Config) (member : String × Json.Written) : Option Config :=
  match fields.find? (·.1 = member.1) with
  | some (_, read) => read c member.2
  | none => none

/-- the configuration of a document -/
def ofWritten? : Json.Written → Option Config
  | .object members =>
    if (members.map (·.1)).Nodup then members.foldlM readMember standard else none
  | .array items =>
    if items.length ≤ fields.length then
      (fields.zip items).foldlM (fun c ((_, read), value) => read c value) standard
    else none
  | _ => none

/-- the configuration of a text -/
def ofText? (text : String) : Option Config :=
  (Json.readLoose? text).bind ofWritten?

/-! ## use -/

/-- why there is no template set -/
inductive Fault where
  | unreadable (path : String) (fault : FileFault)
  | malformed (path : String)
  | pattern
  | componentDir (dir : String) (fault : ScanFault)

/-- the words of a fault -/
def Fault.message : Fault → String
  | unreadable path fault => "failed to read " ++ path ++ ": " ++ fault.message
  | malformed path => "invalid config " ++ path ++ ": not a configuration"
  | pattern => "invalid remove pattern: not a pattern"
  | componentDir dir fault => "failed to scan component directory " ++ inQuotes dir ++ ": " ++ fault.message

/-- the configuration of a file; a relative base directory starts where the file is -/
def load (disk : Disk) (path : String) : Except Fault Config :=
  match disk.readText path with
  | .error fault => .error (.unreadable path fault)
  | .ok text =>
    match ofText? text with
    | none => .error (.malformed path)
    | some c => .ok { c with baseDir := Path.join ((Path.parent? path).getD "") c.baseDir }

/-- the options of a configuration -/
def options (c : Config) : Options :=
  ⟨c.tagPrefix, c.defaultExtension, c.sharedKeys, c.maxDepth⟩

/-- the set with the components of one more directory -/
def addDirectory (set : TemplateSet) (d : ComponentDir) : Except Fault TemplateSet :=
  match set.registerDirectory d.dir d.lead with
  | (.ok _, set) => .ok set
  | (.error fault, _) => .error (.componentDir d.dir fault)

/-- the template set of a configuration -/
def build (c : Config) (disk : Disk) : Except Fault TemplateSet := do
  let set := TemplateSet.new (disk.loader c.baseDir) c.options
  let set ←
    if c.removePatterns.isEmpty then pure set
    else
      match Pass.ofPatterns? c.removePatterns with
      | some pass => pure (set.addPass pass)
      | none => .error .pattern
  c.componentDirs.foldlM addDirectory set

end Config

end Templating
