/-
Template sets: everything that templates are compiled against.

A set has a loader, options, a registry of components, passes and a table of tags, and it keeps the templates compiled
from files. The nesting of component templates is limited by an option: the limit is handed down as the number of
levels that are left, and at zero no component tag compiles. A change of the registry or of the passes empties the
cache; a change of the tags or of the loader's files does not.
-/
import Templating.Loader
import Templating.Pass
import Templating.Template.Block

namespace Templating

/-- the prefix of component markup, unless another one is set -/
def defaultTagPrefix : String := "x-"

/-- the extension of template files, unless another one is set -/
def standardExtension : String := ".html"

/-- how deep component templates nest, unless something else is set -/
def standardDepth : Nat := 64

/-- what the user of a set decides -/
structure Options where
  /-- the prefix of component markup; none leaves markup alone -/
  tagPrefix : Option String
  /-- the extension of names without one -/
  defaultExtension : Option String
  /-- the variables that component templates see of their callers -/
  sharedKeys : List String
  /-- how deep component templates nest -/
  maxDepth : Nat

/-- what holds unless the user decides otherwise -/
def Options.standard : Options :=
  ⟨some defaultTagPrefix, some standardExtension, [], standardDepth⟩

/-- a template set -/
structure TemplateSet where
  loader : Loader
  options : Options
  registry : Registry
  passes : Pipeline
  tags : Dict Template.Tag
  cache : Dict Template

/-- the name of templates that come from no file -/
def stringTemplateName : String := "<string>"

/-- the name of the template of a component that comes from no file -/
def inlineTemplateName (component : String) : String :=
  "<component " ++ component ++ ">"

namespace TemplateSet

/-- a set without components, with the built-in tags -/
def new (loader : Loader) (options : Options) : TemplateSet :=
  ⟨loader, options, .empty, [], Template.builtinTags, .empty⟩

/-! ## changes -/

/-- the set without compiled files -/
def clearCache (s : TemplateSet) : TemplateSet :=
  { s with cache := .empty }

/-- the set with one more component -/
def register (s : TemplateSet) (c : Component) : TemplateSet :=
  { s.clearCache with registry := s.registry.register c }

/-- the set with one more pass behind the others -/
def addPass (s : TemplateSet) (pass : Pass) : TemplateSet :=
  { s.clearCache with passes := s.passes ++ [pass] }

/-- the set with a tag of the host -/
def registerTag (s : TemplateSet) (name : String) (tag : CustomTag) : TemplateSet :=
  { s with tags := s.tags.insert name (.custom tag) }

/-- the set with the components of a directory, and how many files there are -/
def registerDirectory (s : TemplateSet) (dir lead : String) : Except ScanFault Nat × TemplateSet :=
  match s.loader.list (String.ofList (Path.trimSlashes dir.toList)) with
  | .ok files =>
    let (outcome, registry) := s.registry.registerFiles dir lead s.options.defaultExtension files
    (outcome.map fun _ => files.length, { s.clearCache with registry })
  | .error fault => (.error (.unlisted fault), s.clearCache)

/-! ## sources -/

/-- the path of a template name -/
def resolveName (s : TemplateSet) (name : String) : String :=
  Path.withDefaultExtension s.options.defaultExtension name

/-- a source behind all passes; component markup comes last -/
def preprocess (s : TemplateSet) (source : String) : String :=
  let source := Pipeline.run source s.passes
  match s.options.tagPrefix with
  | some tagPrefix => Pass.run source (.componentTags tagPrefix)
  | none => source

/-- the source of a template name -/
def loadSource (s : TemplateSet) (name : String) : Except TemplateError String :=
  let path := s.resolveName name
  match s.loader.load path with
  | .ok source => .ok source
  | .error fault => .error (.load path fault)

/-! ## compilation -/

/-- what the tags of a template are compiled against, `depth` component templates deep -/
def context (s : TemplateSet) (name : String) (depth : Nat)
    (componentTemplate : Option (Component → Compile (Option Template))) : Template.Context :=
  { template := name, depth, limit := s.options.maxDepth, tags := s.tags, registry := s.registry, componentTemplate }

/-- the template of a preprocessed source whose tokens are read -/
def assemble (s : TemplateSet) (name source : String) (b : Template.Blocks) : Template where
  name
  source
  nodes := b.nodes
  props := b.props
  fragments := b.fragments
  sharedKeys := s.options.sharedKeys

/-- a source as a template of the given name -/
def compileSource (s : TemplateSet) (context : Template.Context) (source : String) : Compile Template := do
  let source := s.preprocess source
  match Template.tokens source with
  | .error (position, fault) => throw (.malformed ⟨context.template, position⟩ fault)
  | .ok tokens =>
    let b ← context.document tokens (Template.endOf source)
    return s.assemble context.template source b

/-- a file as a template, where `compile` compiles the source of a name; a file in the cache is taken from there -/
def compileFile (s : TemplateSet) (compile : (name source : String) → Compile Template) (name : String) :
    Compile Template := do
  let path := s.resolveName name
  match (← get).get? path with
  | some template => return template
  | none =>
    let source ← Compile.ofExcept (s.loadSource path)
    let template ← compile path source
    modify (·.insert path template)
    return template

/-- the template of a component, when it has one, where `compile` compiles the source of a name -/
def compileComponent (s : TemplateSet) (compile : (name source : String) → Compile Template) (c : Component) :
    Compile (Option Template) := do
  match c.source with
  | .file path => if path = "" then return none else return some (← s.compileFile compile path)
  | .inline source =>
    if source = "" then return none else return some (← compile (inlineTemplateName c.name) source)

/-- a source as a template of the given name, with so many levels of component templates below it -/
def compileWithin (s : TemplateSet) : (levels : Nat) → (name source : String) → Compile Template
  | 0, name, source => s.compileSource (s.context name s.options.maxDepth none) source
  | levels + 1, name, source =>
    s.compileSource
      (s.context name (s.options.maxDepth - (levels + 1)) (some (s.compileComponent (s.compileWithin levels)))) source

/-- a source as a page -/
def compile (s : TemplateSet) (name source : String) : Compile Template :=
  s.compileWithin s.options.maxDepth name source

/-- what a compilation makes of the set: its result, and the set with what it cached -/
def run {α : Type} (s : TemplateSet) (c : Compile α) : Except TemplateError α × TemplateSet :=
  let (result, cache) := c.outcome s.cache
  (result, { s with cache })

/-- the template of a name, compiled unless it is in the cache -/
def fromFile (s : TemplateSet) (name : String) : Except TemplateError Template × TemplateSet :=
  s.run (s.compileFile s.compile name)

/-- the template of a source that comes from no file -/
def fromString (s : TemplateSet) (source : String) : Except TemplateError Template × TemplateSet :=
  s.run (s.compile stringTemplateName source)

end TemplateSet

end Templating
