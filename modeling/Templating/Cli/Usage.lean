/-
The command line.

Options may stand anywhere behind the command, with their value behind an equals sign or in the next word. A word that
starts with a dash is never the value of the option before it, and behind two dashes every word is an argument. What
is not understood as a whole is not understood at all.
-/

namespace Templating.Cli

/-- what an option takes -/
inductive Takes where
  | nothing
  | text
  | path
  deriving DecidableEq, Repr

/-- an option of a command -/
structure OptionSpec where
  name : String
  takes : Takes
  repeatable : Bool

/-- a word of the command line that was understood -/
inductive Given where
  | flag (name : String)
  | value (name text : String)
  | argument (text : String)
  deriving DecidableEq, Repr

/-- the option that asks for a log, of the program and of every command -/
def verbose : OptionSpec := ⟨"verbose", .nothing, false⟩

/-- the name of a long option and the value behind its equals sign -/
def splitLong (word : List Char) : String × Option String :=
  let name := word.takeWhile (· ≠ '=')
  match word.dropWhile (· ≠ '=') with
  | '=' :: value => (String.ofList name, some (String.ofList value))
  | _ => (String.ofList name, none)

/-- the word starts like an option -/
def isDashed (word : String) : Bool :=
  match word.toList with
  | '-' :: _ :: _ => true
  | _ => false

/-- the value is one that the option takes -/
def OptionSpec.given? (spec : OptionSpec) (text : String) : Option Given :=
  if spec.takes = .path ∧ text = "" then none else some (.value spec.name text)

/-- what a word is by itself -/
inductive Word where
  /-- two dashes -/
  | escape
  /-- a word that needs no other -/
  | whole (given : Given)
  /-- an option whose value is the next word -/
  | awaiting (spec : OptionSpec)

/-- a word among the options of a command -/
def readWord (specs : List OptionSpec) (word : String) : Option Word :=
  match word.toList with
  | ['-', '-'] => some .escape
  | ['-', 'v'] => some (.whole (.flag verbose.name))
  | '-' :: '-' :: long => do
    let (name, attached) := splitLong long
    let spec ← specs.find? (·.name = name)
    match spec.takes, attached with
    | .nothing, none => some (.whole (.flag name))
    | .nothing, some _ => none
    | _, none => some (.awaiting spec)
    | _, some text => (spec.given? text).map .whole
  | '-' :: _ :: _ => none
  | _ => some (.whole (.argument word))

/-- the words of a command line, each with what it gives -/
def understand (specs : List OptionSpec) : List String → Option (List Given)
  | [] => some []
  | word :: rest =>
    match readWord specs word with
    | none => none
    | some .escape => some (rest.map .argument)
    | some (.whole given) => (understand specs rest).map (given :: ·)
    | some (.awaiting spec) =>
      match rest with
      | [] => none
      | text :: rest =>
        if isDashed text then none
        else
          match spec.given? text with
          | some given => (understand specs rest).map (given :: ·)
          | none => none

/-- the values of an option in order -/
def values (name : String) (all : List Given) : List String :=
  all.filterMap fun given =>
    match given with
    | .value n text => if n = name then some text else none
    | _ => none

/-- how often a flag or an option is given -/
def count (name : String) (all : List Given) : Nat :=
  (all.filter fun given =>
    match given with
    | .flag n => n = name
    | .value n _ => n = name
    | .argument _ => false).length

/-- the arguments in order -/
def arguments (all : List Given) : List String :=
  all.filterMap fun given =>
    match given with
    | .argument text => some text
    | _ => none

/-- nothing is given twice but what may be repeated -/
def noRepeats (specs : List OptionSpec) (all : List Given) : Bool :=
  specs.all fun spec => spec.repeatable || count spec.name all ≤ 1

/-- where a source to preprocess comes from -/
inductive Origin where
  | input
  | path (path : String)
  deriving DecidableEq, Repr

/-- a call of `preprocess` -/
structure Preprocess where
  origin : Origin
  tagPrefix : String
  out : Option String
  ext : String
  json : Bool
  deriving DecidableEq, Repr

/-- a call of `render` -/
structure Render where
  name : String
  config : Option String
  baseDir : Option String
  components : List String
  tagPrefix : Option String
  data : Option String
  deriving DecidableEq, Repr

/-- a call of the program -/
inductive Command where
  | preprocess (call : Preprocess)
  | render (call : Render)
  deriving DecidableEq, Repr

/-- the options of `preprocess` -/
def preprocessSpecs : List OptionSpec :=
  [verbose, ⟨"stdin", .nothing, false⟩, ⟨"prefix", .text, false⟩, ⟨"out", .path, false⟩, ⟨"ext", .text, false⟩,
    ⟨"json", .nothing, false⟩]

/-- the options of `render` -/
def renderSpecs : List OptionSpec :=
  [verbose, ⟨"config", .path, false⟩, ⟨"base-dir", .path, false⟩, ⟨"components", .text, true⟩, ⟨"prefix", .text, false⟩,
    ⟨"data", .text, false⟩]

/-- the words behind `preprocess`: a path, unless the source comes from the input -/
def readPreprocess (words : List String) : Option Command := do
  let all ← understand preprocessSpecs words
  if !noRepeats preprocessSpecs all then none
  let origin ←
    match arguments all with
    | [] => if count "stdin" all = 0 then none else some .input
    | [path] => if path = "" then none else if count "stdin" all = 0 then some (.path path) else some .input
    | _ => none
  some (.preprocess
    { origin
      tagPrefix := (values "prefix" all).head?.getD "x-"
      out := (values "out" all).head?
      ext := (values "ext" all).head?.getD "html"
      json := count "json" all ≠ 0 })

/-- the words behind `render`: a template name -/
def readRender (words : List String) : Option Command := do
  let all ← understand renderSpecs words
  if !noRepeats renderSpecs all then none
  match arguments all with
  | [name] =>
    some (.render
      { name
        config := (values "config" all).head?
        baseDir := (values "base-dir" all).head?
        components := values "components" all
        tagPrefix := (values "prefix" all).head?
        data := (values "data" all).head? })
  | _ => none

/-- the words of a call; the option for a log may stand once before the command -/
def readCommand : List String → Option Command
  | "preprocess" :: words => readPreprocess words
  | "render" :: words => readRender words
  | log :: "preprocess" :: words => if log ∈ ["-v", "--verbose"] then readPreprocess words else none
  | log :: "render" :: words => if log ∈ ["-v", "--verbose"] then readRender words else none
  | _ => none

end Templating.Cli
