/-
The commands of the program.

`preprocess` writes component markup as tags: of its input or of one file to the output, or of files into a
directory. `render` renders one template with its components. A command runs on a disk and writes to two streams; it
stops at its first failure, and what it wrote before stays written. A panic ends it with a code of its own.
-/
import Templating.Cli.Usage
import Templating.Config
import Templating.Json.Writer
import Templating.Report
import Templating.Template.Render

namespace Templating.Cli

/-- what a running command sees and leaves behind -/
structure Console where
  disk : Disk
  out : String
  err : String
  /-- paths and texts of the files that were written, in order -/
  written : List (String × String)

/-- how a command stops early -/
inductive Halt where
  | failed (message : String)
  | panicked (message : String)

/-- the exit code -/
def Halt.code : Halt → Nat
  | failed _ => 1
  | panicked _ => 101

/-- what the error stream gets -/
def Halt.text : Halt → String
  | failed message => "Error: " ++ message ++ "\n"
  | panicked message => message ++ "\n"

/-- a part of a command: it changes the console, and it may stop the command -/
abbrev Job (α : Type) := ExceptT Halt (StateM Console) α

namespace Job

/-- the command stops with a message -/
def fail {α : Type} (message : String) : Job α :=
  throw (.failed message)

/-- text for the output -/
def print (text : String) : Job Unit :=
  modify fun c => { c with out := c.out ++ text }

/-- text for the error stream -/
def warn (text : String) : Job Unit :=
  modify fun c => { c with err := c.err ++ text }

/-- the result of a step, or the end of the command -/
def orFail {α ε : Type} (step : Except ε α) (message : ε → String) : Job α :=
  match step with
  | .ok result => return result
  | .error e => fail (message e)

end Job

/-! ## preprocess -/

/-- the expanded source, with the components used when JSON is asked for -/
def printExpanded (call : Preprocess) (source : String) : Job Unit :=
  let result := Markup.expand call.tagPrefix source
  if call.json then
    Job.print (Json.brace
      [("code", Json.quote result.code), ("components", Json.bracket (result.components.map Json.quote)),
        ("rewritten", toString result.count)] ++ "\n")
  else Job.print result.code

/-- the text of a file -/
def readSource (path : String) : Job String := do
  Job.orFail ((← get).disk.readText path) fun fault => "failed to read " ++ path ++ ": " ++ fault.message

/-- the directory of a file that is about to be written -/
def makeParent (target : String) : Job Unit := do
  match Path.parent? target with
  | none => return
  | some parent =>
    let disk ← Job.orFail (Disk.makeDirectories (parent.length + 1) (← get).disk parent)
      fun fault => "failed to create " ++ parent ++ ": " ++ fault.message
    modify fun c => { c with disk }

/-- one file expanded into another -/
def expandFile (call : Preprocess) (path target : String) : Job Unit := do
  let source ← readSource path
  let code := (Markup.expand call.tagPrefix source).code
  makeParent target
  let disk ← Job.orFail ((← get).disk.writeText target code)
    fun fault => "failed to write " ++ target ++ ": " ++ fault.message
  modify fun c => { c with disk, written := c.written ++ [(target, code)] }
  Job.warn ("  ✓ " ++ target ++ "\n")

/-- the files with the extension below a directory, in the order of their names, expanded into `out`; `relative` is
the way to the directory from where the walk began -/
def expandBelow (call : Preprocess) (out : String) : (fuel : Nat) → (path relative : String) → Job Unit
  | 0, _, _ => return
  | fuel + 1, path, relative => do
    for (name, isDir) in (← get).disk.list path do
      let inner := Path.join path name
      let way := Path.join relative name
      if isDir then expandBelow call out fuel inner way
      else if Path.nameExtension? name.toList = some call.ext.toList then
        expandFile call inner (Path.join out way)

/-- how deep directories can nest below a tree, counted generously -/
def depthBound (disk : Disk) (out : String) : Nat :=
  (disk.root.paths "").foldl (fun sum path => sum + path.length) (out.length + 1)

/-- the files below a directory expanded into another -/
def expandDirectory (call : Preprocess) (path : String) : Job Unit := do
  match call.out with
  | none => Job.fail "--out is required when preprocessing a directory"
  | some out =>
    expandBelow call out (depthBound (← get).disk out) path ""
    if (← get).written.isEmpty then Job.fail ("no ." ++ call.ext ++ " files found in " ++ path)

/-- a file or a directory expanded -/
def expandPath (call : Preprocess) (path : String) : Job Unit := do
  let disk := (← get).disk
  if disk.isFile path then
    match call.out with
    | none =>
      let source ← readSource path
      printExpanded call source
    | some out =>
      let name := ((Path.fileName? path.toList).map String.ofList).getD path
      expandFile call path (Path.join out name)
  else if disk.isDirectory path then expandDirectory call path
  else Job.fail (path ++ " does not exist")

/-- a call of `preprocess` -/
def preprocess (call : Preprocess) (input : ByteArray) : Job Unit := do
  match call.origin with
  | .input =>
    let source ← Job.orFail (Disk.textOfBytes input) fun fault => "failed to read stdin: " ++ fault.message
    printExpanded call source
  | .path path => expandPath call path

/-! ## render -/

/-- the configuration of a call: that of the file, with what the call says itself -/
def configOf (call : Render) (disk : Disk) : Except Config.Fault Config := do
  let config ←
    match call.config with
    | some path => Config.load disk path
    | none => pure .standard
  return { config with
    baseDir := call.baseDir.getD config.baseDir
    tagPrefix := call.tagPrefix.or config.tagPrefix
    componentDirs := config.componentDirs ++ call.components.map fun dir => ⟨dir, ""⟩ }

/-- the data of a call, which is a JSON object -/
def dataOf (call : Render) : Except String Data :=
  match call.data with
  | none => .ok .empty
  | some text =>
    match Json.read? text with
    | none => .error "invalid --data: not JSON"
    | some written =>
      match Value.dataOfJson? written.data with
      | some data => .ok data
      | none => .error "--data must be a JSON object"

/-- a template error for the error stream: over its source, when there is one -/
def describe (set : TemplateSet) (e : TemplateError) : String :=
  match set.loadSource e.template, e.position? with
  | .ok source, some _ => e.report .plain (set.preprocess source)
  | _, _ =>
    let cause :=
      match e.cause? with
      | some cause => "  caused by: " ++ cause ++ "\n"
      | none => ""
    "Error: " ++ e.message ++ "\n" ++ cause

/-- a template rendered with data -/
def renderNamed (set : TemplateSet) (name : String) (data : Data) : Except TemplateError String := do
  let template ← (set.fromFile name).1
  template.render data

/-- the template set of a configuration; a scan that panics ends the command -/
def setOf (config : Config) : Job TemplateSet := do
  match config.build (← get).disk with
  | .ok set => return set
  | .error (.componentDir _ (.notBoundary byte)) => throw (.panicked (ScanFault.notBoundary byte).message)
  | .error fault => Job.fail fault.message

/-- a call of `render`; true when there is a page -/
def render (call : Render) : Job Bool := do
  let disk := (← get).disk
  let config ← Job.orFail (configOf call disk) Config.Fault.message
  let data ← Job.orFail (dataOf call) id
  let set ← setOf config
  match renderNamed set call.name data with
  | .ok html =>
    Job.print html
    return true
  | .error e =>
    Job.warn (describe set e)
    return false

/-! ## calls -/

/-- what a call leaves behind -/
structure Outcome where
  code : Nat
  out : String
  err : String
  disk : Disk
  /-- paths and texts of the files that were written, in order -/
  written : List (String × String)
  /-- how many files a finished `preprocess` wrote, when it wrote any -/
  summary : Option Nat

/-- the last line of a `preprocess` that wrote files, which took some time -/
def summaryLine (files : Nat) (time : String) : String :=
  "\n✨ Preprocessed " ++ toString files ++ (if files = 1 then " file" else " files") ++ " in " ++ time ++ "\n"

/-- a number of microseconds in the unit that suits it, with one place for milliseconds and two for seconds -/
def durationText (micros : Nat) : String :=
  if micros < 1000 then toString micros ++ "μs"
  else if micros < 1000000 then
    let tenths := (micros + 50) / 100
    toString (tenths / 10) ++ "." ++ toString (tenths % 10) ++ "ms"
  else
    let hundredths := (micros + 5000) / 10000
    toString (hundredths / 100) ++ "." ++ toString (hundredths / 10 % 10) ++ toString (hundredths % 10) ++ "s"

/-- a command on a disk -/
def runCommand (disk : Disk) (input : ByteArray) (command : Command) : Outcome :=
  let start : Console := ⟨disk, "", "", []⟩
  let job : Job Bool :=
    match command with
    | .preprocess call => do
      preprocess call input
      return true
    | .render call => render call
  match StateT.run (ExceptT.run job) start with
  | (.ok true, c) => ⟨0, c.out, c.err, c.disk, c.written, if c.written.isEmpty then none else some c.written.length⟩
  | (.ok false, c) => ⟨1, c.out, c.err, c.disk, c.written, none⟩
  | (.error halt, c) => ⟨halt.code, c.out, c.err ++ halt.text, c.disk, c.written, none⟩

/-- how the program is called -/
def usage : String :=
  "usage: templating preprocess [PATH] [--stdin] [--prefix PREFIX] [--out DIR] [--ext EXT] [--json]\n" ++
    "       templating render NAME [--config FILE] [--base-dir DIR] [--components DIR]... [--prefix PREFIX] " ++
    "[--data JSON]\n"

/-- a call of the program -/
def run (disk : Disk) (input : ByteArray) (words : List String) : Outcome :=
  match readCommand words with
  | some command => runCommand disk input command
  | none => ⟨2, "", usage, disk, [], none⟩

end Templating.Cli
