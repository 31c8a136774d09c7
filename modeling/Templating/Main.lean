/-
The program.

It reads the files that a call names into a disk, lets the command run on that disk, and then writes what the command
wrote.
-/
import Templating.Cli.Command

namespace Templating.Cli

/-- the file or the directory at a path, as it is now; links to directories are not followed below it -/
partial def snapshot (path : String) : IO (Option FileTree) := do
  let there ← try some <$> IO.FS.realPath path catch _ => pure none
  match there with
  | none => return none
  | some place =>
    if ← place.isDir then
      let mut entries : Dict FileTree := .empty
      for entry in ← place.readDir do
        let inner := Path.join place.toString entry.fileName
        let target ← try some <$> IO.FS.realPath inner catch _ => pure none
        if let some target := target then
          if target.toString = inner || !(← target.isDir) then
            if let some tree ← snapshot inner then entries := entries.insert entry.fileName tree
      return some (.dir entries)
    else if ← place.pathExists then return some (.file (← IO.FS.readBinFile place))
    else return none

/-- the path is a directory now -/
def isDirectoryNow (path : String) : IO Bool := do
  try (← IO.FS.realPath path).isDir catch _ => return false

/-- the disk with a path read, and the directories on the way to it -/
def addPath (disk : Disk) (path : String) : IO Disk := do
  let mut disk := disk
  let mut way := if Path.isAbsolute path then "/" else ""
  for name in (Path.names path.toList).map String.ofList do
    way := Path.join way name
    if let .ok names := disk.locate way then
      if let .error _ := disk.root.entry? names then
        if ← isDirectoryNow way then disk := { disk with root := FileTree.set .emptyDir names disk.root }
  match disk.locate path, ← snapshot path with
  | .ok names, some tree => return { disk with root := FileTree.set tree names disk.root }
  | _, _ => return disk

/-- the disk that a command sees -/
def diskFor (home : List String) (command : Command) : IO Disk := do
  let disk : Disk := ⟨FileTree.set .emptyDir home .emptyDir, home⟩
  match command with
  | .preprocess ⟨.input, _, _, _, _⟩ => return disk
  | .preprocess ⟨.path path, _, out, _, _⟩ => (path :: out.toList).foldlM addPath disk
  | .render call =>
    let disk ← call.config.toList.foldlM addPath disk
    match configOf call disk with
    | .error _ => return disk
    | .ok config => (config.baseDir :: config.componentDirs.map (Path.join config.baseDir ·.dir)).foldlM addPath disk

/-- all bytes of the input, when the command wants them -/
def inputFor (command : Command) : IO ByteArray := do
  match command with
  | .preprocess ⟨.input, _, _, _, _⟩ => (← IO.getStdin).readBinToEnd
  | _ => return .empty

/-- the files that a command wrote -/
def keep (written : List (String × String)) : IO Unit := do
  for (path, text) in written do
    if let some parent := Path.parent? path then
      if parent ≠ "" then IO.FS.createDirAll parent
    IO.FS.writeFile path text

/-- a call of the program with its exit code -/
def call (words : List String) : IO UInt32 := do
  match readCommand words with
  | none =>
    IO.eprint usage
    return 2
  | some command =>
    let start ← IO.monoNanosNow
    let home := (Path.names (← IO.currentDir).toString.toList).map String.ofList
    let outcome := runCommand (← diskFor home command) (← inputFor command) command
    keep outcome.written
    IO.print outcome.out
    IO.eprint outcome.err
    if let some files := outcome.summary then
      IO.eprint (summaryLine files (durationText (((← IO.monoNanosNow) - start) / 1000)))
    return outcome.code.toUInt32

end Templating.Cli

/-- the program -/
def main (words : List String) : IO UInt32 :=
  Templating.Cli.call words
