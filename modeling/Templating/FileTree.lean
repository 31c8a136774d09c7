/-
Files and directories.

A disk is a tree of directories with a home directory, where paths start that do not start at the root. Reading and
writing fail as an operating system lets them fail: a name that is not there, a file where a directory is needed, a
directory where a file is needed, and bytes that are no text.
-/
import Templating.Loader

namespace Templating

/-- a file or a directory -/
inductive FileTree where
  | file (bytes : ByteArray)
  | dir (entries : Dict FileTree)

namespace FileTree

/-- the directory without entries -/
def emptyDir : FileTree := .dir .empty

instance : Inhabited FileTree := ⟨emptyDir⟩

/-- it is a directory -/
def isDir : FileTree → Bool
  | dir _ => true
  | file _ => false

/-- what stands under names that go down -/
def entry? : FileTree → List String → Except FileFault FileTree
  | tree, [] => .ok tree
  | .file _, _ :: _ => .error .notDirectory
  | .dir entries, name :: names =>
    match entries.get? name with
    | some tree => tree.entry? names
    | none => .error .notFound

/-- the tree with an entry replaced or added, and the directories above it -/
def set (new : FileTree) : List String → FileTree → FileTree
  | [], _ => new
  | name :: names, .dir entries => .dir (entries.insert name (set new names ((entries.get? name).getD emptyDir)))
  | name :: names, .file _ => .dir (Dict.empty.insert name (set new names emptyDir))

mutual

/-- the paths of the files below a tree that is reached by `here` -/
def paths (here : String) : FileTree → List String
  | .file _ => [here]
  | .dir ⟨entries⟩ => pathsOf here entries

/-- the paths of the files below the entries of a directory that is reached by `here` -/
def pathsOf (here : String) : List (String × FileTree) → List String
  | [] => []
  | (name, tree) :: rest => tree.paths (Path.join here name) ++ pathsOf here rest

end

end FileTree

/-- a tree of files, and the directory where relative paths start -/
structure Disk where
  root : FileTree
  home : List String

namespace Disk

/-- names from the root that mean the same as names that start below `here`, where two points go up; every name that
is passed must be a directory -/
def descend (root : FileTree) : (here : List String) → List String → Except FileFault (List String)
  | here, [] => .ok here
  | here, name :: rest =>
    match root.entry? here with
    | .error fault => .error fault
    | .ok (.file _) => .error .notDirectory
    | .ok (.dir _) => if name = ".." then descend root here.dropLast rest else descend root (here ++ [name]) rest

/-- the names from the root that a path means; the last one need not be there -/
def locate (d : Disk) (path : String) : Except FileFault (List String) :=
  if path = "" then .error .notFound
  else descend d.root (if Path.isAbsolute path then [] else d.home) ((Path.names path.toList).map String.ofList)

/-- what a path names -/
def find (d : Disk) (path : String) : Except FileFault FileTree := do
  let tree ← d.root.entry? (← d.locate path)
  match tree with
  | .file _ => if Path.namesDirectory path then .error .notDirectory else return tree
  | .dir _ => return tree

/-- the path names a file -/
def isFile (d : Disk) (path : String) : Bool :=
  match d.find path with
  | .ok (.file _) => true
  | _ => false

/-- the path names a directory -/
def isDirectory (d : Disk) (path : String) : Bool :=
  match d.find path with
  | .ok (.dir _) => true
  | _ => false

/-- bytes as text -/
def textOfBytes (bytes : ByteArray) : Except FileFault String :=
  match String.fromUTF8? bytes with
  | some text => .ok text
  | none => .error .notText

/-- the text of a file -/
def readText (d : Disk) (path : String) : Except FileFault String := do
  match ← d.find path with
  | .dir _ => .error .isDirectory
  | .file bytes => textOfBytes bytes

/-- the disk with a new directory -/
def makeDirectory (d : Disk) (path : String) : Except FileFault Disk := do
  let names ← d.locate path
  match d.root.entry? names with
  | .ok _ => .error .exists
  | .error .notFound => return { d with root := FileTree.set .emptyDir names d.root }
  | .error fault => .error fault

/-- the disk with a directory and the directories above it, where they are missing -/
def makeDirectories : (fuel : Nat) → Disk → (path : String) → Except FileFault Disk
  | 0, _, _ => .error .notFound
  | fuel + 1, d, path =>
    if path = "" then .ok d
    else
      match d.makeDirectory path with
      | .ok made => .ok made
      | .error .notFound => do
        let above ← makeDirectories fuel d ((Path.parent? path).getD "")
        match above.makeDirectory path with
        | .ok made => return made
        | .error fault => if above.isDirectory path then return above else .error fault
      | .error fault => if d.isDirectory path then .ok d else .error fault

/-- the disk with a file of a text written -/
def writeText (d : Disk) (path text : String) : Except FileFault Disk := do
  let names ← d.locate path
  match d.root.entry? names with
  | .ok (.dir _) => .error .isDirectory
  | .error .notDirectory => .error .notDirectory
  | _ => return { d with root := FileTree.set (.file text.toUTF8) names d.root }

/-- the names in a directory in order, and which of them are directories -/
def list (d : Disk) (path : String) : List (String × Bool) :=
  match d.find path with
  | .ok (.dir entries) => entries.entries.map fun (name, tree) => (name, tree.isDir)
  | _ => []

/-- the template sources below a directory -/
def loader (d : Disk) (base : String) : Loader where
  load path :=
    match d.readText (Path.join base path) with
    | .ok source => .ok source
    | .error fault => .error (.file fault)
  list dir :=
    let top := Path.join base dir
    match d.find top with
    | .ok (.dir entries) => .ok (Dict.ofList ((FileTree.pathsOf "" entries.entries).map fun path => (path, ()))).keys
    | _ => .error (.notDirectory top)

end Disk

end Templating
