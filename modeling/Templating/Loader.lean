/-
Where template sources come from.

A loader gives the source under a path, and lists the paths below a directory in order, relative to it. The memory
loader holds its files in a dictionary.
-/
import Templating.Dict
import Templating.Fault
import Templating.Path
import Templating.Text.Scan

namespace Templating

/-- a place with template sources -/
structure Loader where
  load : String → Except LoadFault String
  list : String → Except LoadFault (List String)

namespace Loader

/-- the paths below a directory, relative to it -/
def pathsBelow (dir : String) (paths : List String) : List String :=
  let dir := Path.trimSlashes dir.toList
  let lead := if dir.isEmpty then [] else dir ++ ['/']
  paths.filterMap fun path => (Text.afterMark? lead path.toList).map String.ofList

/-- the loader of files held in memory -/
def memory (files : Dict String) : Loader where
  load path :=
    match files.get? path with
    | some source => .ok source
    | none => .error (.unknownTemplate path)
  list dir := .ok (pathsBelow dir files.keys)

end Loader

end Templating
