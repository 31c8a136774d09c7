/-
Paths written with slashes.

Only names count: empty parts and single points between slashes say nothing. The extension of a path is what follows
the last point of its last name, unless the name starts with that point.
-/

namespace Templating.Path

/-- the parts between separators -/
def splitOn (separator : Char) : List Char → List (List Char)
  | [] => [[]]
  | c :: rest =>
    if c = separator then [] :: splitOn separator rest
    else
      match splitOn separator rest with
      | [] => [[c]]
      | part :: parts => (c :: part) :: parts

/-- the names of a path, `..` included -/
def names (path : List Char) : List (List Char) :=
  (splitOn '/' path).filter fun part => part ≠ [] ∧ part ≠ ['.']

/-- the last name of a path, when it names something -/
def fileName? (path : List Char) : Option (List Char) :=
  match (names path).getLast? with
  | some ['.', '.'] => none
  | name => name

/-- what follows the last point of a name, when something stands before it -/
def nameExtension? (name : List Char) : Option (List Char) :=
  let reversed := name.reverse
  match reversed.dropWhile (· ≠ '.') with
  | _ :: _ :: _ => some (reversed.takeWhile (· ≠ '.')).reverse
  | _ => none

/-- the extension of a path -/
def extension? (path : List Char) : Option (List Char) :=
  (fileName? path).bind nameExtension?

/-- the path starts at the root -/
def isAbsolute (path : String) : Bool :=
  path.toList.head? == some '/'

/-- a path below another; an absolute path stands for itself -/
def join (base path : String) : String :=
  if isAbsolute path ∨ base = "" then path
  else if base.toList.getLast? = some '/' then base ++ path
  else base ++ "/" ++ path

/-- a path, written backwards, without slashes and single points at its end -/
def trimTail : List Char → List Char
  | [] => []
  | '/' :: rest => if rest.isEmpty then ['/'] else trimTail rest
  | '.' :: rest =>
    match rest with
    | '/' :: _ => trimTail rest
    | _ => '.' :: rest
  | path => path

/-- the directory that a path is in; it is empty for a name alone, and the root is in none -/
def parent? (path : String) : Option String :=
  match trimTail path.toList.reverse with
  | [] => none
  | ['/'] => none
  | reversed => some (String.ofList (trimTail (reversed.dropWhile (· ≠ '/'))).reverse)

/-- the path can only name a directory -/
def namesDirectory (path : String) : Bool :=
  match path.toList.reverse with
  | '/' :: _ => true
  | '.' :: '/' :: _ => true
  | ['.'] => true
  | _ => false

/-- the text without slashes at either end -/
def trimSlashes (path : List Char) : List Char :=
  ((path.dropWhile (· = '/')).reverse.dropWhile (· = '/')).reverse

/-- an extension without the points in front, when anything is left -/
def bareExtension? (ext : Option String) : Option (List Char) :=
  match ext.map fun e => e.toList.dropWhile (· = '.') with
  | some [] | none => none
  | some bare => some bare

/-- a path with the default extension, unless it has one of its own -/
def withDefaultExtension (ext : Option String) (path : String) : String :=
  match bareExtension? ext with
  | some bare =>
    if (extension? path.toList).isNone then path ++ "." ++ String.ofList bare else path
  | none => path

end Templating.Path
