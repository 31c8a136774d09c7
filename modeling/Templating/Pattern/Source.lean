/-
The text of a pattern while it is read.

A reader works on what is left of the text, under the flags that are in force there, and gives up when the text is not
a pattern. With the flag `spaced`, white space and comments between the signs of a pattern do not count.
-/
import Templating.Text.Blank
import Templating.Text.Scan

namespace Templating.Pattern

/-- how the signs of a pattern are read -/
structure Flags where
  /-- letters stand for those that differ in case too -/
  caseless : Bool
  /-- `^` and `$` stand at line ends -/
  multiline : Bool
  /-- the point stands for line ends too -/
  dotAll : Bool
  /-- repetitions are lazy where they would be greedy, and the other way round -/
  swapped : Bool
  /-- classes and words are those of all scripts -/
  anyScript : Bool
  /-- a carriage return ends a line too -/
  returns : Bool
  /-- white space and comments do not count -/
  spaced : Bool

/-- the flags at the start of a pattern -/
def Flags.start : Flags :=
  ⟨false, false, false, false, true, false, false⟩

/-- where the reading of a pattern stands -/
structure Source where
  flags : Flags
  /-- how many groups with a number were opened -/
  groups : Nat
  /-- the names of groups so far -/
  names : List (List Char)
  /-- what is left of the text -/
  rest : List Char

/-- a reader of a part of a pattern -/
abbrev Reader := StateT Source Option

/-- what follows white space and comments; a comment goes from a number sign to the end of its line -/
def dropSpace : (inComment : Bool) → List Char → List Char
  | _, [] => []
  | true, c :: rest => dropSpace (c != '\n') rest
  | false, c :: rest =>
    if Text.isBlank c then dropSpace false rest else if c = '#' then dropSpace true rest else c :: rest

/-- the character that follows white space; a comment is not looked behind -/
def headBehindSpace? (text : List Char) : Option Char :=
  match (text.dropWhile Text.isBlank).head? with
  | some '#' => text.head?
  | some c => some c
  | none => text.head?

namespace Reader

/-- what is left of the text -/
def rest : Reader (List Char) :=
  return (← get).rest

/-- the flags in force -/
def flags : Reader Flags :=
  return (← get).flags

/-- go on with another text -/
def goOn (rest : List Char) : Reader Unit :=
  modify fun s => { s with rest }

/-- the next character, which must be there -/
def current : Reader Char := do
  match (← rest).head? with
  | some c => return c
  | none => failure

/-- pass white space and comments, where they do not count -/
def skipSpace : Reader Unit :=
  modify fun s => if s.flags.spaced then { s with rest := dropSpace false s.rest } else s

/-- pass the next character -/
def pass : Reader Unit :=
  modify fun s => { s with rest := s.rest.drop 1 }

/-- pass the next character and the space behind it -/
def advance : Reader Unit := do
  pass
  skipSpace

/-- pass a mark, when it comes next -/
def passMark (mark : List Char) : Reader Bool := do
  match Text.afterMark? mark (← rest) with
  | some after =>
    goOn after
    return true
  | none => return false

/-- a value that must be there -/
def required {α : Type} (value : Option α) : Reader α :=
  match value with
  | some a => return a
  | none => failure

/-- go on only under a condition -/
def demand (condition : Bool) : Reader Unit :=
  if condition then return () else failure

/-- the character that stands behind the next one, space left out where it does not count -/
def behindCurrent? : Reader (Option Char) := do
  let text := (← rest).drop 1
  return if (← flags).spaced then headBehindSpace? text else text.head?

end Reader

end Templating.Pattern
