/-
Error reports: the error with the line of source it happened in.

Below the line a run of carets starts in the column of the error and ends with the tag that starts there: with the
first tag end behind it, else with the first output end, else with the line.
-/
import Templating.Error
import Templating.Text.Scan

namespace Templating

/-- marks around the parts of a report -/
structure Palette where
  alarm : String
  faint : String
  reset : String

/-- a report without colours -/
def Palette.plain : Palette := ⟨"", "", ""⟩

/-- a report for a terminal -/
def Palette.terminal : Palette := ⟨"\x1b[1;31m", "\x1b[2m", "\x1b[0m"⟩

/-- a line without the carriage return at its end -/
def dropReturn (line : List Char) : List Char :=
  match line.reverse with
  | '\r' :: before => before.reverse
  | _ => line

/-- the text up to the first line feed and what follows it, when there is one -/
def firstLine : List Char → List Char × Option (List Char)
  | [] => ([], none)
  | c :: rest =>
    if c = '\n' then ([], some rest)
    else
      let (line, after) := firstLine rest
      (c :: line, after)

/-- the line with a number counted from zero, without its line end; the empty text behind the last line feed is no
line -/
def sourceLine? : (number : Nat) → List Char → Option (List Char)
  | _, [] => none
  | 0, text =>
    let (line, after) := firstLine text
    some (if after.isSome then dropReturn line else line)
  | number + 1, text =>
    match (firstLine text).2 with
    | some rest => sourceLine? number rest
    | none => none

/-- how many characters are underlined of what follows the place of an error in its line -/
def underlineLength (rest : List Char) : Nat :=
  match Text.cutAt? ['%', '\x7d'] rest with
  | some (before, _) => before.length + 2
  | none =>
    match Text.cutAt? ['\x7d', '\x7d'] rest with
    | some (before, _) => before.length + 2
    | none => max 1 rest.length

/-- `n` blanks -/
def blanks (n : Nat) : String :=
  String.ofList (List.replicate n ' ')

/-- the three lines that show a place in the source -/
def excerpt (palette : Palette) (position : Position) (line : List Char) : String :=
  let number := toString (position.line + 1)
  let width := max 2 number.length
  let gutter (label : String) := palette.faint ++ blanks (width - label.length) ++ label ++ " |" ++ palette.reset
  let carets := List.replicate (underlineLength (line.drop position.col)) '^'
  gutter "" ++ "\n" ++ gutter number ++ " " ++ String.ofList line ++ "\n" ++ gutter "" ++ " " ++
    blanks position.col ++ palette.alarm ++ String.ofList carets ++ palette.reset ++ "\n"

/-- the error over the source of the template at fault -/
def TemplateError.report (palette : Palette) (e : TemplateError) (source : String) : String :=
  let headline := palette.alarm ++ "error:" ++ palette.reset ++ " " ++ e.detail ++ "\n"
  match e.position? with
  | none => "\n" ++ headline ++ "\n"
  | some position =>
    let shown :=
      match sourceLine? position.line source.toList with
      | some line => excerpt palette position line
      | none => ""
    let cause :=
      match e.cause? with
      | some cause => "\n caused by: " ++ cause ++ "\n"
      | none => ""
    "\n file: " ++ e.template ++ ":" ++ position.text ++ "\n" ++ headline ++ shown ++ cause ++ "\n"

end Templating
