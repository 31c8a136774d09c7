/-
Setup of a component: what happens to its data between the call and its template.

A setup looks at the data of one call and answers with the data to render, with nothing to render, or with a failure.
`SetupStep` is a small language of setups: steps that run in order and stop early on a veto or a failure.
-/
import Templating.Value

namespace Templating

/-- the key under which a component finds its attributes -/
def attributesKey : String := "attributes"

namespace Data

/-- the attribute set of the data -/
def attributes? (data : Data) : Option Attributes :=
  match data.get? attributesKey with
  | some (.attrs a) => some a
  | _ => none

/-- the data with another attribute set -/
def setAttributes (data : Data) (a : Attributes) : Data :=
  data.insert attributesKey (.attrs a)

/-- why JSON data is refused as a map of values -/
def notAMap (typeName : String) : String :=
  "expected a map of values, got " ++ typeName

/-- JSON data as a map of values, or why it is none -/
def ofJson (json : Json) : Except String Data :=
  match Value.ofJson json with
  | .map entries => .ok entries
  | .null => .ok .empty
  | v => .error (notAMap v.typeName)

/-- the integer under a key -/
def int? (data : Data) (key : String) : Option Int64 :=
  match data.get? key with
  | some (.int i) => some i
  | _ => none

/-- a page number and the number of pages -/
def pager? (data : Data) : Option (Int64 × Int64) := do
  some (← data.int? "page", ← data.int? "pages")

/-- the texts under all keys, when every value is a text -/
def texts? (data : Data) : Option (List (String × String)) :=
  data.entries.mapM fun (key, value) =>
    match value with
    | .str s | .safe s => some (key, s)
    | _ => none

end Data

/-- what a setup decides -/
inductive SetupOutcome where
  | render (data : Data)
  | noContent
  | failed (cause : String)

/-- the setup of a component -/
abbrev Setup := Data → SetupOutcome

/-- one step of a setup -/
inductive SetupStep where
  | set (key : String) (value : Value)
  | delete (key : String)
  | default (key : String) (value : Value)
  | defaults (json : Json)
  | update (json : Json)
  | copy (source target : String)
  | attributeDefault (key value : String)
  | attributeWithout (key : String)
  | setAttributes (pairs : List (String × String))
  | require (key : String)
  | pager
  | veto
  | fail (cause : String)

namespace SetupStep

/-- the attribute set of the data, or an empty one, changed -/
def changeAttributes (data : Data) (change : Attributes → Attributes) : SetupOutcome :=
  .render (Data.setAttributes data (change ((Data.attributes? data).getD .empty)))

/-- what one step does -/
def run (data : Data) : SetupStep → SetupOutcome
  | set key value => .render (data.insert key value)
  | delete key => .render (data.erase key)
  | default key value => .render (data.insertNew key value)
  | defaults json =>
    match Data.ofJson json with
    | .ok entries => .render (data.insertNewAll entries)
    | .error cause => .failed cause
  | update json =>
    match Data.ofJson json with
    | .ok entries => .render (data.insertAll entries)
    | .error cause => .failed cause
  | copy source target => .render (data.insert target ((data.get? source).getD .null))
  | attributeDefault key value => changeAttributes data (·.withDefault key value)
  | attributeWithout key => changeAttributes data (·.without [key])
  | setAttributes pairs => .render (Data.setAttributes data (.ofList pairs))
  | require key =>
    match data.get? key with
    | some v => if v.isTruthy then .render data else .noContent
    | none => .noContent
  | pager =>
    match Data.pager? data with
    | some (page, pages) => .render (data.insert "has_next" (.bool (page < pages)))
    | none => .failed "bind failed"
  | veto => .noContent
  | fail cause => .failed cause

/-- steps in order, up to the first that does not render -/
def runAll (data : Data) : List SetupStep → SetupOutcome
  | [] => .render data
  | step :: rest =>
    match step.run data with
    | .render data => runAll data rest
    | outcome => outcome

/-- the setup that runs the steps -/
def setup (steps : List SetupStep) : Setup :=
  fun data => runAll data steps

end SetupStep

end Templating
