/-
Template errors: a fault and where it happened.

A syntax or render error names the template and the position of the tag at fault, lines and columns from one; a load
error names what could not be loaded.
-/
import Templating.Fault
import Templating.Position

namespace Templating

/-- a place in a template -/
structure Site where
  template : String
  position : Position
  deriving DecidableEq, Repr, Inhabited

/-- why there is no page -/
inductive TemplateError where
  | malformed (site : Site) (fault : SyntaxFault)
  | render (site : Site) (fault : RenderFault)
  | load (name : String) (fault : LoadFault)
  deriving DecidableEq

/-- line and column from one -/
def Position.text (p : Position) : String :=
  toString (p.line + 1) ++ ":" ++ toString (p.col + 1)

namespace TemplateError

/-- the template at fault -/
def template : TemplateError → String
  | malformed site _ | render site _ => site.template
  | load name _ => name

/-- where the fault is, when the source was read at all -/
def position? : TemplateError → Option Position
  | malformed site _ | render site _ => some site.position
  | load _ _ => none

/-- what lies behind the error -/
def cause? : TemplateError → Option String
  | malformed _ _ => none
  | render _ fault => fault.cause?
  | load _ fault => some fault.message

/-- the fault without its place -/
def detail : TemplateError → String
  | malformed _ fault => fault.message
  | render _ fault => fault.message
  | load name fault => "template " ++ inQuotes name ++ " could not be loaded: " ++ fault.message

/-- the fault with its place -/
def message (e : TemplateError) : String :=
  match e.position? with
  | some position => e.template ++ ":" ++ position.text ++ ": " ++ e.detail
  | none => e.detail

end TemplateError

end Templating
