/-
Expressions, as they stand in outputs and tag arguments.
-/
import Templating.Expr.Operator
import Templating.Value

namespace Templating

/-- the filters of expressions -/
inductive Filter where
  | safe
  | escape
  | upper
  | lower
  | length
  | default
  deriving DecidableEq, Repr

/-- the filter of a name -/
def Filter.ofName? : String → Option Filter
  | "safe" => some .safe
  | "escape" | "e" => some .escape
  | "upper" => some .upper
  | "lower" => some .lower
  | "length" => some .length
  | "default" => some .default
  | _ => none

/-- an expression -/
inductive Expr where
  | literal (v : Value)
  | var (name : String)
  | member (target : Expr) (key : String)
  | index (target key : Expr)
  | call (target : Expr) (method : String) (args : List Expr)
  | list (items : List Expr)
  | neg (e : Expr)
  | not (e : Expr)
  | and (left right : Expr)
  | or (left right : Expr)
  | compare (op : Expr.Comparison) (left right : Expr)
  | filter (name : Filter) (e : Expr) (arg : Option Expr)
  deriving Inhabited

end Templating
