/-
What an expression evaluates to.

A variable that is not in sight is `none`, and so is a part that a value does not have. `and` and `or` answer with one
of their operands and leave the right one alone when the left decides. Numbers compare as floating point numbers,
texts by their code points, safe or not; values of other types are only equal or not. Methods belong to attribute
sets.
-/
import Templating.Expr.Basic
import Templating.Fault
import Templating.Scope
import Templating.Text.Case
import Templating.Text.Scan

namespace Templating

namespace Value

/-- the number that a value compares as -/
def number? : Value → Option Float
  | int i => some (Float.ofInt i.toInt)
  | float f => some f
  | _ => none

/-- the text that a value compares as -/
def text? : Value → Option String
  | str s | safe s => some s
  | _ => none

/-- `a == b` in an expression -/
def equal (a b : Value) : Bool :=
  match a.number?, b.number? with
  | some x, some y => x == y
  | _, _ =>
    match a.text?, b.text? with
    | some s, some t => s == t
    | _, _ => a.same b

/-- how two numbers compare, if they do -/
def orderNumbers (x y : Float) : Option Ordering :=
  if x < y then some .lt else if x == y then some .eq else if y < x then some .gt else none

/-- how two texts compare -/
def orderTexts (s t : String) : Ordering :=
  if s < t then .lt else if s = t then .eq else .gt

/-- how two values compare, if they do -/
def order? (a b : Value) : Option Ordering :=
  match a.number?, b.number? with
  | some x, some y => orderNumbers x y
  | _, _ =>
    match a.text?, b.text? with
    | some s, some t => some (orderTexts s t)
    | _, _ => none

/-- `needle in hay`: an item of a list, a key of a map or of an attribute set, or a part of a text -/
def holds (hay needle : Value) : Bool :=
  match hay with
  | list items => items.any (·.equal needle)
  | map entries => entries.contains needle.text
  | attrs attributes => attributes.has needle.text
  | str s | safe s => (Text.cutAt? needle.text.toList s.toList).isSome
  | _ => false

/-- the outcome of a comparison -/
def compare (op : Expr.Comparison) (a b : Value) : Except EvalFault Bool :=
  match op with
  | .equal => .ok (a.equal b)
  | .notEqual => .ok (!a.equal b)
  | .isIn => .ok (b.holds a)
  | op =>
    match a.order? b with
    | none => .error (.notComparable op a.typeName b.typeName)
    | some ordering =>
      .ok (match op with
        | .less => ordering == .lt
        | .lessEqual => ordering != .gt
        | .greater => ordering == .gt
        | _ => ordering != .lt)

/-- `-v` -/
def negate : Value → Except EvalFault Value
  | int i => if i = Int64.minValue then .error (.overflow i) else .ok (int (-i))
  | float f => .ok (float (-f))
  | v => .error (.notNumeric v.typeName)

/-- a method of an attribute set -/
def callMethod (target : Value) (method : String) (args : List String) : Except EvalFault Value :=
  match target with
  | attrs a =>
    match method, args with
    | "only", keys => .ok (attrs (a.only keys))
    | "without", keys => .ok (attrs (a.without keys))
    | "get", [key] => .ok (str (a.get key))
    | "has", [key] => .ok (bool (a.has key))
    | "default", [key, value] => .ok (attrs (a.withDefault key value))
    | "get", _ | "has", _ => .error (.methodArguments method "one key")
    | "default", _ => .error (.methodArguments method "a key and a value")
    | _, _ => .error (.unknownMethod method target.typeName)
  | _ => .error (.unknownMethod method target.typeName)

/-- a text changed letter by letter -/
def mapText (f : List Char → List Char) (s : String) : String :=
  String.ofList (f s.toList)

/-- a filter on a value -/
def filtered (filter : Filter) (v : Value) (arg : Option Value) : Value :=
  match filter with
  | .safe => if v.isSafe then v else safe v.text
  | .escape => safe (Text.escapeHtml v.text)
  | .upper => str (mapText Text.upper v.text)
  | .lower => str (mapText Text.lower v.text)
  | .length => int (Int64.ofNat (v.size?.getD 0))
  | .default => if v.isTruthy then v else arg.getD null

end Value

namespace Expr

mutual

/-- the value of an expression -/
def eval (scope : Scope) : Expr → Except EvalFault Value
  | literal v => .ok v
  | var name => .ok ((scope.get? name).getD .null)
  | member target key => do
    let v ← target.eval scope
    return v.member key
  | index target key => do
    let v ← target.eval scope
    let k ← key.eval scope
    return v.member k.text
  | call target method args => do
    let v ← target.eval scope
    let values ← evalAll scope args
    v.callMethod method (values.map Value.text)
  | list items => do
    let values ← evalAll scope items
    return .list values
  | neg e => do
    let v ← e.eval scope
    v.negate
  | not e => do
    let v ← e.eval scope
    return .bool (!v.isTruthy)
  | and left right => do
    let v ← left.eval scope
    if v.isTruthy then right.eval scope else return v
  | or left right => do
    let v ← left.eval scope
    if v.isTruthy then return v else right.eval scope
  | compare op left right => do
    let a ← left.eval scope
    let b ← right.eval scope
    let outcome ← Value.compare op a b
    return .bool outcome
  | filter name e none => do
    let v ← e.eval scope
    return v.filtered name none
  | filter name e (some arg) => do
    let v ← e.eval scope
    let w ← arg.eval scope
    return v.filtered name (some w)

/-- the values of expressions, from the first on -/
def evalAll (scope : Scope) : List Expr → Except EvalFault (List Value)
  | [] => .ok []
  | e :: rest => do
    let v ← e.eval scope
    let values ← evalAll scope rest
    return v :: values

end

end Expr

end Templating
