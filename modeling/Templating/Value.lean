/-
Values: what expressions evaluate to and what data maps hold.

A safe text is markup already and is written as it is; attribute sets render to markup of their own; everything else
is escaped on its way out (`Value.toHtml`). Lists and maps are written in full, but text inside them counts as text,
so a safe text inside a list is escaped with the list.
-/
import Templating.Attributes
import Templating.Decimal.Shortest
import Templating.Json.Basic

namespace Templating

/-- the value of an expression -/
inductive Value where
  | null
  | bool (b : Bool)
  | int (i : Int64)
  | float (f : Float)
  | str (s : String)
  | safe (s : String)
  | list (items : List Value)
  | map (entries : Dict Value)
  | attrs (attributes : Attributes)
  deriving Inhabited

/-- the data that a template renders with -/
abbrev Data := Dict Value

namespace Value

/-- what a value is called in messages -/
def typeName : Value → String
  | null => "none"
  | bool _ => "bool"
  | int _ => "int"
  | float _ => "float"
  | str _ => "string"
  | safe _ => "safe string"
  | list _ => "list"
  | map _ => "map"
  | attrs _ => "attributes"

/-- the value is `none` -/
def isNull : Value → Bool
  | null => true
  | _ => false

/-- the value counts as true in a condition -/
def isTruthy : Value → Bool
  | null => false
  | bool b => b
  | int i => i != 0
  | float f => f != 0.0
  | str s | safe s => s != ""
  | list items => !items.isEmpty
  | map entries => !entries.isEmpty
  | attrs attributes => !attributes.isEmpty

/-- the value is written without escaping -/
def isSafe : Value → Bool
  | safe _ | attrs _ => true
  | _ => false

/-! ## text of a value -/

mutual

/-- the value as plain text -/
def text : Value → String
  | null => ""
  | bool b => if b then "true" else "false"
  | int i => toString i.toInt
  | float f => Decimal.floatText f
  | str s | safe s => s
  | list items => "[" ++ ", ".intercalate (textAll items) ++ "]"
  | map ⟨entries⟩ => "\x7b" ++ ", ".intercalate (textEntries entries) ++ "\x7d"
  | attrs attributes => attributes.render

/-- the items of a list as plain text -/
def textAll : List Value → List String
  | [] => []
  | item :: rest => item.text :: textAll rest

/-- the entries of a map as plain text -/
def textEntries : List (String × Value) → List String
  | [] => []
  | (key, value) :: rest => (key ++ ": " ++ value.text) :: textEntries rest

end

/-- the value as it is written into a page -/
def toHtml (v : Value) : String :=
  if v.isSafe then v.text else Text.escapeHtml v.text

/-! ## parts of a value -/

/-- number of characters, items, entries or attributes -/
def size? : Value → Option Nat
  | str s | safe s => some s.length
  | list items => some items.length
  | map entries => some entries.size
  | attrs attributes => some attributes.size
  | _ => none

/-- greatest index of sixty-four bits -/
def maxIndex : Nat := 0xFFFFFFFFFFFFFFFF

/-- the index that a key of a list stands for: digits that fit sixty-four bits, with at most one plus sign in front -/
def listIndex? (key : String) : Option Nat :=
  let digits :=
    match key.toList with
    | '+' :: rest => rest
    | digits => digits
  if digits.isEmpty || !digits.all Char.isDigit then none
  else
    let index := Decimal.natOfDigits digits
    if index ≤ maxIndex then some index else none

/-- the part of a value under a key, `none` when it has no such part -/
def member (v : Value) (key : String) : Value :=
  match v with
  | map entries => (entries.get? key).getD null
  | attrs attributes => if attributes.has key then str (attributes.get key) else null
  | list items => ((listIndex? key).bind fun index => items[index]?).getD null
  | _ => null

/-! ## equality -/

mutual

/-- both values have the same type and the same content; floating point numbers compare as numbers -/
def same : Value → Value → Bool
  | null, null => true
  | bool a, bool b => a == b
  | int a, int b => a == b
  | float a, float b => a == b
  | str a, str b => a == b
  | safe a, safe b => a == b
  | list as, list bs => sameAll as bs
  | map ⟨as⟩, map ⟨bs⟩ => sameEntries as bs
  | attrs a, attrs b => a.same b
  | _, _ => false

/-- the items of both lists are the same, one by one -/
def sameAll : List Value → List Value → Bool
  | [], [] => true
  | a :: as, b :: bs => a.same b && sameAll as bs
  | _, _ => false

/-- the entries of both maps are the same, one by one -/
def sameEntries : List (String × Value) → List (String × Value) → Bool
  | [], [] => true
  | (k, a) :: as, (l, b) :: bs => k == l && a.same b && sameEntries as bs
  | _, _ => false

end

/-! ## JSON -/

/-- smallest integer that a value holds -/
def minInt : Int := -0x8000000000000000

/-- greatest integer that a value holds -/
def maxInt : Int := 0x7FFFFFFFFFFFFFFF

mutual

/-- the value of JSON data; an integer out of range becomes a floating point number -/
def ofJson : Json → Value
  | .null => null
  | .bool b => bool b
  | .int i => if minInt ≤ i ∧ i ≤ maxInt then int (Int64.ofInt i) else float (Float.ofInt i)
  | .float f => float f
  | .str s => str s
  | .array items => list (ofJsonAll items)
  | .object ⟨members⟩ => map ⟨ofJsonMembers members⟩

/-- the values of JSON items -/
def ofJsonAll : List Json → List Value
  | [] => []
  | item :: rest => ofJson item :: ofJsonAll rest

/-- the values of JSON members -/
def ofJsonMembers : List (String × Json) → List (String × Value)
  | [] => []
  | (name, member) :: rest => (name, ofJson member) :: ofJsonMembers rest

end

mutual

/-- the value as JSON data: safe text is text, an attribute set is an object, and there is no infinite number -/
def toJson : Value → Json
  | null => .null
  | bool b => .bool b
  | int i => .int i.toInt
  | float f => if Decimal.isFinite f then .float f else .null
  | str s | safe s => .str s
  | list items => .array (toJsonAll items)
  | map ⟨entries⟩ => .object ⟨toJsonEntries entries⟩
  | attrs attributes => .object (.ofList (attributes.items.map fun (key, value) => (key, .str value)))

/-- the items of a list as JSON data -/
def toJsonAll : List Value → List Json
  | [] => []
  | item :: rest => item.toJson :: toJsonAll rest

/-- the entries of a map as JSON data -/
def toJsonEntries : List (String × Value) → List (String × Json)
  | [] => []
  | (key, value) :: rest => (key, value.toJson) :: toJsonEntries rest

end

/-- the data map of JSON data: an object, or the empty map for `null` -/
def dataOfJson? (json : Json) : Option Data :=
  match ofJson json with
  | map entries => some entries
  | null => some .empty
  | _ => none

end Value

end Templating
