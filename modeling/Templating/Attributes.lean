/-
Attribute sets: what a component was given besides its declared props.

A set keeps the order in which its keys came first, and the value that came last for each key. `order` lists the keys
and `values` holds what they stand for; `items` pairs the two and is what a set means to a reader. Every operation
answers with a new set.
-/
import Templating.Dict
import Templating.Text.Html

namespace Templating

/-- keys in the order of their first appearance, with their values -/
structure Attributes where
  order : List String
  values : Dict String
  deriving Repr

namespace Attributes

/-- the set without attributes -/
def empty : Attributes := ⟨[], .empty⟩

instance : Inhabited Attributes := ⟨empty⟩

/-- the key has a value -/
def has (a : Attributes) (key : String) : Bool :=
  a.values.contains key

/-- the value of a key, the empty text when there is none -/
def get (a : Attributes) (key : String) : String :=
  (a.values.get? key).getD ""

/-- the set with one more pair: a known key keeps its place and takes the new value -/
def put (a : Attributes) (key value : String) : Attributes :=
  ⟨if a.has key then a.order else a.order ++ [key], a.values.insert key value⟩

/-- the set of a list of pairs: first place, last value -/
def ofList (pairs : List (String × String)) : Attributes :=
  pairs.foldl (fun a (key, value) => a.put key value) empty

/-- keys and values in order -/
def items (a : Attributes) : List (String × String) :=
  a.order.filterMap fun key => (a.values.get? key).map fun value => (key, value)

/-- number of attributes -/
def size (a : Attributes) : Nat :=
  a.order.length

/-- there are no attributes -/
def isEmpty (a : Attributes) : Bool :=
  a.order.isEmpty

/-- the attributes whose key satisfies `keep`, in order -/
def filterKeys (a : Attributes) (keep : String → Bool) : Attributes :=
  let order := a.order.filter keep
  ⟨order, .ofList (order.filterMap fun key => (a.values.get? key).map fun value => (key, value))⟩

/-- only the attributes with one of the keys -/
def only (a : Attributes) (keys : List String) : Attributes :=
  a.filterKeys fun key => keys.contains key

/-- all attributes but those with one of the keys -/
def without (a : Attributes) (keys : List String) : Attributes :=
  a.filterKeys fun key => !keys.contains key

/-- the key whose default adds to the value instead of giving way to it -/
def classKey : String := "class"

/-- the set with a value for an absent key; the default of `class` also goes in front of the classes it has -/
def withDefault (a : Attributes) (key value : String) : Attributes :=
  match a.values.get? key with
  | none => ⟨a.order ++ [key], a.values.insert key value⟩
  | some existing => if key = classKey then { a with values := a.values.insert key (value ++ " " ++ existing) } else a

/-- one attribute as markup -/
def renderItem (key value : String) : String :=
  Text.escapeHtml key ++ "=\"" ++ Text.escapeHtml value ++ "\""

/-- the attributes as markup, one space between them -/
def render (a : Attributes) : String :=
  " ".intercalate (a.items.map fun (key, value) => renderItem key value)

/-- both sets have the same keys in the same order and the same values -/
def same (a b : Attributes) : Bool :=
  a.order == b.order && a.values.entries == b.values.entries

end Attributes

end Templating
