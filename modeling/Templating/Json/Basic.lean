/-
JSON data.

`Json` is data: an object is a dictionary, and integers are told from floating point numbers. `Written` is a document
as it is written, where an object lists its members in order and may repeat a name; `Written.data` forgets the
difference, and the last member of a name wins. A document may also have parts that nobody needs to understand: these
are `unread`.
-/
import Templating.Dict

namespace Templating

/-- JSON data -/
inductive Json where
  | null
  | bool (b : Bool)
  | int (i : Int)
  | float (f : Float)
  | str (s : String)
  | array (items : List Json)
  | object (members : Dict Json)
  deriving Inhabited

namespace Json

/-- a JSON document with the members of objects as written -/
inductive Written where
  | null
  | bool (b : Bool)
  | int (i : Int)
  | float (f : Float)
  | str (s : String)
  | array (items : List Written)
  | object (members : List (String × Written))
  | unread
  deriving Inhabited

mutual

/-- the data of a document -/
def Written.data : Written → Json
  | .null => .null
  | .bool b => .bool b
  | .int i => .int i
  | .float f => .float f
  | .str s => .str s
  | .array items => .array (Written.dataAll items)
  | .object members => .object (Dict.ofList (Written.dataMembers members))
  | .unread => .null

/-- the data of every item -/
def Written.dataAll : List Written → List Json
  | [] => []
  | item :: rest => item.data :: Written.dataAll rest

/-- the data of every member -/
def Written.dataMembers : List (String × Written) → List (String × Json)
  | [] => []
  | (name, value) :: rest => (name, value.data) :: Written.dataMembers rest

end

/-- a member of an object, nothing for other data -/
def member? (name : String) : Json → Option Json
  | .object members => members.get? name
  | _ => none

end Json

end Templating
