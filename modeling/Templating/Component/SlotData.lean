/-
Slot data: what a component shows of its data to the slots it is given.

The value of `slotData` is empty, or a name that the whole data goes by, or a list of keys in braces. A key may go by
another name in the slot, which stands behind a colon. White space may stand behind commas and colons, and inside and
outside of the braces, of which there may be several.
-/
import Templating.Text.Blank
import Templating.Value

namespace Templating

/-- one key of the data and the name it goes by in the slot, when that is another -/
structure SlotKey where
  name : String
  other : Option String
  deriving DecidableEq, Repr

/-- the variable that a key becomes -/
def SlotKey.binding (key : SlotKey) : String :=
  key.other.getD key.name

/-- what the slots of a component see of its data -/
inductive SlotData where
  | nothing
  | everything (name : String)
  | keys (list : List SlotKey)
  deriving DecidableEq, Repr

namespace SlotData

/-- characters of keys -/
def isKeyChar (c : Char) : Bool :=
  c.isAlphanum || c == '_'

/-- a key name at the start of a text, and what is left -/
def readName? (text : List Char) : Option (List Char × List Char) :=
  match text.takeWhile isKeyChar with
  | [] => none
  | name => some (name, text.dropWhile isKeyChar)

/-- a key with or without another name, and what is left -/
def readKey? (text : List Char) : Option (SlotKey × List Char) := do
  let (name, rest) ← readName? text
  match rest with
  | ':' :: rest =>
    let (other, rest) ← readName? (Text.trimStart rest)
    some (⟨String.ofList name, some (String.ofList other)⟩, rest)
  | rest => some (⟨String.ofList name, none⟩, rest)

/-- keys between commas up to the end of the text -/
def readKeys? : (fuel : Nat) → List Char → Option (List SlotKey)
  | 0, _ => none
  | fuel + 1, text => do
    let (key, rest) ← readKey? text
    match rest with
    | [] => some [key]
    | ',' :: rest =>
      let keys ← readKeys? fuel (Text.trimStart rest)
      some (key :: keys)
    | _ => none

/-- braces of either kind -/
def isBrace (c : Char) : Bool :=
  c == '\x7b' || c == '\x7d'

/-- the text inside its braces, however many there are -/
def insideBraces (text : List Char) : List Char :=
  Text.trim (Text.dropEndWhile isBrace (text.dropWhile isBrace))

/-- why a value is refused -/
def invalidReason : String :=
  "invalid format: contains invalid characters or structure"

/-- the slot data of a written value, none when the value is malformed -/
def ofText? (value : String) : Option SlotData :=
  let text := Text.trim value.toList
  if text.isEmpty then some nothing
  else if text.head? = some '\x7b' ∧ text.getLast? = some '\x7d' then
    let inside := insideBraces text
    if inside.isEmpty then some (keys []) else (readKeys? inside.length inside).map keys
  else some (everything (String.ofList text))

/-- the variables of a slot -/
def bindings (data : Data) : SlotData → List (String × Value)
  | nothing => []
  | everything name => [(name, .map data)]
  | keys list => list.map fun key => (key.binding, (data.get? key.name).getD .null)

end SlotData

end Templating
