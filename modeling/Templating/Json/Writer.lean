/-
Writing JSON text.

Text is written without spaces, members in the order of their names or, with `brace`, in a given order. Inside a
string the quote, the backslash and the control characters are escaped, the latter by a letter where there is one;
everything else stands for itself. A floating point number always has a point, and an infinite one is `null`.
-/
import Templating.Json.Basic
import Templating.Decimal.Shortest

namespace Templating.Json

/-- a digit of a number in base sixteen -/
def hexChar (n : Nat) : Char :=
  Nat.digitChar (n % 16)

/-- a character inside a string -/
def quoteChar (c : Char) : List Char :=
  if c = '"' then ['\\', '"']
  else if c = '\\' then ['\\', '\\']
  else if c = '\x08' then ['\\', 'b']
  else if c = '\x0c' then ['\\', 'f']
  else if c = '\n' then ['\\', 'n']
  else if c = '\r' then ['\\', 'r']
  else if c = '\t' then ['\\', 't']
  else if c.toNat < 0x20 then ['\\', 'u', '0', '0', hexChar (c.toNat / 16), hexChar c.toNat]
  else [c]

/-- a text between double quotes -/
def quote (s : String) : String :=
  String.ofList ('"' :: s.toList.flatMap quoteChar ++ ['"'])

/-- a floating point number with a point -/
def writeFloat (f : Float) : String :=
  if Decimal.isFinite f then
    let digits := Decimal.floatText f
    if digits.contains '.' then digits else digits ++ ".0"
  else "null"

/-- items that are written already, as an array -/
def bracket (items : List String) : String :=
  "[" ++ ",".intercalate items ++ "]"

/-- members whose values are written already, as an object in the given order -/
def brace (members : List (String × String)) : String :=
  "\x7b" ++ ",".intercalate (members.map fun (name, value) => quote name ++ ":" ++ value) ++ "\x7d"

mutual

/-- the text of JSON data -/
def write : Json → String
  | .null => "null"
  | .bool b => if b then "true" else "false"
  | .int i => toString i
  | .float f => writeFloat f
  | .str s => quote s
  | .array items => bracket (writeAll items)
  | .object ⟨members⟩ => brace (writeMembers members)

/-- the texts of items -/
def writeAll : List Json → List String
  | [] => []
  | item :: rest => item.write :: writeAll rest

/-- the texts of members -/
def writeMembers : List (String × Json) → List (String × String)
  | [] => []
  | (name, value) :: rest => (name, value.write) :: writeMembers rest

end

end Templating.Json
