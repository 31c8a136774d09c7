/-
Attributes inside a markup tag.

Only `name="value"` counts, with white space allowed around the equals sign and the value on one line. Everything
else between them is passed over: `readAttributes` tries at every character, and goes on behind an attribute or behind
the character.
-/
import Templating.Text.Blank
import Templating.Text.Case

namespace Templating.Markup

/-- a name and a value, as written -/
structure Attribute where
  name : List Char
  value : List Char
  deriving DecidableEq, Repr

/-- characters of an attribute name -/
def isAttributeNameChar (c : Char) : Bool :=
  c.isAlphanum || c == '_' || c == ':' || c == '.' || c == '-'

/-- a quoted value on one line, behind its opening quote: the value and what is left -/
def readValue? : List Char → Option (List Char × List Char)
  | [] => none
  | c :: rest =>
    if c = '"' then some ([], rest)
    else if c = '\n' then none
    else (readValue? rest).map fun (value, rest) => (c :: value, rest)

/-- an attribute at the start of a text, and what is left -/
def readAttribute? (text : List Char) : Option (Attribute × List Char) :=
  match text.takeWhile isAttributeNameChar with
  | [] => none
  | name =>
    match Text.trimStart (text.dropWhile isAttributeNameChar) with
    | '=' :: rest =>
      match Text.trimStart rest with
      | '"' :: rest => (readValue? rest).map fun (value, rest) => (⟨name, value⟩, rest)
      | _ => none
    | _ => none

/-- the attributes of a text, not counting the next `skip` characters -/
def attributesAfter : (skip : Nat) → List Char → List Attribute
  | _, [] => []
  | skip + 1, _ :: rest => attributesAfter skip rest
  | 0, c :: rest =>
    match readAttribute? (c :: rest) with
    | some (found, left) => found :: attributesAfter (rest.length - left.length) rest
    | none => attributesAfter 0 rest

/-- the attributes of a text in order -/
def readAttributes (text : List Char) : List Attribute :=
  attributesAfter 0 text

/-- the letters of a name, each letter behind a dash in upper case and no dash; `raise` is set behind a dash -/
def camelCaseFrom (raise : Bool) : List Char → List Char
  | [] => []
  | c :: rest =>
    if c = '-' then camelCaseFrom true rest
    else (if raise then Text.upperLetter c else [c]) ++ camelCaseFrom false rest

/-- a name with dashes in camel case -/
def camelCase (name : List Char) : List Char :=
  camelCaseFrom false name

end Templating.Markup
