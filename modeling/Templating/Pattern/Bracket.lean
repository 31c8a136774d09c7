/-
Classes in brackets.

A class lists characters, ranges, escapes and further classes; two signs in a row (`&&`, `--`, `~~`) stand between two
lists and mean what both have, what the first has alone, and what one of them has alone. They count from left to right.
A circumflex in front negates the class, and dashes or a closing bracket in front stand for themselves. Classes nest
as deep as groups may.
-/
import Templating.Pattern.Escape

namespace Templating.Pattern

open Text (CharSet)

/-- the classes of ASCII that have names -/
def asciiClass? (name : List Char) : Option CharSet :=
  match String.ofList name with
  | "alnum" => some (.ofTable "30-39 41-5A 61-7A")
  | "alpha" => some (.ofTable "41-5A 61-7A")
  | "ascii" => some (.ofTable "0-7F")
  | "blank" => some (.ofTable "9 20")
  | "cntrl" => some (.ofTable "0-1F 7F")
  | "digit" => some (.ofTable "30-39")
  | "graph" => some (.ofTable "21-7E")
  | "lower" => some (.ofTable "61-7A")
  | "print" => some (.ofTable "20-7E")
  | "punct" => some (.ofTable "21-2F 3A-40 5B-60 7B-7E")
  | "space" => some (.ofTable "9-D 20")
  | "upper" => some (.ofTable "41-5A")
  | "word" => some (.ofTable "30-39 41-5A 5F 61-7A")
  | "xdigit" => some (.ofTable "30-39 41-46 61-66")
  | _ => none

/-- a class in colons behind its opening bracket: whether it is negated, its set and what follows it -/
def colonClass? (text : List Char) : Option (Bool × CharSet × List Char) := do
  let inside ← Text.afterMark? ['[', ':'] text
  let (negated, inside) :=
    match inside with
    | '^' :: rest => (true, rest)
    | rest => (false, rest)
  let after ← Text.afterMark? [':', ']'] (inside.dropWhile (· != ':'))
  let set ← asciiClass? (inside.takeWhile (· != ':'))
  some (negated, set, after)

/-- a part of a class, and how deep it nests -/
structure ClassPart where
  set : CharSet
  depth : Nat

/-- the items of a list in a class -/
structure ClassItems where
  sets : List CharSet
  /-- how deep the deepest item nests -/
  depth : Nat

/-- the list with one more item -/
def ClassItems.add (items : ClassItems) (part : ClassPart) : ClassItems :=
  ⟨part.set :: items.sets, max items.depth part.depth⟩

/-- the list as a part; one item alone nests no deeper than itself -/
def ClassItems.part (items : ClassItems) : ClassPart :=
  ⟨.unionAll items.sets, if items.sets.length ≤ 1 then items.depth else items.depth + 1⟩

/-- how two lists are put together -/
inductive ClassOperator where
  | inter
  | diff
  | symmDiff

/-- what an operator makes of two sets -/
def ClassOperator.apply : ClassOperator → CharSet → CharSet → CharSet
  | inter => .inter
  | diff => .diff
  | symmDiff => .symmDiff

/-- what stands in front of a list: nothing, or a part with an operator -/
abbrev ClassLeft := Option (ClassPart × ClassOperator)

/-- the list together with what stands in front of it -/
def ClassItems.complete (flags : Flags) (left : ClassLeft) (items : ClassItems) : ClassPart :=
  match left with
  | none => items.part
  | some (left, operator) =>
    let right := items.part
    ⟨operator.apply (flags.fold left.set) (flags.fold right.set), max left.depth right.depth + 1⟩

/-- one sign of a class -/
def classSign : Reader Sign := do
  let c ← Reader.current
  if c = '\\' then escapeSign
  else
    Reader.pass
    return .char c

/-- a character in a class -/
def classChar (flags : Flags) : Sign → Reader Char
  | .char c | .byte c => do
    Reader.demand (flags.anyScript || c.toNat < 0x80)
    return c
  | _ => failure

/-- an item by itself -/
def classSingle (flags : Flags) : Sign → Reader CharSet
  | .oneOf set => return set
  | .place _ => failure
  | sign => return .single (← classChar flags sign)

/-- a character, a range or an escape; a dash makes a range unless a closing bracket or another dash follows it -/
def classItem : Reader CharSet := do
  let sign ← classSign
  Reader.skipSpace
  let flags ← Reader.flags
  let next ← Reader.behindCurrent?
  if (← Reader.current) != '-' || next == some ']' || next == some '-' then classSingle flags sign
  else
    Reader.advance
    let first ← classChar flags sign
    let last ← classChar flags (← classSign)
    Reader.demand (first ≤ last)
    return .between first last

/-- the dashes in front of a class -/
def leadingDashes : (fuel : Nat) → ClassItems → Reader ClassItems
  | 0, items => return items
  | fuel + 1, items => do
    if (← Reader.current) = '-' then
      Reader.advance
      leadingDashes fuel (items.add ⟨.single '-', 0⟩)
    else return items

/-- the items of a class up to its closing bracket; `nested` reads a class within -/
def classItems (nested : Reader ClassPart) : (fuel : Nat) → ClassLeft → ClassItems → Reader ClassPart
  | 0, _, _ => failure
  | fuel + 1, left, items => do
    Reader.skipSpace
    let flags ← Reader.flags
    let text ← Reader.rest
    let operator (operator : ClassOperator) (rest : List Char) : Reader ClassPart := do
      Reader.goOn rest
      classItems nested fuel (some (items.complete flags left, operator)) ⟨[], 0⟩
    match text with
    | [] => failure
    | ']' :: rest =>
      Reader.goOn rest
      return items.complete flags left
    | '&' :: '&' :: rest => operator .inter rest
    | '-' :: '-' :: rest => operator .diff rest
    | '~' :: '~' :: rest => operator .symmDiff rest
    | '[' :: _ =>
      match colonClass? text with
      | some (negated, set, rest) =>
        Reader.goOn rest
        let set ← Reader.required (flags.class? negated set)
        classItems nested fuel left (items.add ⟨set, 0⟩)
      | none =>
        let part ← nested
        classItems nested fuel left (items.add part)
    | _ =>
      let set ← classItem
      classItems nested fuel left (items.add ⟨set, 0⟩)

/-- a class from its opening bracket on, with fewer than `room` classes around its parts -/
def bracketClass : (room : Nat) → Reader ClassPart
  | 0 => failure
  | room + 1 => do
    Reader.advance
    let negated := (← Reader.current) == '^'
    if negated then Reader.advance
    let text ← Reader.rest
    let dashes ← leadingDashes text.length ⟨[], 0⟩
    let bracketFirst := dashes.sets.isEmpty && (← Reader.current) == ']'
    if bracketFirst then Reader.advance
    let first := if bracketFirst then ⟨[.single ']'], 0⟩ else dashes
    let part ← classItems (bracketClass room) (text.length + 1) none first
    let set ← Reader.required ((← Reader.flags).class? negated part.set)
    return ⟨set, part.depth + 1⟩

end Templating.Pattern
