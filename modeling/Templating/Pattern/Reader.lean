/-
Reading patterns from their written form.

Outside brackets every character stands for itself but `. [ ( ) | * + ? { ^ $ \`. Parentheses make a group, which has a
number unless a question mark and a colon follow; flags between these two hold inside the group, and flags in
parentheses of their own hold up to the end of the group around them. A pattern that is not well-formed is refused as
a whole, and so is one that nests too deep or takes too much room.
-/
import Templating.Pattern.Bracket
import Templating.Pattern.Size

namespace Templating.Pattern

/-- patterns nest at most so deep -/
def depthLimit : Nat := 250

/-- an item of a sequence; flags in parentheses of their own cannot be repeated -/
structure Item where
  pattern : Pattern
  depth : Nat
  repeatable : Bool

/-- how deep a list nests: one member alone nests no deeper than itself -/
def listDepth (depths : List Nat) : Nat :=
  let deepest := depths.foldl max 0
  if depths.length ≤ 1 then deepest else deepest + 1

/-- items one after the other; the last one comes first here -/
def sequenceItem (items : List Item) : Item :=
  ⟨sequence (items.reverse.map (·.pattern)), listDepth (items.map (·.depth)), true⟩

/-- alternatives; the last one comes first here -/
def choiceItem (options : List Item) : Item :=
  ⟨choice (options.reverse.map (·.pattern)), listDepth (options.map (·.depth)), true⟩

/-! ## single signs -/

/-- a character that stands for itself -/
def exactly (flags : Flags) (c : Char) : Pattern :=
  .oneOf (flags.fold (.single c))

/-- the point: any character, but not the ends of lines unless the flags say so -/
def point? (flags : Flags) : Option Pattern :=
  if !flags.anyScript then none
  else if flags.dotAll then some (.oneOf .all)
  else if flags.returns then some (.oneOf (Text.CharSet.union (.single '\n') (.single '\r')).complement)
  else some (.oneOf (Text.CharSet.single '\n').complement)

/-- one sign as a pattern; a byte beyond ASCII is no character -/
def signPattern? (flags : Flags) : Sign → Option Pattern
  | .char c => some (exactly flags c)
  | .byte c => if flags.anyScript || c.toNat < 0x80 then some (exactly flags c) else none
  | .oneOf set => some (.oneOf set)
  | .place p => some (.place p)

/-- one sign outside brackets -/
def signItem : Reader Item := do
  let flags ← Reader.flags
  let c ← Reader.current
  let pattern ←
    if c = '\\' then do Reader.required (signPattern? flags (← escapeSign))
    else do
      Reader.pass
      match c with
      | '.' => Reader.required (point? flags)
      | '^' => pure (.place (if flags.multiline then .lineStart flags.returns else .textStart))
      | '$' => pure (.place (if flags.multiline then .lineEnd flags.returns else .textEnd))
      | c => pure (exactly flags c)
  return ⟨pattern, 0, true⟩

/-! ## repetitions -/

/-- how often a pattern is repeated -/
structure Count where
  least : Nat
  most : Option Nat

/-- pass white space -/
def passBlanks : Reader Unit := do
  Reader.goOn ((← Reader.rest).dropWhile Text.isBlank)

/-- the digits of a numeral -/
def digits : (fuel : Nat) → Reader (List Char)
  | 0 => return []
  | fuel + 1 => do
    match (← Reader.rest).head? with
    | some c =>
      if c.isDigit then
        Reader.advance
        return c :: (← digits fuel)
      else return []
    | none => return []

/-- a numeral of a count, with white space around it -/
def countNumber : Reader Nat := do
  passBlanks
  let numeral ← digits ((← Reader.rest).length + 1)
  Reader.demand (!numeral.isEmpty)
  let value := numeral.foldl (fun n c => 10 * n + (c.toNat - '0'.toNat)) 0
  Reader.demand (value < 4294967296)
  if ((← Reader.rest).head?.any Text.isBlank) then
    passBlanks
    Reader.skipSpace
    passBlanks
  return value

/-- a count in braces -/
def bracedCount : Reader Count := do
  Reader.advance
  let least ← countNumber
  let most ←
    if (← Reader.current) = ',' then do
      Reader.advance
      if (← Reader.current) = '\x7d' then pure none else some <$> countNumber
    else pure (some least)
  Reader.demand ((← Reader.current) == '\x7d')
  Reader.advance
  Reader.demand (most.all (least ≤ ·))
  return ⟨least, most⟩

/-- the count of a repetition -/
def count : Reader Count := do
  match ← Reader.current with
  | '\x7b' => bracedCount
  | c =>
    Reader.pass
    return match c with
      | '*' => ⟨0, none⟩
      | '+' => ⟨1, none⟩
      | _ => ⟨0, some 1⟩

/-- an item repeated, as the signs behind it say; a question mark behind them makes it lazy -/
def repeatedItem (item : Item) : Reader Item := do
  Reader.demand item.repeatable
  let count ← count
  let isLazy := (← Reader.rest).head? == some '?'
  if isLazy then Reader.pass
  let greedy := isLazy == (← Reader.flags).swapped
  return ⟨repetition count.least count.most greedy item.pattern, item.depth + 1, true⟩

/-! ## groups -/

/-- the flags with one of them changed -/
def Flags.assign? (flags : Flags) (letter : Char) (value : Bool) : Option Flags :=
  match letter with
  | 'i' => some { flags with caseless := value }
  | 'm' => some { flags with multiline := value }
  | 's' => some { flags with dotAll := value }
  | 'U' => some { flags with swapped := value }
  | 'u' => some { flags with anyScript := value }
  | 'R' => some { flags with returns := value }
  | 'x' => some { flags with spaced := value }
  | _ => none

/-- flags as written: letters to set, and behind a dash letters to unset, none twice -/
def Flags.change? (flags : Flags) (letters : List Char) : Option Flags := do
  let on := letters.takeWhile (· != '-')
  let off := letters.dropWhile (· != '-')
  if off = ['-'] ∨ ¬ letters.Nodup then none
  else
    let flags ← on.foldlM (fun flags letter => flags.assign? letter true) flags
    (off.drop 1).foldlM (fun flags letter => flags.assign? letter false) flags

/-- a character of the name of a group, as its first one or behind it -/
def isNameChar (first : Bool) (c : Char) : Bool :=
  c == '_' || ((Text.property? "alpha").getD .empty).has c ||
    !first && (c == '.' || c == '[' || c == ']' || (Text.categoryUnion ["n"]).has c)

/-- the name of a group up to the mark behind it, taken down as used -/
def groupName : Reader Unit := do
  let text ← Reader.rest
  let name := text.takeWhile (· != '>')
  match name with
  | [] => failure
  | first :: others =>
    Reader.demand (isNameChar true first && others.all (isNameChar false))
    Reader.demand (name.length < text.length)
    Reader.demand ((← get).names.all (· != name))
    modify fun s => { s with names := name :: s.names, rest := text.drop (name.length + 1) }

/-- the opening of a group with a number, which is counted -/
def openNumbered : Reader Nat :=
  modifyGet fun s => (s.groups + 1, { s with groups := s.groups + 1 })

/-- the inside of a group and its closing parenthesis, behind which the flags are those of before -/
def closing (inner : Reader Item) (flags : Flags) : Reader Item := do
  let item ← inner
  Reader.demand ((← Reader.current) == ')')
  modify fun s => { s with flags }
  Reader.pass
  return item

/-- a group from its opening parenthesis on, or flags in parentheses of their own -/
def groupItem (inner : Reader Item) : Reader Item := do
  let flags ← Reader.flags
  let numbered : Reader Item := do
    let number ← openNumbered
    let item ← closing inner flags
    return ⟨.group number item.pattern, item.depth + 1, true⟩
  Reader.advance
  let text ← Reader.rest
  let looksAround := [['?', '='], ['?', '!'], ['?', '<', '='], ['?', '<', '!']].any fun mark =>
    (Text.afterMark? mark text).isSome
  Reader.demand (!looksAround)
  if (← Reader.passMark ['?', 'P', '<']) then
    groupName
    numbered
  else if (← Reader.passMark ['?', '<']) then
    groupName
    numbered
  else if (← Reader.passMark ['?']) then
    let text ← Reader.rest
    let letters := text.takeWhile fun c => c != ':' && c != ')'
    let changed ← Reader.required (flags.change? letters)
    Reader.goOn (text.drop letters.length)
    let mark ← Reader.current
    Reader.pass
    modify fun s => { s with flags := changed }
    if mark = ')' then
      Reader.demand (!letters.isEmpty)
      return ⟨.empty, 0, false⟩
    else
      let item ← closing inner flags
      return ⟨item.pattern, item.depth + 1, true⟩
  else numbered

/-- what a group holds, up to its closing parenthesis or the end of the text; `inner` reads what a group within holds,
`options` are the alternatives done and `items` those of the present one, the last ones first -/
def groupContent (inner : Reader Item) : (fuel : Nat) → (options items : List Item) → Reader Item
  | 0, _, _ => failure
  | fuel + 1, options, items => do
    Reader.skipSpace
    match (← Reader.rest).head? with
    | none | some ')' => return choiceItem (sequenceItem items :: options)
    | some '|' =>
      Reader.pass
      groupContent inner fuel (sequenceItem items :: options) []
    | some '(' =>
      let item ← groupItem inner
      groupContent inner fuel options (item :: items)
    | some '[' =>
      let part ← bracketClass depthLimit
      groupContent inner fuel options (⟨.oneOf part.set, part.depth, true⟩ :: items)
    | some c =>
      if c ∈ ['?', '*', '+', '\x7b'] then
        match items with
        | [] => failure
        | item :: items =>
          let item ← repeatedItem item
          groupContent inner fuel options (item :: items)
      else
        let item ← signItem
        groupContent inner fuel options (item :: items)

/-- what a group holds, with fewer than `room` groups around its parts -/
def content : (room : Nat) → Reader Item
  | 0 => failure
  | room + 1 => do groupContent (content room) ((← Reader.rest).length + 1) [] []

/-- the pattern of a written form -/
def ofText? (text : String) : Option Pattern := do
  let (item, source) ← (content (depthLimit + 1)).run ⟨.start, 0, [], text.toList⟩
  if source.rest.isEmpty ∧ item.depth ≤ depthLimit ∧ item.pattern.fits then some item.pattern else none

end Templating.Pattern
