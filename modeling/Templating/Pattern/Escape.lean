/-
What a backslash and the signs behind it mean in a pattern.

A sign without a meaning of its own stands for itself behind a backslash; letters and digits have a meaning or are
refused. Characters can be given by their code point, classes by a letter or by the name of a property.
-/
import Templating.Pattern.Source
import Templating.Pattern.Basic
import Templating.Text.Fold
import Templating.Text.Hex

namespace Templating.Pattern

open Text (CharSet)

/-- one sign of a pattern: a character, also one given as a byte, a class or a place -/
inductive Sign where
  | char (c : Char)
  | byte (c : Char)
  | oneOf (set : CharSet)
  | place (p : Place)

/-! ## sets under flags -/

/-- the set with the letters of ASCII that differ from a member in case only -/
def asciiFoldClosed (set : CharSet) : CharSet :=
  .ofRanges (set.ranges ++ ((List.range 26).flatMap fun i =>
    if set.hasCode (0x41 + i) || set.hasCode (0x61 + i) then [⟨0x41 + i, 0x41 + i⟩, ⟨0x61 + i, 0x61 + i⟩] else []))

/-- the set with the letters that the flags do not tell from its own -/
def Flags.fold (flags : Flags) (set : CharSet) : CharSet :=
  if !flags.caseless then set else if flags.anyScript then set.foldClosed else asciiFoldClosed set

/-- a set of the kind that the flags admit: without other scripts a class lies in ASCII -/
def Flags.admit? (flags : Flags) (set : CharSet) : Option CharSet :=
  if flags.anyScript || set.isAscii then some set else none

/-- the set, or what it lacks, with the letters that the flags do not tell from its own -/
def Flags.class? (flags : Flags) (negated : Bool) (set : CharSet) : Option CharSet :=
  let set := flags.fold set
  flags.admit? (if negated then set.complement else set)

/-! ## characters by their code point -/

/-- the character of a code point -/
def charOfCode? (code : Nat) : Option Char :=
  if code < 0xD800 ∨ 0xDFFF < code ∧ code ≤ Text.lastCode then some (Char.ofNat code) else none

/-- a numeral of so many hexadecimal digits -/
def hexDigits (value : Nat) : Nat → Reader Nat
  | 0 => return value
  | n + 1 => do
    let digit ← Reader.required (Text.hexDigit? (← Reader.current))
    Reader.advance
    hexDigits (16 * value + digit) n

/-- a hexadecimal numeral up to its closing brace -/
def hexInBraces : (fuel : Nat) → (value : Option Nat) → Reader Nat
  | 0, _ => failure
  | fuel + 1, value => do
    let c ← Reader.current
    if c = '\x7d' then
      Reader.advance
      Reader.required value
    else
      let digit ← Reader.required (Text.hexDigit? c)
      Reader.advance
      hexInBraces fuel (some (16 * value.getD 0 + digit))

/-- a character by its code point, behind the letter that says how long the numeral is -/
def hexSign (letter : Char) : Reader Sign := do
  Reader.advance
  if (← Reader.current) = '\x7b' then
    Reader.advance
    let code ← hexInBraces ((← Reader.rest).length + 1) none
    return .char (← Reader.required (charOfCode? code))
  else
    let code ← hexDigits 0 (if letter = 'x' then 2 else if letter = 'u' then 4 else 8)
    let c ← Reader.required (charOfCode? code)
    return if letter = 'x' then .byte c else .char c

/-! ## classes by name -/

/-- the characters up to a closing brace, which is passed -/
def upToBrace : (fuel : Nat) → Reader (List Char)
  | 0 => failure
  | fuel + 1 => do
    let c ← Reader.current
    if c = '\x7d' then
      Reader.pass
      return []
    else
      Reader.advance
      return c :: (← upToBrace fuel)

/-- the class of a written property: a name, or a property with a value -/
def writtenClass? (name : List Char) : Option CharSet :=
  match (Text.cutAt? ['!', '='] name).or ((Text.cutAt? [':'] name).or (Text.cutAt? ['='] name)) with
  | some (property, value) => Text.valueClass? property value
  | none => Text.namedClass? name

/-- a class by name, behind its letter -/
def propertySign (negated : Bool) : Reader Sign := do
  Reader.advance
  let c ← Reader.current
  let name ←
    if c = '\x7b' then do
      Reader.advance
      upToBrace ((← Reader.rest).length + 1)
    else do
      Reader.demand (c != '\\')
      Reader.advance
      pure [c]
  let flags ← Reader.flags
  Reader.demand flags.anyScript
  return .oneOf (← Reader.required ((writtenClass? name).bind (flags.class? negated)))

/-- the class of a letter, without those that a capital letter negates -/
def letterClass (flags : Flags) (letter : Char) : CharSet :=
  if letter = 'd' then if flags.anyScript then Text.digitSet else .between '0' '9'
  else if letter = 's' then
    if flags.anyScript then Text.spaceSet else .union (.between '\t' '\r') (.single ' ')
  else if flags.anyScript then Text.wordSet
  else Text.asciiWordSet

/-! ## places -/

/-- the edges of words that have names -/
def namedEdge? (name : List Char) : Option WordEdge :=
  match String.ofList name with
  | "start" => some .start
  | "end" => some .finish
  | "start-half" => some .startHalf
  | "end-half" => some .finishHalf
  | _ => none

/-- what the name of an edge is made of -/
def isEdgeLetter (c : Char) : Bool :=
  c.isAlpha || c == '-'

/-- the letters of the name of an edge -/
def edgeLetters : (fuel : Nat) → Reader (List Char)
  | 0 => failure
  | fuel + 1 => do
    let c ← Reader.current
    if isEdgeLetter c then
      Reader.advance
      return c :: (← edgeLetters fuel)
    else return []

/-- the edge of a word, behind the letter for it: any edge, or the one that braces name; braces without a name are
left to be read as a count -/
def edgeSign : Reader WordEdge := do
  if (← Reader.rest).head? = some '\x7b' then
    let before ← get
    Reader.advance
    if isEdgeLetter (← Reader.current) then
      let name ← edgeLetters ((← Reader.rest).length + 1)
      Reader.demand ((← Reader.current) == '\x7d')
      Reader.pass
      Reader.required (namedEdge? name)
    else
      set before
      return .boundary
  else return .boundary

/-! ## escapes -/

/-- the characters that letters stand for -/
def controlChar? : Char → Option Char
  | 'a' => some '\x07'
  | 'f' => some '\x0c'
  | 'n' => some '\n'
  | 'r' => some '\r'
  | 't' => some '\t'
  | 'v' => some '\x0b'
  | _ => none

/-- the character can be made to stand for itself -/
def isEscapable (c : Char) : Bool :=
  c.toNat < 0x80 && !c.isAlphanum && c != '<' && c != '>'

/-- a backslash and what belongs to it -/
def escapeSign : Reader Sign := do
  Reader.pass
  let c ← Reader.current
  let flags ← Reader.flags
  let word (edge : WordEdge) : Sign := .place (.word edge flags.anyScript)
  if c ∈ ['x', 'u', 'U'] then hexSign c
  else if c ∈ ['p', 'P'] then propertySign (c == 'P')
  else
    Reader.pass
    if c ∈ ['d', 's', 'w'] then return .oneOf (letterClass flags c)
    else if c ∈ ['D', 'S', 'W'] then
      return .oneOf (← Reader.required (flags.admit? (letterClass flags c.toLower).complement))
    else if isEscapable c then return .char c
    else
      match controlChar? c with
      | some c => return .char c
      | none =>
        match c with
        | 'A' => return .place .textStart
        | 'z' => return .place .textEnd
        | 'b' => return word (← edgeSign)
        | 'B' => return word .noBoundary
        | '<' => return word .start
        | '>' => return word .finish
        | _ => failure

end Templating.Pattern
