/-
Reading JSON text.

A reader takes what is left of the text and answers with what it read and what is left after it, or with nothing when
the text is not JSON. Values nest at most `nestingLimit - 1` deep. An integer without point and exponent stays an
integer while it fits sixty-four bits; every other number is a floating point number, read as the leading digits that
fit sixty-four bits and scaled by one power of ten at a time. A number too great for that is refused. The minus sign
before a plain zero makes a floating point number, since no integer keeps it.
-/
import Templating.Json.Basic
import Templating.Decimal.Shortest
import Templating.Text.Hex

namespace Templating.Json

/-- arrays and objects nest less deep than this -/
def nestingLimit : Nat := 128

/-- space, line feed, tab and carriage return -/
def isSpace (c : Char) : Bool :=
  c == ' ' || c == '\n' || c == '\t' || c == '\r'

/-- the text behind the white space in front -/
def skipSpace (text : List Char) : List Char :=
  text.dropWhile isSpace

/-! ## numbers -/

/-- greatest number of sixty-four bits -/
def maxUnsigned : Nat := 0xFFFFFFFFFFFFFFFF

/-- greatest magnitude of a negative number of sixty-four bits -/
def maxNegative : Nat := 0x8000000000000000

/-- the digits of a number that fit sixty-four bits, and the power of ten that is left to apply -/
structure Scaled where
  digits : Nat
  scale : Int
  full : Bool
  deriving DecidableEq, Repr

/-- one more digit before the point: once full, digits only count -/
def Scaled.whole (s : Scaled) (c : Char) : Scaled :=
  let next := s.digits * 10 + Decimal.digitValue c
  if s.full || maxUnsigned < next then { s with scale := s.scale + 1, full := true } else { s with digits := next }

/-- one more digit behind the point: once full, digits are dropped -/
def Scaled.fraction (s : Scaled) (c : Char) : Scaled :=
  let next := s.digits * 10 + Decimal.digitValue c
  if s.full || maxUnsigned < next then { s with full := true }
  else { s with digits := next, scale := s.scale - 1 }

/-- a floating point power of ten -/
def powerOfTen (n : Nat) : Float :=
  Float.ofScientific 1 false n

/-- scale by the power of ten, in steps of at most `10 ^ 308`; none when the number is too great -/
def scaleBy (f : Float) : (steps : Nat) → (scale : Int) → Option Float
  | 0, _ => some f
  | steps + 1, scale =>
    if scale.natAbs ≤ 308 then
      if 0 ≤ scale then
        let g := f * powerOfTen scale.natAbs
        if Decimal.isFinite g then some g else none
      else some (f / powerOfTen scale.natAbs)
    else if f == 0 then some f
    else if 0 ≤ scale then none
    else scaleBy (f / powerOfTen 308) steps (scale + 308)

/-- the floating point number of scaled digits -/
def Scaled.toFloat? (s : Scaled) (negative : Bool) : Option Float :=
  (scaleBy (Float.ofNat s.digits) (s.scale.natAbs / 308 + 2) s.scale).map fun f => if negative then -f else f

/-- greatest number of thirty-two bits with a sign -/
def maxExponent : Nat := 0x7FFFFFFF

/-- scaled digits with a written exponent: an exponent of more than thirty-one bits gives zero or is refused -/
def Scaled.withExponent? (s : Scaled) (negative negativeExponent : Bool) (digits : List Char) : Option Float :=
  let exponent := Decimal.natOfDigits digits
  if maxExponent < exponent then
    if s.digits ≠ 0 ∧ !negativeExponent then none else some (if negative then -0.0 else 0.0)
  else
    let limit : Int := maxExponent
    let scale := if negativeExponent then s.scale - exponent else s.scale + exponent
    Scaled.toFloat? { s with scale := max (-limit - 1) (min limit scale) } negative

/-- the exponent behind its letter, and what is left -/
def readExponent (s : Scaled) (negative : Bool) (text : List Char) : Option (Float × List Char) :=
  let (negativeExponent, text) :=
    match text with
    | '+' :: rest => (false, rest)
    | '-' :: rest => (true, rest)
    | rest => (false, rest)
  match text.takeWhile Char.isDigit with
  | [] => none
  | digits => (s.withExponent? negative negativeExponent digits).map (·, text.dropWhile Char.isDigit)

/-- the rest of a number behind its digits before the point -/
def readFractionPart (s : Scaled) (negative : Bool) (text : List Char) : Option (Written × List Char) :=
  match text with
  | '.' :: rest =>
    match rest.takeWhile Char.isDigit with
    | [] => none
    | digits =>
      let s := digits.foldl Scaled.fraction { s with full := false }
      match rest.dropWhile Char.isDigit with
      | 'e' :: rest => (readExponent s negative rest).map fun (f, rest) => (.float f, rest)
      | 'E' :: rest => (readExponent s negative rest).map fun (f, rest) => (.float f, rest)
      | rest => (s.toFloat? negative).map (.float ·, rest)
  | 'e' :: rest => (readExponent s negative rest).map fun (f, rest) => (.float f, rest)
  | 'E' :: rest => (readExponent s negative rest).map fun (f, rest) => (.float f, rest)
  | rest =>
    if s.full then (s.toFloat? negative).map (.float ·, rest)
    else if negative then
      if s.digits = 0 then some (.float (-0.0), rest)
      else if maxNegative < s.digits then some (.float (-Float.ofNat s.digits), rest)
      else some (.int (-s.digits), rest)
    else some (.int s.digits, rest)

/-- a number behind its sign; a leading zero stands alone -/
def readNumber (negative : Bool) (text : List Char) : Option (Written × List Char) :=
  match text.takeWhile Char.isDigit with
  | [] => none
  | '0' :: _ :: _ => none
  | digits => readFractionPart (digits.foldl Scaled.whole ⟨0, 0, false⟩) negative (text.dropWhile Char.isDigit)

/-! ## strings -/

/-- the value of four hexadecimal digits -/
def hexUnit? (a b c d : Char) : Option Nat := do
  some (4096 * (← Text.hexDigit? a) + 256 * (← Text.hexDigit? b) + 16 * (← Text.hexDigit? c) + (← Text.hexDigit? d))

/-- the character of an escape of one letter -/
def escaped? : Char → Option Char
  | '"' => some '"'
  | '\\' => some '\\'
  | '/' => some '/'
  | 'b' => some '\x08'
  | 'f' => some '\x0c'
  | 'n' => some '\n'
  | 'r' => some '\r'
  | 't' => some '\t'
  | _ => none

/-- one more character in front of what a string reader read -/
def consRead (c : Char) (read : Option (List Char × List Char)) : Option (List Char × List Char) :=
  read.map fun (cs, rest) => (c :: cs, rest)

/-- a string behind its opening quote: half of a surrogate pair alone and bare control characters are refused -/
def readString : List Char → Option (List Char × List Char)
  | [] => none
  | '"' :: rest => some ([], rest)
  | '\\' :: 'u' :: a :: b :: c :: d :: rest =>
    match hexUnit? a b c d with
    | none => none
    | some unit =>
      if unit < 0xD800 ∨ 0xDFFF < unit then consRead (Char.ofNat unit) (readString rest)
      else if 0xDC00 ≤ unit then none
      else
        match rest with
        | '\\' :: 'u' :: a :: b :: c :: d :: rest =>
          match hexUnit? a b c d with
          | none => none
          | some low =>
            if low < 0xDC00 ∨ 0xDFFF < low then none
            else consRead (Char.ofNat (0x10000 + (unit - 0xD800) * 0x400 + (low - 0xDC00))) (readString rest)
        | _ => none
  | '\\' :: e :: rest =>
    match escaped? e with
    | some c => consRead c (readString rest)
    | none => none
  | c :: rest => if c.toNat < 0x20 ∨ c = '\\' then none else consRead c (readString rest)

/-! ## values -/

/-- items up to the closing bracket, each with `item` -/
def readItems (item : List Char → Option (Written × List Char)) :
    (fuel : Nat) → List Char → Option (List Written × List Char)
  | 0, _ => none
  | fuel + 1, text => do
    let (value, rest) ← item text
    match skipSpace rest with
    | ']' :: rest => some ([value], rest)
    | ',' :: rest =>
      let (values, rest) ← readItems item fuel rest
      some (value :: values, rest)
    | _ => none

/-- members up to the closing brace, each value with `item` -/
def readMembers (item : List Char → Option (Written × List Char)) :
    (fuel : Nat) → List Char → Option (List (String × Written) × List Char)
  | 0, _ => none
  | fuel + 1, text =>
    match skipSpace text with
    | '"' :: rest => do
      let (name, rest) ← readString rest
      match skipSpace rest with
      | ':' :: rest =>
        let (value, rest) ← item rest
        match skipSpace rest with
        | '\x7d' :: rest => some ([(String.ofList name, value)], rest)
        | ',' :: rest =>
          let (members, rest) ← readMembers item fuel rest
          some ((String.ofList name, value) :: members, rest)
        | _ => none
      | _ => none
    | _ => none

/-- a value whose parts `item` reads; a value without `room` has no parts -/
def readWith (room : Bool) (item : List Char → Option (Written × List Char)) (text : List Char) :
    Option (Written × List Char) :=
  match skipSpace text with
  | 'n' :: 'u' :: 'l' :: 'l' :: rest => some (.null, rest)
  | 't' :: 'r' :: 'u' :: 'e' :: rest => some (.bool true, rest)
  | 'f' :: 'a' :: 'l' :: 's' :: 'e' :: rest => some (.bool false, rest)
  | '"' :: rest => (readString rest).map fun (s, rest) => (.str (String.ofList s), rest)
  | '[' :: rest =>
    if !room then none
    else
      match skipSpace rest with
      | ']' :: rest => some (.array [], rest)
      | _ => (readItems item (rest.length + 1) rest).map fun (items, rest) => (.array items, rest)
  | '\x7b' :: rest =>
    if !room then none
    else
      match skipSpace rest with
      | '\x7d' :: rest => some (.object [], rest)
      | _ => (readMembers item (rest.length + 1) rest).map fun (members, rest) => (.object members, rest)
  | '-' :: rest => readNumber true rest
  | rest => readNumber false rest

/-- a value with fewer than `depth` brackets and braces around its parts -/
def readValue : (depth : Nat) → List Char → Option (Written × List Char)
  | 0, _ => none
  | depth + 1, text => readWith (decide (0 < depth)) (readValue depth) text

/-- all of a text is the document that was read, but for white space behind it -/
def whole (read : Option (Written × List Char)) : Option Written :=
  match read with
  | some (value, rest) => if (skipSpace rest).isEmpty then some value else none
  | none => none

/-- a whole document, with white space around it -/
def read? (text : String) : Option Written :=
  whole (readValue nestingLimit text.toList)

/-! ## parts that need not be understood -/

/-- what follows a run of digits, of which there is at least one -/
def passDigits? (text : List Char) : Option (List Char) :=
  match text with
  | c :: rest => if c.isDigit then some (rest.dropWhile Char.isDigit) else none
  | [] => none

/-- what follows an exponent, if there is one -/
def passExponent? : List Char → Option (List Char)
  | c :: rest =>
    if c = 'e' ∨ c = 'E' then
      match rest with
      | '+' :: rest => passDigits? rest
      | '-' :: rest => passDigits? rest
      | rest => passDigits? rest
    else some (c :: rest)
  | [] => some []

/-- what follows a number of any size, behind its sign -/
def passNumber? (text : List Char) : Option (List Char) := do
  let rest ←
    match text with
    | '0' :: rest => some rest
    | text => passDigits? text
  match rest with
  | '.' :: rest => passExponent? (← passDigits? rest)
  | rest => passExponent? rest

/-- what follows a string behind its opening quote; halves of surrogate pairs may stand alone -/
def passString? : List Char → Option (List Char)
  | [] => none
  | '"' :: rest => some rest
  | '\\' :: 'u' :: a :: b :: c :: d :: rest => if (hexUnit? a b c d).isSome then passString? rest else none
  | '\\' :: e :: rest => if (escaped? e).isSome then passString? rest else none
  | c :: rest => if c.toNat < 0x20 ∨ c = '\\' then none else passString? rest

/-- what follows the parts of a value, of which one is due; a member has a name if parts are `named` -/
def passParts? (item : List Char → Option (List Char)) (named : Bool) (close : Char) :
    (fuel : Nat) → List Char → Option (List Char)
  | 0, _ => none
  | fuel + 1, text => do
    let text ←
      if named then
        match skipSpace text with
        | '"' :: rest =>
          match skipSpace (← passString? rest) with
          | ':' :: rest => some rest
          | _ => none
        | _ => none
      else some text
    match skipSpace (← item text) with
    | [] => none
    | c :: rest => if c = close then some rest else if c = ',' then passParts? item named close fuel rest else none

/-- what follows a value, which nests less deep than `depth` -/
def passValue? : (depth : Nat) → List Char → Option (List Char)
  | 0, _ => none
  | depth + 1, text =>
    match skipSpace text with
    | 'n' :: 'u' :: 'l' :: 'l' :: rest => some rest
    | 't' :: 'r' :: 'u' :: 'e' :: rest => some rest
    | 'f' :: 'a' :: 'l' :: 's' :: 'e' :: rest => some rest
    | '"' :: rest => passString? rest
    | '[' :: rest =>
      match skipSpace rest with
      | ']' :: rest => some rest
      | _ => passParts? (passValue? depth) false ']' (rest.length + 1) rest
    | '\x7b' :: rest =>
      match skipSpace rest with
      | '\x7d' :: rest => some rest
      | _ => passParts? (passValue? depth) true '\x7d' (rest.length + 1) rest
    | '-' :: rest => passNumber? rest
    | rest => passNumber? rest

/-- a value in which parts that are well-formed but hold no data are left unread -/
def readLooseValue : (depth : Nat) → List Char → Option (Written × List Char)
  | 0, _ => none
  | depth + 1, text =>
    match readWith true (readLooseValue depth) text with
    | some read => some read
    | none => (passValue? (depth + 1) text).map (.unread, ·)

/-- a whole document, in which parts that are well-formed but hold no data are left unread: numbers that are too great,
halves of surrogate pairs and values that nest too deep -/
def readLoose? (text : String) : Option Written :=
  whole (readLooseValue (text.length + 1) text.toList)

end Templating.Json
