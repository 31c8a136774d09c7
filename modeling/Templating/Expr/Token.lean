/-
The words of an expression.

Tag arguments and output expressions are cut into identifiers, quoted texts, numbers and symbols; white space only
separates them. `readToken` reads one word and answers with what is left, and `tokens` reads them all or says which
character stopped it.
-/
import Templating.Decimal.Shortest
import Templating.Fault
import Templating.Text.Blank
import Templating.Text.Scan

namespace Templating.Expr

/-- a word of an expression -/
inductive Token where
  | ident (name : String)
  | str (s : String)
  | int (i : Int64)
  | float (f : Float)
  | symbol (s : Symbol)

/-- first characters of identifiers -/
def isIdentStart (c : Char) : Bool :=
  c.isAlpha || c == '_'

/-- characters of identifiers -/
def isIdentChar (c : Char) : Bool :=
  c.isAlphanum || c == '_'

/-- the character that a backslash in front of `c` makes of it -/
def unescape (c : Char) : Char :=
  match c with
  | 'n' => '\n'
  | 't' => '\t'
  | c => c

/-- a quoted text behind its opening quote, and what follows its closing quote -/
def readQuoted (quote : Char) : List Char → Except SyntaxFault (List Char × List Char)
  | [] => .error .stringNotClosed
  | [c] => if c = quote then .ok ([], []) else .error .stringNotClosed
  | c :: d :: rest =>
    if c = '\\' then (readQuoted quote rest).map fun (s, left) => (unescape d :: s, left)
    else if c = quote then .ok ([], d :: rest)
    else (readQuoted quote (d :: rest)).map fun (s, left) => (c :: s, left)

/-- greatest integer of an expression -/
def maxLiteral : Nat := 0x7FFFFFFFFFFFFFFF

/-- a number and what follows it: a point belongs to it when a digit comes behind -/
def readNumber (text : List Char) : Except SyntaxFault (Token × List Char) :=
  let whole := text.takeWhile Char.isDigit
  let left := text.dropWhile Char.isDigit
  let fraction :=
    match left with
    | '.' :: after => after.takeWhile Char.isDigit
    | _ => []
  if fraction.isEmpty then
    if Decimal.natOfDigits whole ≤ maxLiteral then .ok (.int (Int64.ofNat (Decimal.natOfDigits whole)), left)
    else .error (.invalidNumber (String.ofList whole))
  else .ok (.float (Decimal.floatOfDigits whole fraction), left.drop (1 + fraction.length))

/-- a symbol and what follows it -/
def readSymbol (text : List Char) : Option (Symbol × List Char) :=
  Symbol.all.findSome? fun symbol => (Text.afterMark? symbol.chars text).map fun left => (symbol, left)

/-- the word that starts with `c`, which is not white space, and what follows it -/
def readToken (c : Char) (rest : List Char) : Except SyntaxFault (Token × List Char) :=
  if c = '"' ∨ c = '\'' then (readQuoted c rest).map fun (s, left) => (.str (String.ofList s), left)
  else if c.isDigit then readNumber (c :: rest)
  else if isIdentStart c then
    .ok (.ident (String.ofList ((c :: rest).takeWhile isIdentChar)), (c :: rest).dropWhile isIdentChar)
  else
    match readSymbol (c :: rest) with
    | some (symbol, left) => .ok (.symbol symbol, left)
    | none => .error (.unexpectedCharacter c)

/-- the words of a text, not counting the next `skip` characters -/
def tokensAfter : (skip : Nat) → List Char → Except SyntaxFault (List Token)
  | _, [] => .ok []
  | skip + 1, _ :: rest => tokensAfter skip rest
  | 0, c :: rest =>
    if Text.isAsciiBlank c then tokensAfter 0 rest
    else
      match readToken c rest with
      | .error fault => .error fault
      | .ok (token, left) => (tokensAfter (rest.length - left.length) rest).map (token :: ·)

/-- the words of a text in order -/
def tokens (text : List Char) : Except SyntaxFault (List Token) :=
  tokensAfter 0 text

end Templating.Expr
