/-
Reading expressions from words.

The levels bind from loose to tight: `or`, `and`, `not`, one comparison, filters, a sign, and the parts behind a
primary expression. Every level takes the reader of whole expressions as an argument, for what stands in brackets;
`expression` ties the knot. Brackets nest no deeper than there are words, so the number of words bounds every recursion.
-/
import Templating.Expr.Basic
import Templating.Expr.Reader

namespace Templating.Expr

/-! ## words -/

/-- the next word, which stays -/
def peek? : Reader (Option Token) :=
  .look .answer

/-- the next word is passed over -/
def advance : Reader Unit :=
  .pass (.answer ())

/-- how many words are left -/
def wordsLeft : Reader Nat :=
  .count .answer

/-- the next word is consumed when it is the symbol -/
def acceptSymbol (symbol : Symbol) : Reader Bool := do
  match ← peek? with
  | some (.symbol s) =>
    if s = symbol then
      advance
      return true
    else return false
  | _ => return false

/-- the next word is consumed when it is the keyword -/
def acceptKeyword (keyword : String) : Reader Bool := do
  match ← peek? with
  | some (.ident name) =>
    if name = keyword then
      advance
      return true
    else return false
  | _ => return false

/-- the next word is consumed when it is an identifier -/
def acceptIdent : Reader (Option String) := do
  match ← peek? with
  | some (.ident name) =>
    advance
    return some name
  | _ => return none

/-- the next word is consumed when it is a quoted text -/
def acceptString : Reader (Option String) := do
  match ← peek? with
  | some (.str s) =>
    advance
    return some s
  | _ => return none

/-- the next word is the symbol, or the reader fails -/
def expectSymbol (symbol : Symbol) : Reader Unit := do
  unless ← acceptSymbol symbol do
    .fail (.expected symbol)

/-! ## levels -/

/-- the comparison that a word stands for -/
def Token.comparison? : Token → Option Comparison
  | .symbol .equal => some .equal
  | .symbol .notEqual => some .notEqual
  | .symbol .less => some .less
  | .symbol .lessEqual => some .lessEqual
  | .symbol .greater => some .greater
  | .symbol .greaterEqual => some .greaterEqual
  | .ident "in" => some .isIn
  | _ => none

/-- what an identifier stands for on its own -/
def ofIdent : String → Expr
  | "true" | "True" => .literal (.bool true)
  | "false" | "False" => .literal (.bool false)
  | "none" | "None" | "nil" => .literal .null
  | name => .var name

/-- expressions between commas up to the closing symbol, at least one -/
def itemsUpTo (nested : Reader Expr) (close : Symbol) : (fuel : Nat) → Reader (List Expr)
  | 0 => .fail .endOfExpression
  | fuel + 1 => do
    let item ← nested
    if ← acceptSymbol close then return [item]
    if ← acceptSymbol .comma then
      let items ← itemsUpTo nested close fuel
      return item :: items
    .fail (.separatorMissing close)

/-- expressions between commas up to the closing symbol -/
def items (nested : Reader Expr) (close : Symbol) : Reader (List Expr) := do
  if ← acceptSymbol close then return []
  itemsUpTo nested close ((← wordsLeft) + 1)

/-- a literal, a variable, a list or an expression in parentheses -/
def primary (nested : Reader Expr) : Reader Expr := do
  match ← peek? with
  | none => .fail .endOfExpression
  | some word =>
    advance
    match word with
    | .str s => return .literal (.str s)
    | .int i => return .literal (.int i)
    | .float f => return .literal (.float f)
    | .ident name => return ofIdent name
    | .symbol .openParen =>
      let e ← nested
      expectSymbol .closeParen
      return e
    | .symbol .openBracket =>
      let list ← items nested .closeBracket
      return .list list
    | .symbol symbol => .fail (.unexpectedSymbol symbol)

/-- the name behind a point -/
def memberName : Reader String := do
  match ← peek? with
  | some (.ident name) =>
    advance
    return name
  | some (.int i) =>
    advance
    return toString i.toInt
  | _ => .fail .memberNameMissing

/-- the members, calls and indices behind an expression -/
def partsOf (nested : Reader Expr) : (fuel : Nat) → Expr → Reader Expr
  | 0, e => return e
  | fuel + 1, e => do
    if ← acceptSymbol .dot then
      let name ← memberName
      if ← acceptSymbol .openParen then
        let args ← items nested .closeParen
        partsOf nested fuel (.call e name args)
      else partsOf nested fuel (.member e name)
    else if ← acceptSymbol .openBracket then
      let key ← nested
      expectSymbol .closeBracket
      partsOf nested fuel (.index e key)
    else return e

/-- a primary expression with its parts -/
def withParts (nested : Reader Expr) : Reader Expr := do
  let e ← primary nested
  partsOf nested (← wordsLeft) e

/-- an expression with at most one sign -/
def signed (nested : Reader Expr) : Reader Expr := do
  if ← acceptSymbol .minus then
    let e ← withParts nested
    return .neg e
  else withParts nested

/-- the filters behind an expression -/
def filtersOf (nested : Reader Expr) : (fuel : Nat) → Expr → Reader Expr
  | 0, e => return e
  | fuel + 1, e => do
    if ← acceptSymbol .bar then
      match ← acceptIdent with
      | none => .fail .filterNameMissing
      | some name =>
        match Filter.ofName? name with
        | none => .fail (.unknownFilter name)
        | some named =>
          if ← acceptSymbol .colon then
            let arg ← withParts nested
            filtersOf nested fuel (.filter named e (some arg))
          else filtersOf nested fuel (.filter named e none)
    else return e

/-- an expression with filters -/
def withFilters (nested : Reader Expr) : Reader Expr := do
  let e ← signed nested
  filtersOf nested (← wordsLeft) e

/-- at most one comparison -/
def comparison (nested : Reader Expr) : Reader Expr := do
  let left ← withFilters nested
  match (← peek?).bind Token.comparison? with
  | none => return left
  | some op =>
    advance
    let right ← withFilters nested
    return .compare op left right

/-- a comparison behind any number of `not` -/
def negation (nested : Reader Expr) : (fuel : Nat) → Reader Expr
  | 0 => comparison nested
  | fuel + 1 => do
    if ← acceptKeyword "not" then
      let e ← negation nested fuel
      return .not e
    else comparison nested

/-- operands joined by a keyword, from the left -/
def joined (operand : Reader Expr) (keyword : String) (join : Expr → Expr → Expr) : (fuel : Nat) → Expr → Reader Expr
  | 0, left => return left
  | fuel + 1, left => do
    if ← acceptKeyword keyword then
      let right ← operand
      joined operand keyword join fuel (join left right)
    else return left

/-- operands of `and` -/
def conjunction (nested : Reader Expr) : Reader Expr := do
  let left ← negation nested (← wordsLeft)
  joined (do negation nested (← wordsLeft)) "and" .and (← wordsLeft) left

/-- operands of `or` -/
def disjunction (nested : Reader Expr) : Reader Expr := do
  let left ← conjunction nested
  joined (conjunction nested) "or" .or (← wordsLeft) left

/-- a whole expression with fewer than `depth` brackets around its parts -/
def expressionWithin : (depth : Nat) → Reader Expr
  | 0 => .fail .endOfExpression
  | depth + 1 => disjunction (expressionWithin depth)

/-- a whole expression -/
def expression : Reader Expr := do
  expressionWithin ((← wordsLeft) + 1)

end Templating.Expr
