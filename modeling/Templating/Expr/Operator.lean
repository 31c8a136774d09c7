/-
The symbols of expressions, and the comparisons that some of them stand for.
-/

namespace Templating.Expr

/-- a symbol between the words of an expression -/
inductive Symbol where
  | equal
  | notEqual
  | lessEqual
  | greaterEqual
  | assign
  | comma
  | openParen
  | closeParen
  | dot
  | colon
  | bar
  | less
  | greater
  | openBracket
  | closeBracket
  | minus
  deriving DecidableEq, Repr

namespace Symbol

/-- all symbols, those of two characters first, so that the first that fits is the longest that fits -/
def all : List Symbol :=
  [equal, notEqual, lessEqual, greaterEqual, assign, comma, openParen, closeParen, dot, colon, bar, less, greater,
    openBracket, closeBracket, minus]

/-- the characters of a symbol -/
def chars : Symbol → List Char
  | equal => ['=', '=']
  | notEqual => ['!', '=']
  | lessEqual => ['<', '=']
  | greaterEqual => ['>', '=']
  | assign => ['=']
  | comma => [',']
  | openParen => ['(']
  | closeParen => [')']
  | dot => ['.']
  | colon => [':']
  | bar => ['|']
  | less => ['<']
  | greater => ['>']
  | openBracket => ['[']
  | closeBracket => [']']
  | minus => ['-']

/-- the text of a symbol -/
def text (s : Symbol) : String :=
  String.ofList s.chars

theorem mem_all (s : Symbol) : s ∈ all := by
  cases s <;> decide

end Symbol

/-- a comparison of two values -/
inductive Comparison where
  | equal
  | notEqual
  | less
  | lessEqual
  | greater
  | greaterEqual
  | isIn
  deriving DecidableEq, Repr

/-- how a comparison is written -/
def Comparison.text : Comparison → String
  | .equal => "=="
  | .notEqual => "!="
  | .less => "<"
  | .lessEqual => "<="
  | .greater => ">"
  | .greaterEqual => ">="
  | .isIn => "in"

end Templating.Expr
