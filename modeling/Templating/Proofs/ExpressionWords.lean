/-
An expression as words, with the parentheses that it needs.

The levels of an expression bind from loose to tight, `or` the loosest and parts the tightest (`Expr.level`), and each
level has operands of levels of its own. `Expr.words` puts an operand in parentheses when it binds looser than its
place demands, and nothing else. An expression can be written when its literals can and its names are identifiers
(`Expr.Printable`); then every one of its words has a spelling (`Printable.writable`).
-/
import Templating.Proofs.WordLayout

namespace Templating

/-- the name that a filter is written with -/
def Filter.name : Filter → String
  | .safe => "safe"
  | .escape => "escape"
  | .upper => "upper"
  | .lower => "lower"
  | .length => "length"
  | .default => "default"

theorem Filter.ofName?_name (f : Filter) : Filter.ofName? f.name = some f := by
  cases f <;> rfl

namespace Expr

/-! ## expressions as words -/

/-- the word of a comparison -/
def Comparison.word : Comparison → Token
  | .equal => .symbol .equal
  | .notEqual => .symbol .notEqual
  | .less => .symbol .less
  | .lessEqual => .symbol .lessEqual
  | .greater => .symbol .greater
  | .greaterEqual => .symbol .greaterEqual
  | .isIn => .ident "in"

/-- the word of a literal; other values have none -/
def literalWords : Value → List Token
  | .null => [.ident "none"]
  | .bool true => [.ident "true"]
  | .bool false => [.ident "false"]
  | .int i => [.int i]
  | .float f => [.float f]
  | .str s => [.str s]
  | .safe _ | .list _ | .map _ | .attrs _ => []

/-- how tight the expression binds -/
def level : Expr → Nat
  | or _ _ => 1
  | and _ _ => 2
  | not _ => 3
  | compare _ _ _ => 4
  | filter _ _ _ => 5
  | neg _ => 6
  | literal _ | var _ | member _ _ | index _ _ | call _ _ _ | list _ => 7

/-- the words of an expression where `place` is demanded: in parentheses when it binds looser -/
def wrapped (place level : Nat) (words : List Token) : List Token :=
  if level < place then .symbol .openParen :: (words ++ [.symbol .closeParen]) else words

mutual

/-- the words of an expression, with the parentheses that it needs and no others -/
def words : Expr → List Token
  | literal v => literalWords v
  | var name => [.ident name]
  | member target key => wrapped 7 target.level target.words ++ [.symbol .dot, .ident key]
  | index target key =>
    wrapped 7 target.level target.words ++ .symbol .openBracket :: (key.words ++ [.symbol .closeBracket])
  | call target method args =>
    wrapped 7 target.level target.words ++
      .symbol .dot :: .ident method :: .symbol .openParen :: (itemWords args ++ [.symbol .closeParen])
  | list items => .symbol .openBracket :: (itemWords items ++ [.symbol .closeBracket])
  | neg e => .symbol .minus :: wrapped 7 e.level e.words
  | not e => .ident "not" :: wrapped 3 e.level e.words
  | and left right => wrapped 2 left.level left.words ++ .ident "and" :: wrapped 3 right.level right.words
  | or left right => wrapped 1 left.level left.words ++ .ident "or" :: wrapped 2 right.level right.words
  | compare op left right => wrapped 5 left.level left.words ++ op.word :: wrapped 5 right.level right.words
  | filter name e none => wrapped 5 e.level e.words ++ [.symbol .bar, .ident name.name]
  | filter name e (some arg) =>
    wrapped 5 e.level e.words ++ .symbol .bar :: .ident name.name :: .symbol .colon :: wrapped 7 arg.level arg.words

/-- the words of expressions between commas -/
def itemWords : List Expr → List Token
  | [] => []
  | e :: rest => e.words ++ itemTail rest

/-- the words of the expressions behind the first one -/
def itemTail : List Expr → List Token
  | [] => []
  | e :: rest => .symbol .comma :: (e.words ++ itemTail rest)

end

/-! ## printable expressions -/

/-- the words that are no names of variables -/
def keywords : List String :=
  ["true", "True", "false", "False", "none", "None", "nil", "not", "and", "or", "in"]

/-- the value can be written as a literal: a text, an integer without a sign, a truth value or none -/
def isWritable : Value → Bool
  | .null | .bool _ | .str _ => true
  | .int i => 0 ≤ i
  | _ => false

/-- the expression itself can be written, whatever its parts are -/
@[simp]
def isPrintable : Expr → Bool
  | literal v => isWritable v
  | var name => isIdentifier name && !keywords.contains name
  | member _ key => isIdentifier key
  | call _ method _ => isIdentifier method
  | _ => true

/-- the expression can be written: its literals, and its names are identifiers -/
def Printable (e : Expr) : Prop :=
  e.all isPrintable = true

instance (e : Expr) : Decidable e.Printable :=
  inferInstanceAs (Decidable (e.all isPrintable = true))

/-- the expressions can be written -/
def PrintableItems (items : List Expr) : Prop :=
  allItems isPrintable items = true

section

variable {e left right : Expr} {items : List Expr} {name : String}

@[simp] theorem printable_literal {v : Value} : (literal v).Printable ↔ isWritable v = true := by
  simp [Printable]

@[simp] theorem printable_var : (var name).Printable ↔ isIdentifier name = true ∧ name ∉ keywords := by
  simp [Printable]

@[simp] theorem printable_member : (member e name).Printable ↔ isIdentifier name = true ∧ e.Printable := by
  simp [Printable]

@[simp] theorem printable_index : (index left right).Printable ↔ left.Printable ∧ right.Printable := by
  simp [Printable]

@[simp] theorem printable_call :
    (call e name items).Printable ↔ (isIdentifier name = true ∧ e.Printable) ∧ PrintableItems items := by
  simp [Printable, PrintableItems]

@[simp] theorem printable_list : (list items).Printable ↔ PrintableItems items := by
  simp [Printable, PrintableItems]

@[simp] theorem printable_neg : (neg e).Printable ↔ e.Printable := by simp [Printable]

@[simp] theorem printable_not : (not e).Printable ↔ e.Printable := by simp [Printable]

@[simp] theorem printable_and : (and left right).Printable ↔ left.Printable ∧ right.Printable := by
  simp [Printable]

@[simp] theorem printable_or : (or left right).Printable ↔ left.Printable ∧ right.Printable := by
  simp [Printable]

@[simp] theorem printable_compare {op : Comparison} :
    (compare op left right).Printable ↔ left.Printable ∧ right.Printable := by
  simp [Printable]

@[simp] theorem printable_filter_none {f : Filter} : (filter f e none).Printable ↔ e.Printable := by
  simp [Printable]

@[simp] theorem printable_filter_some {f : Filter} :
    (filter f left (some right)).Printable ↔ left.Printable ∧ right.Printable := by
  simp [Printable]

@[simp] theorem printableItems_cons : PrintableItems (e :: items) ↔ e.Printable ∧ PrintableItems items := by
  simp [Printable, PrintableItems]

theorem PrintableItems.printable (h : PrintableItems items) (hmem : e ∈ items) : e.Printable := by
  induction items with
  | nil => cases hmem
  | cons first items ih =>
    obtain ⟨hfirst, hitems⟩ := printableItems_cons.1 h
    rcases List.mem_cons.1 hmem with rfl | hmem
    · exact hfirst
    · exact ih hitems hmem

end

end Expr

end Templating
