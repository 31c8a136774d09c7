/-
Readers of words.

A cursor stands among the words of a tag: it has all of them, and the index of the next one. A reader is a program that
takes a cursor on. It looks at the next word, passes over one, asks how many are left, and ends with an answer or a
fault; what it passed over stays behind the cursor when it fails. Passing over a word adds one to the index, whether
there is a word or not, so a reader has to look before it passes.
-/
import Templating.Expr.Token

namespace Templating.Expr

/-- words, and the index of the next one -/
structure Cursor where
  tokens : List Token
  pos : Nat

namespace Cursor

/-- the cursor in front of all words -/
def start (tokens : List Token) : Cursor :=
  ⟨tokens, 0⟩

/-- how many words there are, passed over or not -/
def count (c : Cursor) : Nat :=
  c.tokens.length

/-- how many words are left -/
def remaining (c : Cursor) : Nat :=
  c.tokens.length - c.pos

/-- the next word -/
def next? (c : Cursor) : Option Token :=
  c.tokens[c.pos]?

/-- the cursor further on -/
def move (c : Cursor) (steps : Nat) : Cursor :=
  { c with pos := c.pos + steps }

end Cursor

/-- a reader of words -/
inductive Reader (α : Type) where
  | answer (a : α)
  | fail (fault : SyntaxFault)
  | look (next : Option Token → Reader α)
  | pass (next : Reader α)
  | count (next : Nat → Reader α)

namespace Reader

variable {α β : Type}

/-- readers one after the other -/
protected def bind : Reader α → (α → Reader β) → Reader β
  | answer a, f => f a
  | fail fault, _ => fail fault
  | look next, f => look fun word? => (next word?).bind f
  | pass next, f => pass (next.bind f)
  | count next, f => count fun left => (next left).bind f

instance : Monad Reader where
  pure := answer
  bind := Reader.bind

/-- what a reader answers at a cursor, and the cursor behind it -/
def run : Reader α → Cursor → Except SyntaxFault α × Cursor
  | answer a, c => (.ok a, c)
  | fail fault, c => (.error fault, c)
  | look next, c => (next c.next?).run c
  | pass next, c => next.run (c.move 1)
  | count next, c => (next c.remaining).run c

end Reader

end Templating.Expr
