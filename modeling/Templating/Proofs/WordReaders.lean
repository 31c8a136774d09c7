/-
Readers of words, seen from the words that are left.

A cursor is an index among all words of a tag, but a reader learns nothing about the words that it has passed over: what
it answers, and how many more words it passes over, depends on the words that are left alone (`run_eq`, by induction on
the steps of the reader). So it is enough to know `Reader.read`, what a reader makes of words when it starts in front of
them, and readers are put together by what each of them leaves to the next.

- `run_eq`: a reader at any cursor does what it does in front of the words that are left.
- `read_bind_ok`, `read_bind_error`, `read_bind_eq_ok`: readers one after the other.
- `left_of_read`: what is left is what there was without the words that the reader passed over.
-/
import Mathlib.Tactic.Common
import Templating.Expr.Parser

namespace Templating.Expr

namespace Cursor

/-- the words that are left -/
def words (c : Cursor) : List Token :=
  c.tokens.drop c.pos

@[simp] theorem words_start (tokens : List Token) : (start tokens).words = tokens := rfl

@[simp] theorem move_tokens (c : Cursor) (steps : Nat) : (c.move steps).tokens = c.tokens := rfl

@[simp] theorem move_pos (c : Cursor) (steps : Nat) : (c.move steps).pos = c.pos + steps := rfl

theorem move_move (c : Cursor) (m n : Nat) : (c.move m).move n = c.move (m + n) := by
  simp only [move, Nat.add_assoc]

theorem words_move (c : Cursor) (steps : Nat) : (c.move steps).words = c.words.drop steps := by
  rw [words, words, move_tokens, move_pos, List.drop_drop]

theorem next?_eq (c : Cursor) : c.next? = c.words.head? := by
  rw [next?, words, List.head?_drop]

theorem remaining_eq (c : Cursor) : c.remaining = c.words.length := by
  rw [remaining, words, List.length_drop]

end Cursor

namespace Reader

variable {α β : Type} {x : Reader α} {f : α → Reader β} {words left : List Token}

/-- what a reader answers in front of words, and the words that are left -/
def read (r : Reader α) (words : List Token) : Except SyntaxFault α × List Token :=
  let (result, c) := r.run (.start words)
  (result, c.words)

/-- how many words a reader passes over in front of words -/
def steps (r : Reader α) (words : List Token) : Nat :=
  (r.run (.start words)).2.pos

/-! ## readers one after the other -/

theorem run_bind (x : Reader α) (f : α → Reader β) (c : Cursor) :
    (x >>= f).run c =
      match x.run c with
      | (.ok a, c) => (f a).run c
      | (.error fault, c) => (.error fault, c) := by
  induction x generalizing c with
  | answer a => rfl
  | fail fault => rfl
  | look next ih => exact ih _ c
  | pass next ih => exact ih (c.move 1)
  | count next ih => exact ih _ c

theorem bind_answer (x : Reader α) : (x >>= fun a => pure a) = x := by
  induction x with
  | answer a => rfl
  | fail fault => rfl
  | look next ih => exact congrArg look (funext ih)
  | pass next ih => exact congrArg pass ih
  | count next ih => exact congrArg count (funext ih)

theorem bind_bind {γ : Type} (x : Reader α) (f : α → Reader β) (g : β → Reader γ) :
    (x >>= f) >>= g = x >>= fun a => f a >>= g := by
  induction x with
  | answer a => rfl
  | fail fault => rfl
  | look next ih => exact congrArg look (funext ih)
  | pass next ih => exact congrArg pass ih
  | count next ih => exact congrArg count (funext ih)

instance : LawfulMonad Reader :=
  LawfulMonad.mk' Reader bind_answer (fun _ _ => rfl) bind_bind

/-! ## the words that are left -/

/-- **A reader sees the words that are left and nothing else**: at any cursor it does what it does in front of them. -/
theorem run_eq (r : Reader α) (c : Cursor) : r.run c = ((r.read c.words).1, c.move (r.steps c.words)) := by
  induction r generalizing c with
  | answer a => rfl
  | fail fault => rfl
  | look next ih =>
    have hnext : (Cursor.start c.words).next? = c.next? := by rw [Cursor.next?_eq, Cursor.next?_eq, Cursor.words_start]
    simp only [run, read, steps, hnext] at ih ⊢
    exact ih _ c
  | pass next ih =>
    -- both cursors are one word further on, and the same words are left there
    have hwords : ((Cursor.start c.words).move 1).words = (c.move 1).words := by
      rw [Cursor.words_move, Cursor.words_move, Cursor.words_start]
    simp only [run, read, steps]
    rw [ih (c.move 1), ih ((Cursor.start c.words).move 1), hwords, Cursor.move_move, Cursor.move_pos]
    rfl
  | count next ih =>
    have hcount : (Cursor.start c.words).remaining = c.remaining := by
      rw [Cursor.remaining_eq, Cursor.remaining_eq, Cursor.words_start]
    simp only [run, read, steps, hcount] at ih ⊢
    exact ih _ c

/-- what is left behind a reader -/
theorem read_snd (r : Reader α) (words : List Token) : (r.read words).2 = words.drop (r.steps words) := by
  have hrun := r.run_eq (.start words)
  rw [Cursor.words_start] at hrun
  rw [read, hrun]
  exact Cursor.words_move _ _

theorem left_of_read {r : Reader α} {result : Except SyntaxFault α} (h : r.read words = (result, left)) :
    left = words.drop (r.steps words) := by
  rw [← read_snd, h]

/-- a reader gives no word back -/
theorem length_le_of_read {r : Reader α} {result : Except SyntaxFault α} (h : r.read words = (result, left)) :
    left.length ≤ words.length := by
  rw [left_of_read h]
  exact (List.drop_suffix _ words).length_le

/-- what follows a reader that answers starts at the words that are left -/
theorem run_bind_ok {a : α} (h : x.read words = (.ok a, left)) (f : α → Reader β) :
    (x >>= f).run (.start words) =
      (((f a).read left).1, (Cursor.start words).move (x.steps words + (f a).steps left)) := by
  rw [run_bind, run_eq, Cursor.words_start, h]
  dsimp only
  rw [run_eq, Cursor.words_move, Cursor.words_start, ← left_of_read h, Cursor.move_move]

/-- nothing follows a reader that fails -/
theorem run_bind_error {fault : SyntaxFault} (h : x.read words = (.error fault, left)) (f : α → Reader β) :
    (x >>= f).run (.start words) = (.error fault, (Cursor.start words).move (x.steps words)) := by
  rw [run_bind, run_eq, Cursor.words_start, h]

theorem read_bind_ok {a : α} (h : x.read words = (.ok a, left)) (f : α → Reader β) :
    (x >>= f).read words = (f a).read left := by
  rw [read, run_bind_ok h]
  dsimp only
  rw [Cursor.words_move, Cursor.words_start, ← List.drop_drop, ← left_of_read h, ← read_snd]

theorem read_bind_error {fault : SyntaxFault} (h : x.read words = (.error fault, left)) (f : α → Reader β) :
    (x >>= f).read words = (.error fault, left) := by
  rw [read, run_bind_error h]
  dsimp only
  rw [Cursor.words_move, Cursor.words_start, ← left_of_read h]

theorem read_bind_eq_ok {b : β} :
    (x >>= f).read words = (.ok b, left) ↔
      ∃ a rest, x.read words = (.ok a, rest) ∧ (f a).read rest = (.ok b, left) := by
  constructor
  · intro h
    rcases hx : x.read words with ⟨fault | a, rest⟩
    · rw [read_bind_error hx] at h
      cases h
    · rw [read_bind_ok hx] at h
      exact ⟨a, rest, rfl, h⟩
  · rintro ⟨a, rest, hx, hf⟩
    rw [read_bind_ok hx, hf]

theorem steps_bind_ok {a : α} (h : x.read words = (.ok a, left)) (f : α → Reader β) :
    (x >>= f).steps words = x.steps words + (f a).steps left := by
  rw [steps, run_bind_ok h, Cursor.move_pos, Cursor.start, Nat.zero_add]

theorem steps_bind_error {fault : SyntaxFault} (h : x.read words = (.error fault, left)) (f : α → Reader β) :
    (x >>= f).steps words = x.steps words := by
  rw [steps, run_bind_error h, Cursor.move_pos, Cursor.start, Nat.zero_add]

/-- readers agree when their first steps do, and what follows does on the words that these leave -/
theorem read_bind_congr {x' : Reader α} {f' : α → Reader β} (hx : x.read words = x'.read words)
    (hf : ∀ a left, x.read words = (.ok a, left) → (f a).read left = (f' a).read left) :
    (x >>= f).read words = (x' >>= f').read words := by
  rcases hread : x.read words with ⟨fault | a, left⟩
  · rw [read_bind_error hread, read_bind_error (hx ▸ hread)]
  · rw [read_bind_ok hread, read_bind_ok (hx ▸ hread), hf a left hread]

end Reader

/-! ## single steps -/

theorem peek?_read (words : List Token) : peek?.read words = (.ok words.head?, words) :=
  Prod.ext (congrArg Except.ok (Cursor.next?_eq _)) rfl

theorem wordsLeft_read (words : List Token) : wordsLeft.read words = (.ok words.length, words) := rfl

theorem advance_read (word : Token) (rest : List Token) : advance.read (word :: rest) = (.ok (), rest) := rfl

end Templating.Expr
