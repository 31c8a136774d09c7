/-
Places in a source text.

A position counts three things at once from the start of the text: bytes of its UTF-8 form, line ends, and characters
since the last line end. `Position.advance` steps over one character, so the position behind a text is a fold over it.
Any other place is looked up by its byte offset: a `LineIndex` keeps the offsets at which lines start, bisection finds
the last of them that is not behind the offset, and the characters from there on are counted.
-/

namespace Templating

/-- a place in a source text, all three counts from zero -/
structure Position where
  byte : Nat
  line : Nat
  col : Nat
  deriving DecidableEq, Repr, Inhabited

namespace Position

/-- the place where a text starts -/
def start : Position := ⟨0, 0, 0⟩

/-- the place behind one more character -/
def advance (p : Position) (c : Char) : Position :=
  if c = '\n' then ⟨p.byte + c.utf8Size, p.line + 1, 0⟩ else ⟨p.byte + c.utf8Size, p.line, p.col + 1⟩

/-- the place behind a piece of text -/
def after (p : Position) (text : List Char) : Position :=
  text.foldl advance p

@[simp] theorem after_nil (p : Position) : p.after [] = p := rfl

@[simp] theorem after_cons (p : Position) (c : Char) (text : List Char) :
    p.after (c :: text) = (p.advance c).after text := rfl

@[simp] theorem after_append (p : Position) (s t : List Char) : p.after (s ++ t) = (p.after s).after t := by
  simp [after, List.foldl_append]

theorem byte_advance (p : Position) (c : Char) : (p.advance c).byte = p.byte + c.utf8Size := by
  unfold advance
  split <;> rfl

end Position

/-! ## byte offsets -/

/-- how many bytes a text has -/
def byteLength (text : List Char) : Nat :=
  (Position.start.after text).byte

/-- the text from a byte offset on -/
def dropBytes : Nat → List Char → List Char
  | _, [] => []
  | n, c :: rest => if n = 0 then c :: rest else dropBytes (n - c.utf8Size) rest

/-- the text up to a byte offset -/
def takeBytes : Nat → List Char → List Char
  | _, [] => []
  | n, c :: rest => if n = 0 then [] else c :: takeBytes (n - c.utf8Size) rest

/-- the text up to a byte offset that is not inside a character -/
def takeBytes? (n : Nat) (text : List Char) : Option (List Char) :=
  let front := takeBytes n text
  if byteLength front = n then some front else none

/-- the offsets behind the line ends of a text that stands at an offset -/
def lineStartsAfter (byte : Nat) : List Char → List Nat
  | [] => []
  | c :: rest =>
    let behind := byte + c.utf8Size
    if c = '\n' then behind :: lineStartsAfter behind rest else lineStartsAfter behind rest

/-- where a number stands among the entries from `low` up to `high` of a sorted array, or else where it would go -/
def bisect (entries : Array Nat) (n low high : Nat) : Except Nat Nat :=
  if low < high then
    let middle := low + (high - low) / 2
    let entry := entries.getD middle 0
    if entry = n then .ok middle
    else if entry < n then bisect entries n (middle + 1) high
    else bisect entries n low middle
  else .error low
termination_by high - low

/-- a source text and the byte offsets at which its lines start -/
structure LineIndex where
  source : List Char
  starts : Array Nat

namespace LineIndex

/-- the index of a source text -/
def ofSource (source : List Char) : LineIndex :=
  ⟨source, (0 :: lineStartsAfter 0 source).toArray⟩

/-- the line of an offset: the one that starts there, or else the one in front of where such a start would go -/
def lineOf (index : LineIndex) (byte : Nat) : Nat :=
  match bisect index.starts byte 0 index.starts.size with
  | .ok line => line
  | .error next => next - 1

/-- the place of a byte offset; an offset past the end is the end -/
def position (index : LineIndex) (byte : Nat) : Position :=
  let byte := min byte (byteLength index.source)
  let line := index.lineOf byte
  let start := index.starts.getD line 0
  ⟨byte, line, (takeBytes (byte - start) (dropBytes start index.source)).length⟩

end LineIndex

/-- the place of a byte offset in a source text -/
def positionAt (source : List Char) (byte : Nat) : Position :=
  (LineIndex.ofSource source).position byte

end Templating
