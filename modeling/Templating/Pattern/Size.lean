/-
How much room a pattern takes.

The size of a pattern is counted in bytes of a machine that works on encoded text: a set beyond ASCII takes a step for
each byte of each sequence of byte ranges that encodes it, less those in which a sequence begins like the one before
it. Counted repetitions take their body as often as they say. Patterns of more than `sizeLimit` are refused, so a short
text cannot describe a machine without bounds.
-/
import Templating.Pattern.Basic

namespace Templating.Pattern

open Text (CodeRange CharSet)

/-- patterns take at most this much room -/
def sizeLimit : Nat := 10485760

/-! ## encoded ranges -/

/-- how many bytes encode a code point -/
def encodedLength (code : Nat) : Nat :=
  if code < 0x80 then 1 else if code < 0x800 then 2 else if code < 0x10000 then 3 else 4

/-- the bytes that encode a code point in so many bytes; the first one counts without its mark -/
def encoded : (length : Nat) → (code : Nat) → List Nat
  | 0, _ => []
  | length + 1, code => encoded length (code / 64) ++ [code % 64]

/-- where a range is cut: in front of the first code point that needs more bytes, and so that what is left of a block
of code points with a common beginning stands apart from the whole blocks -/
def cut? (range : CodeRange) : Option Nat :=
  let lengths := [0x80, 0x800, 0xD800, 0xE000, 0x10000].filter fun code => range.first < code && code ≤ range.last
  let blocks := [0x40, 0x1000, 0x40000].filterMap fun size =>
    if range.first / size = range.last / size then none
    else if range.first % size ≠ 0 then some ((range.first / size + 1) * size)
    else if (range.last + 1) % size ≠ 0 then some (range.last / size * size)
    else none
  match lengths with
  | code :: _ => some code
  | [] => if range.last < 0x80 then none else blocks.head?

/-- ranges of which each is encoded by one sequence of byte ranges -/
def encodedParts : (fuel : Nat) → CodeRange → List CodeRange
  | 0, range => [range]
  | fuel + 1, range =>
    match cut? range with
    | none => if 0xD800 ≤ range.first && range.last ≤ 0xDFFF then [] else [range]
    | some code => encodedParts fuel ⟨range.first, code - 1⟩ ++ encodedParts fuel ⟨code, range.last⟩

/-- the byte ranges that encode a range which needs no cut -/
def byteRanges (range : CodeRange) : List (Nat × Nat) :=
  let length := encodedLength range.last
  (encoded length range.first).zip (encoded length range.last)

/-- how far two sequences agree in front -/
def agreement : List (Nat × Nat) → List (Nat × Nat) → Nat
  | a :: as, b :: bs => if a = b then agreement as bs + 1 else 0
  | _, _ => 0

/-- the bytes of the sequences, less those in which one agrees with the one before it -/
def newBytes (previous : List (Nat × Nat)) : List (List (Nat × Nat)) → Nat
  | [] => 0
  | bytes :: rest =>
    (if bytes.length = previous.length then bytes.length - agreement bytes previous else bytes.length)
      + newBytes bytes rest

/-- the room that a set takes -/
def setSize (set : CharSet) : Nat :=
  if set.isAscii then
    match set.ranges with
    | [range] => if range.first = range.last then 32 else 72
    | ranges => 64 + 8 * ranges.length
  else
    match set.ranges with
    | [⟨first, last⟩] =>
      if first = last then 32 * encodedLength first else
        let parts := (encodedParts 64 ⟨first, last⟩).map byteRanges
        64 + 4 * parts.length + 32 * newBytes [] parts
    | ranges =>
      let parts := (ranges.flatMap (encodedParts 64)).map byteRanges
      64 + 4 * parts.length + 32 * newBytes [] parts

/-! ## patterns -/

/-- the room that a pattern takes -/
def size : Pattern → Nat
  | empty => 32
  | oneOf set => setSize set
  | place _ => 32
  | seq first second => first.size + second.size
  | alt left right => left.size + right.size + 36
  | repeated least none _ body => (max least 1) * body.size + 112
  | repeated least (some most) _ body =>
    least * body.size + (if least = most then 0 else (most - least) * (body.size + 40) + 64)
  | group _ body => body.size + 64

/-- the pattern takes no more room than patterns may -/
def fits (p : Pattern) : Bool :=
  p.size + 256 ≤ sizeLimit

end Templating.Pattern
