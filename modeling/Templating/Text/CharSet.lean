/-
Sets of characters, as ranges of code points.

The ranges of a set are in order and do not touch each other, so two descriptions of one set give equal values. Union
and complement work on the ranges; the other operations come from these two.
-/
import Templating.Text.Hex

namespace Templating.Text

/-- the code points from `first` to `last` -/
structure CodeRange where
  first : Nat
  last : Nat
  deriving DecidableEq, Repr

/-- a set of characters -/
structure CharSet where
  ranges : List CodeRange
  deriving DecidableEq, Repr

/-- the greatest code point -/
def lastCode : Nat := 0x10FFFF

/-- ranges in order, those that touch joined; `range` is the one that is growing -/
def joinOnto (range : CodeRange) : List CodeRange → List CodeRange
  | [] => [range]
  | next :: rest =>
    if next.first ≤ range.last + 1 then joinOnto ⟨range.first, max range.last next.last⟩ rest
    else range :: joinOnto next rest

/-- the ranges between ordered ranges, from the code point `start` on -/
def gapsFrom (start : Nat) : List CodeRange → List CodeRange
  | [] => if start ≤ lastCode then [⟨start, lastCode⟩] else []
  | range :: rest =>
    if start < range.first then ⟨start, range.first - 1⟩ :: gapsFrom (range.last + 1) rest
    else gapsFrom (range.last + 1) rest

/-- a code point lies in one of the ordered ranges -/
def inOrderedRanges (code : Nat) : List CodeRange → Bool
  | [] => false
  | range :: rest =>
    if code < range.first then false else if code ≤ range.last then true else inOrderedRanges code rest

namespace CharSet

/-- the set of the code points in some ranges, in any order -/
def ofRanges (ranges : List CodeRange) : CharSet :=
  match ranges.mergeSort fun a b => decide (a.first ≤ b.first) with
  | [] => ⟨[]⟩
  | range :: rest => ⟨joinOnto range rest⟩

/-- the set without members -/
def empty : CharSet := ⟨[]⟩

/-- the set of all characters -/
def all : CharSet := ⟨[⟨0, lastCode⟩]⟩

/-- the characters from one to another -/
def between (first last : Char) : CharSet := ⟨[⟨first.toNat, last.toNat⟩]⟩

/-- the set of one character -/
def single (c : Char) : CharSet := between c c

/-- the code point belongs to the set -/
def hasCode (s : CharSet) (code : Nat) : Bool :=
  inOrderedRanges code s.ranges

/-- the character belongs to the set -/
def has (s : CharSet) (c : Char) : Bool :=
  s.hasCode c.toNat

/-- the characters of either set -/
def union (a b : CharSet) : CharSet :=
  ofRanges (a.ranges ++ b.ranges)

/-- the characters of any of the sets -/
def unionAll (sets : List CharSet) : CharSet :=
  ofRanges (sets.flatMap (·.ranges))

/-- the characters that the set lacks -/
def complement (s : CharSet) : CharSet :=
  ⟨gapsFrom 0 s.ranges⟩

/-- the characters of both sets -/
def inter (a b : CharSet) : CharSet :=
  (a.complement.union b.complement).complement

/-- the characters of the first set that the second lacks -/
def diff (a b : CharSet) : CharSet :=
  (a.complement.union b).complement

/-- the characters of one of the sets but not of both -/
def symmDiff (a b : CharSet) : CharSet :=
  (a.diff b).union (b.diff a)

/-- every member lies in ASCII -/
def isAscii (s : CharSet) : Bool :=
  s.ranges.all fun range => range.last < 0x80

/-! ## tables -/

/-- a range with every code point of it, or every second one -/
def tableEntry (everySecond : Bool) (first last : Nat) : List CodeRange :=
  if everySecond then (List.range ((last - first) / 2 + 1)).map fun i => ⟨first + 2 * i, first + 2 * i⟩
  else [⟨first, last⟩]

/-- the ranges of a written table: `first` is the numeral in front of a dash, `value` the numeral being read -/
def readTable (first value : Option Nat) : List Char → List CodeRange
  | [] => (value.map fun last => tableEntry false (first.getD last) last).getD []
  | '/' :: _ :: rest =>
    (value.map fun last => tableEntry true (first.getD last) last).getD [] ++ readTable none none rest
  | c :: rest =>
    match hexDigit? c with
    | some digit => readTable first (some (16 * value.getD 0 + digit)) rest
    | none =>
      if c = '-' then readTable value none rest
      else (value.map fun last => tableEntry false (first.getD last) last).getD [] ++ readTable none none rest

/-- the set that a table lists: numerals in base sixteen, a range as `41-5A`, every second code point as `100-12E/2` -/
def ofTable (table : String) : CharSet :=
  ofRanges (readTable none none table.toList)

end CharSet

end Templating.Text
