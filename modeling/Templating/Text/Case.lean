/-
Upper and lower case of a text, by the full mappings: one letter may become several (the sharp s becomes two letters).

The mapping of a letter does not depend on its place, with one exception in lower case: a capital sigma at the end of
a word becomes the final small sigma. `endsWord` says what the end of a word is: letters before and none after, where
marks and apostrophes on the way are passed over.
-/
import Templating.Text.CaseTable

namespace Templating.Text

/-- the letters that stand for a code point in the other case, itself when no mapping names it -/
def mapCase (expansions : List (Nat × List Nat)) (runs : List CaseRun) (c : Char) : List Char :=
  match expansions.lookup c.toNat with
  | some codes => codes.map Char.ofNat
  | none =>
    match runs.findSome? (·.target? c.toNat) with
    | some code => [Char.ofNat code]
    | none => [c]

/-- upper case of one letter -/
def upperLetter (c : Char) : List Char :=
  if c.toNat < 0x80 then [c.toUpper] else mapCase upperExpansions upperRuns c

/-- lower case of one letter, wherever it stands -/
def lowerLetter (c : Char) : List Char :=
  if c.toNat < 0x80 then [c.toLower] else mapCase lowerExpansions lowerRuns c

/-- the code point lies in one of the ranges -/
def inRanges (ranges : List (Nat × Nat)) (c : Char) : Bool :=
  ranges.any fun (low, high) => low ≤ c.toNat && c.toNat ≤ high

/-- the first letter that is not passed over has case -/
def meetsCased (letters : List Char) : Bool :=
  match letters.dropWhile (inRanges caseIgnorableRanges) with
  | [] => false
  | c :: _ => inRanges casedRanges c

/-- a letter between these texts ends a word (`before` runs backwards) -/
def endsWord (before after : List Char) : Bool :=
  meetsCased before && !meetsCased after

/-- upper case of a text -/
def upper (text : List Char) : List Char :=
  text.flatMap upperLetter

/-- lower case of the rest of a text, with what stands before it backwards -/
def lowerAfter (before : List Char) : List Char → List Char
  | [] => []
  | c :: rest =>
    (if c = 'Σ' then [if endsWord before rest then 'ς' else 'σ'] else lowerLetter c) ++ lowerAfter (c :: before) rest

/-- lower case of a text -/
def lower (text : List Char) : List Char :=
  lowerAfter [] text

end Templating.Text
