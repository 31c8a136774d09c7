/-
Regions of a template source.

A source is text with delimited regions in it: outputs, tags and comments. The end of an output or a tag is looked for
outside quoted texts, where a backslash hides the character behind it; the end of a comment is the first one. All that
the search knows is ASCII, so it finds the same end from byte to byte, where a backslash hides a byte. A dash just
inside a delimiter is a trim mark. The tag `verbatim` starts a region of its own, which ends at the first `endverbatim`
tag; nothing inside it counts as a region.

`regions` answers with the regions in order, or with the first fault and the place of the region it is in.
-/
import Templating.Fault
import Templating.Position
import Templating.Text.Blank
import Templating.Text.Scan

namespace Templating.Template

/-- trim marks of a region: the text before it or behind it loses its white space -/
structure Marks where
  before : Bool
  behind : Bool
  deriving DecidableEq, Repr

/-- a region of a source -/
inductive Region where
  | text (s : List Char)
  | output (position : Position) (inner : List Char) (marks : Marks)
  | tag (position : Position) (name args : List Char) (marks : Marks)
  | comment
  | verbatim (body : List Char) (opening closing : Marks)
  deriving DecidableEq, Repr

/-- what a delimiter encloses -/
inductive Delimiter where
  | output
  | tag
  | comment
  deriving DecidableEq, Repr

/-- the delimiter that starts with a brace and this character -/
def Delimiter.ofChar? : Char → Option Delimiter
  | '\x7b' => some .output
  | '%' => some .tag
  | '#' => some .comment
  | _ => none

/-- the fault of a region that does not end -/
def Delimiter.notClosed : Delimiter → SyntaxFault
  | .output => .outputNotClosed
  | .tag => .tagNotClosed
  | .comment => .commentNotClosed

/-- the text before the first `close` and brace outside quoted texts, and what follows them; `quote` is the quotation
mark that is open -/
def cutClose? (close : Char) (quote : Option Char) : List Char → Option (List Char × List Char)
  | [] => none
  | [_] => none
  | c :: d :: rest =>
    match quote with
    | some q =>
      if c = '\\' then (cutClose? close quote rest).map fun (inner, left) => (c :: d :: inner, left)
      else (cutClose? close (if c = q then none else quote) (d :: rest)).map fun (inner, left) => (c :: inner, left)
    | none =>
      if c = close ∧ d = '\x7d' then some ([], rest)
      else
        (cutClose? close (if c = '"' ∨ c = '\'' then some c else none) (d :: rest)).map
          fun (inner, left) => (c :: inner, left)

/-- the inside of a region without its trim marks -/
def splitMarks (inner : List Char) : List Char × Marks :=
  let (before, inner) :=
    match inner with
    | '-' :: rest => (true, rest)
    | inner => (false, inner)
  match inner.reverse with
  | '-' :: rest => (rest.reverse, ⟨before, true⟩)
  | _ => (inner, ⟨before, false⟩)

/-- characters of a tag name -/
def isTagNameChar (c : Char) : Bool :=
  c.isAlphanum || c == '_'

/-- the name of a tag and its arguments -/
def splitTag (inner : List Char) : List Char × List Char :=
  let inner := Text.trim inner
  (inner.takeWhile isTagNameChar, Text.trim (inner.dropWhile isTagNameChar))

/-- the tag that copies its body unchanged -/
def verbatimName : List Char := "verbatim".toList

/-- the tag that ends such a body -/
def endVerbatimName : List Char := "endverbatim".toList

/-- the body of a verbatim region, the marks of the tag that ends it, and what follows that tag -/
def cutVerbatim? : List Char → Option (List Char × Marks × List Char)
  | [] => none
  | c :: rest =>
    match Text.afterMark? ['\x7b', '%'] (c :: rest) with
    | some inside =>
      match Text.cutAt? ['%', '\x7d'] inside with
      | none => none
      | some (inner, left) =>
        let (inner, marks) := splitMarks inner
        if Text.trim inner = endVerbatimName then some ([], marks, left)
        else (cutVerbatim? rest).map fun (body, marks, left) => (c :: body, marks, left)
    | none => (cutVerbatim? rest).map fun (body, marks, left) => (c :: body, marks, left)

/-- a tag whose inside is known, and what follows its region -/
def readTag (position : Position) (inner left : List Char) : Except SyntaxFault (Region × List Char) :=
  let (inner, marks) := splitMarks inner
  let (name, args) := splitTag inner
  if name.isEmpty then .error .tagNameMissing
  else if name = verbatimName then
    match cutVerbatim? left with
    | some (body, closing, left) => .ok (.verbatim body marks closing, left)
    | none => .error .verbatimNotClosed
  else .ok (.tag position name args marks, left)

/-- the region behind its opening delimiter, and what follows it -/
def readRegion (position : Position) (delimiter : Delimiter) (body : List Char) :
    Except SyntaxFault (Region × List Char) :=
  match delimiter with
  | .comment =>
    match Text.cutAt? ['#', '\x7d'] body with
    | some (_, left) => .ok (.comment, left)
    | none => .error delimiter.notClosed
  | .output =>
    match cutClose? '\x7d' none body with
    | some (inner, left) =>
      let (inner, marks) := splitMarks inner
      .ok (.output position (Text.trim inner) marks, left)
    | none => .error delimiter.notClosed
  | .tag =>
    match cutClose? '%' none body with
    | some (inner, left) => readTag position inner left
    | none => .error delimiter.notClosed

/-- a region at the start of a text, when one starts there -/
def regionAt? (position : Position) : List Char → Option (Except SyntaxFault (Region × List Char))
  | '\x7b' :: c :: body => (Delimiter.ofChar? c).map fun delimiter => readRegion position delimiter body
  | _ => none

/-- regions with one more character of text in front -/
def consText (c : Char) : List Region → List Region
  | .text s :: rest => .text (c :: s) :: rest
  | rest => .text [c] :: rest

/-- a fault and the place of the region it is in -/
abbrev Misplaced := Position × SyntaxFault

/-- the regions of a text that starts at a position, not counting the next `skip` characters -/
def regionsAfter : (skip : Nat) → Position → List Char → Except Misplaced (List Region)
  | _, _, [] => .ok []
  | skip + 1, position, c :: rest => regionsAfter skip (position.advance c) rest
  | 0, position, c :: rest =>
    match regionAt? position (c :: rest) with
    | none => (regionsAfter 0 (position.advance c) rest).map (consText c)
    | some (.error fault) => .error (position, fault)
    | some (.ok (region, left)) =>
      (regionsAfter (rest.length - left.length) (position.advance c) rest).map (region :: ·)

/-- the regions of a source in order -/
def regions (source : List Char) : Except Misplaced (List Region) :=
  regionsAfter 0 .start source

end Templating.Template
