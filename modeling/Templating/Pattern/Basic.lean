/-
Text patterns.

A pattern describes texts, and where it can match in several ways it says which way is preferred: the left alternative
before the right one, more repetitions before fewer, or fewer before more when the repetition is lazy.

Patterns are put together by `sequence`, `choice` and `repetition`, which keep them plain: sequences and alternatives
are not nested for nothing, alternatives of single characters are one set, and what all alternatives begin with is
matched once, in front of the choice.
-/
import Templating.Text.Property

namespace Templating

open Text (CharSet)

/-- how a place lies to a word -/
inductive WordEdge where
  | boundary
  | noBoundary
  | start
  | finish
  | startHalf
  | finishHalf
  deriving DecidableEq, Repr

/-- a place lies so, given whether letters of words stand before and after it -/
def WordEdge.holds (before after : Bool) : WordEdge → Bool
  | boundary => before != after
  | noBoundary => before == after
  | start => !before && after
  | finish => before && !after
  | startHalf => !before
  | finishHalf => !after

/-- a kind of place between characters; a line ends with a line feed or, with `returns`, also with a carriage return
or with both, and a word is made of letters of ASCII or, with `anyScript`, of all scripts -/
inductive Place where
  | textStart
  | textEnd
  | lineStart (returns : Bool)
  | lineEnd (returns : Bool)
  | word (edge : WordEdge) (anyScript : Bool)
  deriving DecidableEq, Repr

/-- the place between two characters, none at an end of the text, is of the kind -/
def Place.holds (before after : Option Char) : Place → Bool
  | textStart => before.isNone
  | textEnd => after.isNone
  | lineStart false => before.isNone || before == some '\n'
  | lineStart true => before.isNone || before == some '\n' || (before == some '\r' && after != some '\n')
  | lineEnd false => after.isNone || after == some '\n'
  | lineEnd true => after.isNone || after == some '\r' || (after == some '\n' && before != some '\r')
  | word edge anyScript =>
    let letters := if anyScript then Text.wordSet else Text.asciiWordSet
    edge.holds (before.any letters.has) (after.any letters.has)

/-- a pattern; groups have numbers, and `repeated` has no upper bound when `most` is none -/
inductive Pattern where
  | empty
  | oneOf (set : CharSet)
  | place (p : Place)
  | seq (first second : Pattern)
  | alt (left right : Pattern)
  | repeated (least : Nat) (most : Option Nat) (greedy : Bool) (body : Pattern)
  | group (number : Nat) (body : Pattern)
  deriving DecidableEq, Repr

namespace Pattern

/-! ## sequences -/

/-- the parts of a sequence, from left to right -/
def factors : Pattern → List Pattern
  | empty => []
  | seq first second => first.factors ++ second.factors
  | p => [p]

/-- patterns one after the other -/
def ofFactors : List Pattern → Pattern
  | [] => empty
  | [p] => p
  | p :: rest => seq p (ofFactors rest)

/-- patterns one after the other, sequences among them opened -/
def sequence (parts : List Pattern) : Pattern :=
  ofFactors (parts.flatMap factors)

/-! ## alternatives -/

/-- the alternatives of a choice, the preferred one first -/
def branches : Pattern → List Pattern
  | alt left right => left.branches ++ right.branches
  | p => [p]

/-- one pattern or another, the first ones preferred -/
def ofBranches : List Pattern → Pattern
  | [] => oneOf .empty
  | [p] => p
  | p :: rest => alt p (ofBranches rest)

/-- the set of a pattern that matches single characters only -/
def set? : Pattern → Option CharSet
  | oneOf set => some set
  | _ => none

/-- alternatives as one pattern; alternatives of single characters are one set -/
def plainChoice (options : List Pattern) : Pattern :=
  let options := options.flatMap branches
  match options with
  | [p] => p
  | _ =>
    match options.mapM set? with
    | some sets => oneOf (.unionAll sets)
    | none => ofBranches options

/-- what two lists have in common in front -/
def sharedStart : List Pattern → List Pattern → List Pattern
  | p :: ps, q :: qs => if p = q then p :: sharedStart ps qs else []
  | _, _ => []

/-- what sequences of two parts and more have in common in front; a part alone has nothing in common with others -/
def sharedStarts (parts : List (List Pattern)) : List Pattern :=
  match parts with
  | [] => []
  | first :: rest => if parts.all (1 < ·.length) then rest.foldl sharedStart first else []

/-- one pattern or another; what all of them begin with, when all are sequences, comes once before the choice -/
def choice (options : List Pattern) : Pattern :=
  match plainChoice options with
  | alt left right =>
    let parts := (alt left right).branches.map factors
    match sharedStarts parts with
    | [] => alt left right
    | shared => sequence (shared ++ [plainChoice (parts.map fun p => ofFactors (p.drop shared.length))])
  | p => p

/-! ## repetitions -/

/-- the pattern can match the empty text only -/
def consumesNothing : Pattern → Bool
  | empty => true
  | oneOf _ => false
  | place _ => true
  | seq first second => first.consumesNothing && second.consumesNothing
  | alt left right => left.consumesNothing && right.consumesNothing
  | repeated _ _ _ body => body.consumesNothing
  | group _ body => body.consumesNothing

/-- the fewest characters that the pattern consumes; a pattern with a part that cannot match has no such number -/
def fewest? : Pattern → Option Nat
  | empty => some 0
  | oneOf set => if set.ranges.isEmpty then none else some 1
  | place _ => some 0
  | seq first second => return (← first.fewest?) + (← second.fewest?)
  | alt left right => return min (← left.fewest?) (← right.fewest?)
  | repeated least _ _ body => body.fewest?.map (least * ·)
  | group _ body => body.fewest?

/-- the pattern cannot match the empty text -/
def mustConsume (p : Pattern) : Bool :=
  p.fewest?.any (0 < ·)

/-- a pattern `least` to `most` times; one that consumes nothing need not be repeated -/
def repetition (least : Nat) (most : Option Nat) (greedy : Bool) (body : Pattern) : Pattern :=
  let (least, most) := if body.consumesNothing then (min least 1, some (min (most.getD 1) 1)) else (least, most)
  if most = some 0 then empty
  else if least = 1 ∧ most = some 1 then body
  else repeated least most greedy body

end Pattern

end Templating
