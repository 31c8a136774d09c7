/-
Component markup written as template tags.

A tag `<x-alert type="info" :user="user">` becomes a component tag whose arguments are the attributes in order: static
values as texts, values of names that start with a colon as expressions, and the slot data binding in front of both.
-/
import Templating.Markup.Attribute
import Templating.Markup.Event

namespace Templating.Markup

/-- the tag that ends a component -/
def componentEnd : List Char := "\x7b% endcomponent %\x7d".toList

/-- the tag that ends a slot -/
def slotEnd : List Char := "\x7b% endslot %\x7d".toList

/-- the attribute that names the slot data of a component -/
def slotDataName : List Char := "slot-data".toList

/-- a text between double quotes -/
def quoted (text : List Char) : List Char :=
  '"' :: text ++ ['"']

/-- one argument of a component tag -/
def argument (item : Attribute) : List Char :=
  match item.name with
  | ':' :: key => ' ' :: quoted key ++ '=' :: item.value
  | name => ' ' :: quoted name ++ '=' :: quoted item.value

/-- the component tag of a markup tag -/
def componentStart (name attributes : List Char) : List Char :=
  let all := readAttributes attributes
  let binding := all.filter (·.name = slotDataName)
  let arguments := (all.filter (·.name ≠ slotDataName)).flatMap argument
  "\x7b% component ".toList ++ quoted name ++
    (match binding.getLast? with
      | some item => " slotData=".toList ++ quoted item.value
      | none => []) ++
    (if arguments.isEmpty then [] else " withAttrs".toList ++ arguments) ++ " %\x7d".toList

/-- the slot tag of a markup tag; without a name it has no argument -/
def slotStart (attributes : List Char) : List Char :=
  let name := ((readAttributes attributes).find? fun item => camelCase item.name = "name".toList).map (·.value)
  match name.getD [] with
  | [] => "\x7b% slot %\x7d".toList
  | name => "\x7b% slot ".toList ++ quoted name ++ " %\x7d".toList

/-- what a piece of source is written as -/
def Piece.expand (piece : Piece) : List Char :=
  match piece.event with
  | .text | .verbatim => piece.span
  | .opening name attributes => componentStart name attributes
  | .selfClosing name attributes => componentStart name attributes ++ componentEnd
  | .closing _ => componentEnd
  | .slotOpening attributes selfClosing => slotStart attributes ++ (if selfClosing then slotEnd else [])
  | .slotClosing => slotEnd

/-- the component that a piece uses -/
def Event.component? : Event → Option (List Char)
  | .opening name _ | .selfClosing name _ => some name
  | _ => none

/-- the piece is a tag -/
def Event.isTag : Event → Bool
  | .text | .verbatim => false
  | _ => true

/-- each name once, in the order of first use -/
def firstUses (names : List (List Char)) : List (List Char) :=
  names.foldl (fun seen name => if seen.contains name then seen else seen ++ [name]) []

/-- a expanded source -/
structure Expanded where
  code : String
  /-- the components in the order of first use -/
  components : List String
  /-- how many tags were expanded -/
  count : Nat
  deriving DecidableEq, Repr

/-- a source with its component markup as template tags -/
def expand (tagPrefix source : String) : Expanded :=
  let all := pieces tagPrefix.toList source.toList
  { code := String.ofList (all.flatMap Piece.expand)
    components := (firstUses (all.filterMap (·.event.component?))).map String.ofList
    count := (all.filter (·.event.isTag)).length }

end Templating.Markup
