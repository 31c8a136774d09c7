/-
Floating point numbers as decimal text with the fewest digits.

A finite positive number is `significand * 2 ^ exponent`. The reals that round to it are an interval around it, ends
included when the significand is even. The decimal points with step `10 ^ e` are a grid; the two points of the grid
next to the number are the only ones worth trying, and the coarsest grid with one of them in the interval gives the
fewest digits. Of two such points the nearer is taken, and the upper one from the exact middle.

The text is always positional: digits, then zeros up to the point, or the point and zeros before the digits. There is
no exponent, and no point behind an integral number.
-/

namespace Templating.Decimal

/-- a positive number `significand * 2 ^ exponent`; `narrowBelow` says that the next smaller number is half as far
away as the next greater one -/
structure Binary where
  significand : Nat
  exponent : Int
  narrowBelow : Bool
  deriving DecidableEq, Repr

/-- digits and power of ten: the number `digits * 10 ^ scale` -/
structure Digits where
  digits : Nat
  scale : Int
  deriving DecidableEq, Repr

/-- a grid of step `10 ^ scale` laid over the number, in units that make all of them whole: the step, the number, and
the ends of the interval of reals that round to it -/
structure Grid where
  step : Nat
  value : Nat
  low : Nat
  high : Nat

/-- the grid of step `10 ^ scale` over the number -/
def Binary.grid (b : Binary) (scale : Int) : Grid :=
  let unit := Nat.pow 2 (b.exponent - 2).toNat * Nat.pow 10 (-scale).toNat
  { step := Nat.pow 2 (2 - b.exponent).toNat * Nat.pow 10 scale.toNat
    value := 4 * b.significand * unit
    low := (4 * b.significand - (if b.narrowBelow then 1 else 2)) * unit
    high := (4 * b.significand + 2) * unit }

/-- the multiple of the step rounds to the number -/
def Grid.rounds (g : Grid) (even : Bool) (count : Nat) : Bool :=
  let point := count * g.step
  if even then g.low ≤ point && point ≤ g.high else g.low < point && point < g.high

/-- the point of the grid to take, when one rounds to the number -/
def Grid.nearest? (g : Grid) (even : Bool) : Option Nat :=
  let below := g.value / g.step
  let above := below + 1
  match g.rounds even below, g.rounds even above with
  | true, true => if g.value - below * g.step < above * g.step - g.value then some below else some above
  | true, false => some below
  | false, true => some above
  | false, false => none

/-- the first of the grids of steps `10 ^ scale`, `10 ^ (scale - 1)`, … with a point that rounds to the number -/
def Binary.coarsest (b : Binary) : (tries : Nat) → (scale : Int) → Digits
  | 0, scale => ⟨(b.grid scale).value / (b.grid scale).step, scale⟩
  | tries + 1, scale =>
    match (b.grid scale).nearest? (b.significand % 2 == 0) with
    | some digits => ⟨digits, scale⟩
    | none => b.coarsest tries (scale - 1)

/-- the fewest digits that read back as the number: the first grid tried has a step above the number, and seventeen
digits always suffice -/
def Binary.shortest (b : Binary) : Digits :=
  b.coarsest 24 (((b.significand.log2 : Int) + 1 + b.exponent) * 1233 / 4096 + 2)

/-- what the bits of a floating point number stand for -/
inductive Kind where
  | nan
  | infinite
  | zero
  | finite (b : Binary)

/-- what the sign bit of a floating point number counts for -/
def signWeight : Nat := 0x8000000000000000

/-- what the lowest exponent bit of a floating point number counts for, and its hidden bit -/
def exponentWeight : Nat := 0x10000000000000

/-- the number of exponents -/
def exponentCount : Nat := 0x800

/-- the sign bit of a floating point number -/
def isNegative (f : Float) : Bool :=
  f.toBits.toNat / signWeight == 1

/-- the magnitude of a floating point number, from its exponent and fraction bits -/
def kind (f : Float) : Kind :=
  let bits := f.toBits.toNat
  let fraction : Nat := bits % exponentWeight
  let biased : Nat := bits / exponentWeight % exponentCount
  if biased = 2047 then (if fraction = 0 then .infinite else .nan)
  else if biased = 0 then (if fraction = 0 then .zero else .finite ⟨fraction, -1074, false⟩)
  else .finite ⟨exponentWeight + fraction, (biased : Int) - 1075, fraction == 0 && biased != 1⟩

/-- the digits of a natural number -/
def natChars (n : Nat) : List Char :=
  Nat.toDigits 10 n

/-- the digits written out with no exponent -/
def Digits.positional (d : Digits) : List Char :=
  let digits := natChars d.digits
  if 0 ≤ d.scale then digits ++ List.replicate d.scale.toNat '0'
  else
    let places := (-d.scale).toNat
    let padded := List.replicate (places + 1 - digits.length) '0' ++ digits
    padded.take (padded.length - places) ++ '.' :: padded.drop (padded.length - places)

/-- the text of a floating point number -/
def floatText (f : Float) : String :=
  match kind f with
  | .nan => "NaN"
  | .infinite => if isNegative f then "-inf" else "inf"
  | .zero => if isNegative f then "-0" else "0"
  | .finite b => String.ofList ((if isNegative f then ['-'] else []) ++ b.shortest.positional)

/-- the number is neither infinite nor undefined -/
def isFinite (f : Float) : Bool :=
  match kind f with
  | .nan | .infinite => false
  | .zero | .finite _ => true

/-- the value of one digit -/
def digitValue (c : Char) : Nat :=
  c.toNat - '0'.toNat

/-- the value of a run of digits -/
def natOfDigits (digits : List Char) : Nat :=
  digits.foldl (fun n c => 10 * n + digitValue c) 0

/-- the floating point number nearest to `whole.fraction` -/
def floatOfDigits (whole fraction : List Char) : Float :=
  Float.ofScientific (natOfDigits (whole ++ fraction)) true fraction.length

end Templating.Decimal
