import HomeHub.Number.Decimal

/-!
# The shortest numeral of a double

A numeral reads back to a double when it lies in the double's rounding interval, whose ends count
when the significand is even. `shortest` walks grids of powers of ten from coarse to fine and takes
the first grid with a point in the interval, and of two such points the nearer. A double half-way
between two points goes as the layout of its numeral says.
-/
namespace HomeHub

/-- Where a quotient half-way between two natural numbers goes. -/
inductive Tie where
  | toEven
  | up
  deriving DecidableEq, Repr

def Tie.round : Tie → (numerator denominator : Nat) → Nat
  | toEven, numerator, denominator => roundHalfEven numerator denominator
  | up, numerator, denominator => (2 * numerator + denominator) / (2 * denominator)

/-- A positive finite double with the ends of its rounding interval, all over one denominator. -/
structure RoundingInterval where
  low : Nat
  value : Nat
  high : Nat
  denominator : Nat
  closed : Bool
  deriving DecidableEq, Repr

namespace RoundingInterval

/-- Half the way to each neighbour; below a power of two the lower neighbour is twice as near. -/
def ofBinary64 (x : Binary64) : RoundingInterval :=
  let unit := Nat.pow 2 (x.scale - 2).toNat
  let below := if x.significand = binadeSize ∧ binadeSize < x.place.val then 1 else 2
  ⟨(4 * x.significand - below) * unit, 4 * x.significand * unit, (4 * x.significand + 2) * unit,
    Nat.pow 2 (2 - x.scale).toNat, x.significand % 2 == 0⟩

/-- Whether `point * 10 ^ exponent` rounds to the double. -/
def holds (i : RoundingInterval) (point : Nat) (exponent : Int) : Bool :=
  let at_ := point * Nat.pow 10 exponent.toNat * i.denominator
  let unit := Nat.pow 10 (-exponent).toNat
  if i.closed then decide (i.low * unit ≤ at_) && decide (at_ ≤ i.high * unit)
  else decide (i.low * unit < at_) && decide (at_ < i.high * unit)

/-- The point of a grid that reads back, the nearer one if both neighbours of the value do. -/
def onGrid (i : RoundingInterval) (tie : Tie) (exponent : Int) : Option Nat :=
  let unit := i.denominator * Nat.pow 10 exponent.toNat
  let scaled := i.value * Nat.pow 10 (-exponent).toNat
  let floor := scaled / unit
  match i.holds floor exponent, i.holds (floor + 1) exponent with
  | true, true => some (tie.round scaled unit)
  | true, false => some floor
  | false, true => some (floor + 1)
  | false, false => none

/-- The first hit on `grids` grids, from 10^exponent to finer ones. -/
def firstHit (i : RoundingInterval) (tie : Tie) (exponent : Int) : (grids : Nat) → Nat × Int
  | 0 => (i.value / i.denominator, 0)
  | grids + 1 =>
    match i.onGrid tie exponent with
    | some point => (point, exponent)
    | none => i.firstHit tie (exponent - 1) grids

end RoundingInterval

/-- The numeral with the fewest digits that reads back to a finite double. -/
def Binary64.shortest (x : Binary64) (tie : Tie) : Decimal :=
  if x.significand = 0 then ⟨x.negative, 0, 0⟩
  else
    let magnitude := x.scale + x.significand.log2 + 1
    let coarsest := magnitude * 30103 / 100000 + 1
    let (point, exponent) := (RoundingInterval.ofBinary64 x).firstHit tie coarsest 24
    ⟨x.negative, point, exponent⟩

structure NumeralLayout where
  /-- The decimal exponents written without `e`; none for all. -/
  positional : Option (Int × Int)
  /-- Whether a whole number ends in `.0`. -/
  keepsPoint : Bool
  /-- Which of two equally near numerals is taken. -/
  tie : Tie
  deriving DecidableEq, Repr

namespace NumeralLayout

/-- Digits with the point after the first `count` of them, zeros filling up at either side. -/
def pointed (layout : NumeralLayout) (digits : List Char) (count : Int) : List Char :=
  if count ≤ 0 then
    '0' :: '.' :: (List.replicate (-count).toNat '0' ++ digits)
  else if digits.length ≤ count.toNat then
    digits ++ List.replicate (count.toNat - digits.length) '0' ++
      (if layout.keepsPoint then ['.', '0'] else [])
  else digits.take count.toNat ++ '.' :: digits.drop count.toNat

/-- One digit, the other digits after a point, and the exponent with its sign. -/
def scientific (digits : List Char) (exponent : Int) : List Char :=
  let sign := if exponent < 0 then '-' else '+'
  let power := 'e' :: sign :: Nat.toDigits 10 exponent.natAbs
  match digits with
  | [] => power
  | [d] => d :: power
  | d :: rest => d :: '.' :: (rest ++ power)

def write (layout : NumeralLayout) (d : Decimal) : List Char :=
  let digits := Nat.toDigits 10 d.significand
  let count := digits.length + d.exponent
  let body := match layout.positional with
    | none => layout.pointed digits count
    | some (low, high) =>
      if d.significand = 0 ∨ (low ≤ count - 1 ∧ count - 1 ≤ high) then layout.pointed digits count
      else scientific digits (count - 1)
  if d.negative then '-' :: body else body

/-- The text of a double, infinities and NaN by name. -/
def writeBinary64 (layout : NumeralLayout) (x : Binary64) : List Char :=
  if x.isNaN then ['N', 'a', 'N']
  else if x.isInfinite then
    if x.negative then ['-', 'i', 'n', 'f'] else ['i', 'n', 'f']
  else layout.write (x.shortest layout.tie)

end NumeralLayout

/-- Numbers shown to people: all digits in place, no point after a whole number, and the larger of two
equally near numerals. -/
def displayLayout : NumeralLayout := ⟨none, false, .up⟩

def Binary64.display (x : Binary64) : String := String.ofList (displayLayout.writeBinary64 x)

end HomeHub
