/-!
# Double precision numbers

A number is a sign and the place of its magnitude in the ascending list of non-negative doubles:
place 0 is zero, the places up to `infinityPlace` are the finite magnitudes in order, and all places
above it are NaNs. Rounding is done in exact arithmetic on natural numbers.
-/
namespace HomeHub

/-- Magnitudes that share a binary exponent, as many as 52 bits distinguish. -/
def binadeSize : Nat := 4503599627370496

def infinityPlace : Nat := 2047 * binadeSize

/-- There are 2^63 places. -/
structure Binary64 where
  negative : Bool
  place : Fin 9223372036854775808
  deriving DecidableEq, Repr, Inhabited

namespace Binary64

def signedZero (negative : Bool) : Binary64 := ⟨negative, ⟨0, by decide⟩⟩

/-- The magnitude at a place, infinity when the place is too high. -/
def ofPlace (negative : Bool) (place : Nat) : Binary64 :=
  ⟨negative, ⟨min place infinityPlace, by
    have : infinityPlace < 9223372036854775808 := by decide
    omega⟩⟩

def infinity (negative : Bool) : Binary64 := ofPlace negative infinityPlace

/-- The NaN that ordinary arithmetic gives. -/
def nan : Binary64 := ⟨false, ⟨infinityPlace + binadeSize / 2, by decide⟩⟩

def isZero (x : Binary64) : Bool := decide (x.place.val = 0)

def isNaN (x : Binary64) : Bool := decide (infinityPlace < x.place.val)

def isInfinite (x : Binary64) : Bool := decide (x.place.val = infinityPlace)

def isFinite (x : Binary64) : Bool := decide (x.place.val < infinityPlace)

/-- A finite magnitude is `significand * 2 ^ scale`. -/
def significand (x : Binary64) : Nat :=
  if x.place.val < binadeSize then x.place.val else binadeSize + x.place.val % binadeSize

def scale (x : Binary64) : Int :=
  if x.place.val < binadeSize then -1074 else (x.place.val / binadeSize : Nat) - 1075

/-- A finite magnitude as a quotient of natural numbers. -/
def numerator (x : Binary64) : Nat := x.significand * Nat.pow 2 x.scale.toNat

def denominator (x : Binary64) : Nat := Nat.pow 2 (-x.scale).toNat

/-- Places finite numbers on the line, both zeros together. -/
def orderKey (x : Binary64) : Int := if x.negative then -(x.place.val : Int) else x.place.val

/-- The order of numbers; a NaN stands in no relation. -/
def le (x y : Binary64) : Bool := !x.isNaN && !y.isNaN && decide (x.orderKey ≤ y.orderKey)

/-- Equality of numbers: the zeros are equal, and a NaN equals nothing. -/
def sameNumber (x y : Binary64) : Bool :=
  !x.isNaN && !y.isNaN && decide (x.orderKey = y.orderKey)

/-- The integer part, cut toward zero. -/
def integerPart (x : Binary64) : Int :=
  let whole : Int := (x.numerator / x.denominator : Nat)
  if x.negative then -whole else whole

end Binary64

/-- A quotient rounded to the nearest natural number, a half to the even one. -/
def roundHalfEven (numerator denominator : Nat) : Nat :=
  let whole := numerator / denominator
  let twice := 2 * (numerator % denominator)
  if twice < denominator then whole
  else if denominator < twice then whole + 1
  else whole + whole % 2

/-- The exponent of the highest power of two that a positive quotient reaches. -/
def binaryExponent (numerator denominator : Nat) : Int :=
  let guess : Int := (numerator.log2 : Int) - denominator.log2
  if denominator * Nat.pow 2 guess.toNat ≤ numerator * Nat.pow 2 (-guess).toNat then guess
  else guess - 1

namespace Binary64

/-- The double nearest to a quotient, a half to the even place. -/
def ofRatio (negative : Bool) (numerator denominator : Nat) : Binary64 :=
  if numerator = 0 then signedZero negative
  else
    let scale := max (binaryExponent numerator denominator - 52) (-1074)
    let steps := roundHalfEven (numerator * Nat.pow 2 (-scale).toNat)
      (denominator * Nat.pow 2 scale.toNat)
    ofPlace negative ((scale + 1074).toNat * binadeSize + steps)

def ofInt (n : Int) : Binary64 := ofRatio (decide (n < 0)) n.natAbs 1

def mul (x y : Binary64) : Binary64 :=
  ofRatio (x.negative != y.negative) (x.numerator * y.numerator) (x.denominator * y.denominator)

def div (x y : Binary64) : Binary64 :=
  ofRatio (x.negative != y.negative) (x.numerator * y.denominator) (x.denominator * y.numerator)

def powerOfTen (exponent : Nat) : Binary64 := ofRatio false (Nat.pow 10 exponent) 1

def neg (x : Binary64) : Binary64 := ⟨!x.negative, x.place⟩

end Binary64

end HomeHub
