import HomeHub.Number.Binary64
import HomeHub.Number.Digits

/-!
# Decimal numerals

A numeral is a sign, a natural number and a power of ten. Reading accepts an optional sign, digits
with an optional point, and an optional exponent; the double of a numeral is the nearest one.
-/
namespace HomeHub

/-- The number `± significand * 10 ^ exponent`. -/
structure Decimal where
  negative : Bool
  significand : Nat
  exponent : Int
  deriving DecidableEq, Repr, Inhabited

namespace Decimal

def splitSign : List Char → Bool × List Char
  | '-' :: rest => (true, rest)
  | '+' :: rest => (false, rest)
  | rest => (false, rest)

/-- The exponent part: nothing, or `e` with an optional sign and digits up to the end. -/
def readExponent : List Char → Option Int
  | [] => some 0
  | e :: rest =>
    let (negative, digits) := splitSign rest
    if (e = 'e' ∨ e = 'E') ∧ digits ≠ [] ∧ digits.all Char.isDigit then
      some (if negative then -(digitsValue digits : Int) else digitsValue digits)
    else none

/-- Reads a whole numeral; at least one digit stands before or after the point. -/
def read (text : List Char) : Option Decimal :=
  let (negative, unsigned) := splitSign text
  let (whole, tail) := unsigned.span Char.isDigit
  let (part, tail) := match tail with
    | '.' :: rest => rest.span Char.isDigit
    | tail => ([], tail)
  if whole.isEmpty && part.isEmpty then none
  else (readExponent tail).map fun exponent =>
    ⟨negative, digitsValue (whole ++ part), exponent - part.length⟩

def digitCount (d : Decimal) : Nat := (Nat.toDigits 10 d.significand).length

/-- The nearest double; magnitudes from 10^309 on are infinite, those below 10^-324 zero. -/
def toBinary64 (d : Decimal) : Binary64 :=
  if d.significand = 0 then .signedZero d.negative
  else if 309 < d.digitCount + d.exponent then .infinity d.negative
  else if d.digitCount + d.exponent < -324 then .signedZero d.negative
  else
    .ofRatio d.negative (d.significand * Nat.pow 10 d.exponent.toNat) (Nat.pow 10 (-d.exponent).toNat)

end Decimal

/-- Reads a numeral, or `inf`, `infinity` or `nan` in any case, with an optional sign. -/
def Binary64.ofText? (text : List Char) : Option Binary64 :=
  match Decimal.read text with
  | some d => some d.toBinary64
  | none =>
    let (negative, word) := Decimal.splitSign text
    let word := String.ofList (word.map Char.toLower)
    if word = "inf" ∨ word = "infinity" then some (.infinity negative)
    else if word = "nan" then some (if negative then Binary64.nan.neg else Binary64.nan)
    else none

end HomeHub
