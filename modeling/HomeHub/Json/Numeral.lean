import HomeHub.Json.Basic
import HomeHub.Json.Scan

/-!
# Reading JSON numbers

Digits are gathered into an integer of 64 bits; digits that no longer fit only move the point. The
double of a number with point or exponent is that integer times or divided by a power of ten, so its
last bit can be off by one.
-/
namespace HomeHub.Json

open Scan

def significandLimit : Nat := 18446744073709551615

/-- Appends digits while the number fits, and tells how many it took. -/
def appendDigits (significand : Nat) : List Char → Nat × Nat
  | [] => (significand, 0)
  | c :: rest =>
    let longer := 10 * significand + digitValue c
    if significandLimit < longer then (significand, 0)
    else
      let (last, taken) := appendDigits longer rest
      (last, taken + 1)

def digits : Scan (List Char) := fun c =>
  .done (c.rest.takeWhile Char.isDigit) (c.skipWhile Char.isDigit)

/-- Divides by 10^308 until the exponent is in reach; zero needs no more steps. -/
def scaleDown (fuel : Nat) (x : Binary64) (exponent : Int) : Binary64 × Int :=
  match fuel with
  | 0 => (x, exponent)
  | fuel + 1 =>
    if -308 ≤ exponent ∨ x.isZero then (x, exponent)
    else scaleDown fuel (x.div (.powerOfTen 308)) (exponent + 308)

/-- The double of a significand and a power of ten; nothing when it is too large. -/
def scaled? (significand : Nat) (exponent : Int) : Option Binary64 :=
  let whole := Binary64.ofInt significand
  if 0 ≤ exponent then
    if whole.isZero then some whole
    else if 308 < exponent then none
    else
      let product := whole.mul (.powerOfTen exponent.toNat)
      if product.isInfinite then none else some product
  else
    -- A nonzero significand is used up after three divisions.
    let (x, exponent) := scaleDown 4 whole exponent
    if x.isZero then some x else some (x.div (.powerOfTen (-exponent).toNat))

def real (negative : Bool) (significand : Nat) (exponent : Int) : Scan JsonNumber := do
  match scaled? significand exponent with
  | some x => pure (.real (if negative then x.neg else x))
  | none => failHere .numberOutOfRange

def exponentLimit : Nat := 2147483647

/-- Up to which digit an exponent exceeds its limit. -/
def exponentOverflow? (exponent : Nat) : (taken : Nat) → List Char → Option Nat
  | _, [] => none
  | taken, c :: rest =>
    let longer := 10 * exponent + digitValue c
    if exponentLimit < longer then some (taken + 1)
    else exponentOverflow? longer (taken + 1) rest

/-- The number from behind the `e` of its exponent. -/
def exponentPart (negative : Bool) (significand : Nat) (point : Int) : Scan JsonNumber := do
  let sign ← peek
  if sign = some '+' ∨ sign = some '-' then skip
  match ← peek with
  | none => failHere .endInValue
  | some c => if !c.isDigit then failNext .invalidNumber
  let start ← cursor
  let written ← digits
  match exponentOverflow? 0 0 written with
  | some taken =>
    if significand ≠ 0 ∧ sign ≠ some '-' then
      fun _ => .error ⟨.numberOutOfRange, ⟨start.place.line, start.place.column + taken⟩⟩
    else pure (.real (.signedZero negative))
  | none =>
    let exponent : Int := digitsValue written
    real negative significand (if sign = some '-' then point - exponent else point + exponent)

/-- The number from behind its point. -/
def fractionPart (negative : Bool) (significand : Nat) (point : Int) : Scan JsonNumber := do
  let written ← digits
  if written.isEmpty then
    match ← peek with
    | none => failNext .endInValue
    | some _ => failNext .invalidNumber
  else
    let (significand, taken) := appendDigits significand written
    let next ← peek
    if next = some 'e' ∨ next = some 'E' then do
      skip
      exponentPart negative significand (point - taken)
    else real negative significand (point - taken)

/-- The magnitude of the lowest integer. -/
def lowestInteger : Nat := 9223372036854775808

/-- A whole number: an integer if it fits, except for the negative zero. -/
def whole (negative : Bool) (significand : Nat) : JsonNumber :=
  if !negative then .integer significand
  else if significand = 0 ∨ lowestInteger < significand then .real (Binary64.ofInt significand).neg
  else .integer (-significand)

/-- A number from behind its sign. -/
def unsignedNumber (negative : Bool) : Scan JsonNumber := do
  match ← peek with
  | none => failHere .endInValue
  | some c => if !c.isDigit then failNext .invalidNumber
  let first ← peek
  if first = some '0' then skip
  let written ← if first = some '0' then pure [] else digits
  if first = some '0' then
    match ← peek with
    | some c => if c.isDigit then failNext .invalidNumber
    | none => pure ()
  let (significand, taken) := appendDigits 0 written
  let left := written.length - taken
  let next ← peek
  if next = some '.' then do
    skip
    fractionPart negative significand left
  else if next = some 'e' ∨ next = some 'E' then do
    skip
    exponentPart negative significand left
  else if left = 0 then pure (whole negative significand)
  else real negative significand left

def numeral : Scan JsonNumber := do
  if (← peek) = some '-' then do
    skip
    unsignedNumber true
  else unsignedNumber false

/-- Skips a number that nobody reads, from behind its sign. -/
def skipUnsignedNumber : Scan Unit := do
  match ← peek with
  | none => failHere .invalidNumber
  | some '0' => do
    skip
    match ← peek with
    | some c => if c.isDigit then failNext .invalidNumber
    | none => pure ()
  | some c =>
    if c.isDigit then do
      let _ ← digits
    else failNext .invalidNumber
  if (← peek) = some '.' then do
    skip
    let written ← digits
    if written.isEmpty then failNext .invalidNumber
  let next ← peek
  if next = some 'e' ∨ next = some 'E' then do
    skip
    let sign ← peek
    if sign = some '+' ∨ sign = some '-' then skip
    match ← peek with
    | none => failHere .invalidNumber
    | some c =>
      if c.isDigit then do
        let _ ← digits
      else failNext .invalidNumber

end HomeHub.Json
