import HomeHub.Json.Reader

/-!
# Reading JSON as values of known types

A decoder is told how many levels of arrays and objects are left. What does not fit is a fault; the
fault of a single value is placed behind that value.
-/
namespace HomeHub.Json

open Scan

/-- Reads a value of a known type with so many levels left. -/
def Decoder (α : Type) : Type := (levels : Nat) → Scan α

namespace Decoder

variable {α β : Type}

def map (f : α → β) (decoder : Decoder α) : Decoder β := fun levels => do
  pure (f (← decoder levels))

/-- Reports the value ahead as one of the wrong type; arrays and objects are not entered. -/
def mismatch (expected : String) : Scan α := placed do
  match ← peek with
  | none => failNext .expectedValue
  | some c =>
    if c = 'n' then do
      skip
      letters ['u', 'l', 'l']
      raise (.wrongType .null expected)
    else if c = 't' then do
      skip
      letters ['r', 'u', 'e']
      raise (.wrongType (.boolean true) expected)
    else if c = 'f' then do
      skip
      letters ['a', 'l', 's', 'e']
      raise (.wrongType (.boolean false) expected)
    else if c = '-' ∨ c.isDigit then do
      match ← numeral with
      | .integer n => raise (.wrongType (.integer n) expected)
      | .real x => raise (.wrongType (.real (String.ofList (writeNumber (.real x)))) expected)
    else if c = '"' then do
      skip
      raise (.wrongType (.text (← textBody)) expected)
    else if c = '[' then raise (.wrongType .sequence expected)
    else if c = '\x7b' then raise (.wrongType .map expected)
    else failNext .expectedValue

/-- The character ahead, which must be there. -/
def token : Scan Char := do
  match ← peekToken with
  | none => failNext .endInValue
  | some c => pure c

def any : Decoder Json := fun levels => value levels

/-- A string, called `expected` in faults. -/
def textAs (expected : String) : Decoder String := fun _ => do
  if (← token) = '"' then do
    skip
    textBody
  else mismatch expected

def text : Decoder String := textAs "a string"

/-- A number that `convert` accepts. -/
def numberAs (expected : String) (convert : JsonNumber → Except Fault α) : Decoder α := fun _ => do
  let c ← token
  if c = '-' ∨ c.isDigit then placed do
    match convert (← numeral) with
    | .ok result => pure result
    | .error f => raise f
  else mismatch expected

def integerWithin (low high : Int) (expected : String) : Decoder Int :=
  numberAs expected fun
    | .integer n => if low ≤ n ∧ n ≤ high then .ok n else .error (.outOfRange n expected)
    | .real x => .error (.wrongType (.real (String.ofList (writeNumber (.real x)))) expected)

def word8 : Decoder UInt8 := (integerWithin 0 255 "u8").map fun n => UInt8.ofNat n.toNat

def word16 : Decoder UInt16 := (integerWithin 0 65535 "u16").map fun n => UInt16.ofNat n.toNat

def word32 : Decoder UInt32 := (integerWithin 0 4294967295 "u32").map fun n => UInt32.ofNat n.toNat

def word64 : Decoder UInt64 :=
  (integerWithin 0 18446744073709551615 "u64").map fun n => UInt64.ofNat n.toNat

def signed64 : Decoder Int64 :=
  (integerWithin (-9223372036854775808) 9223372036854775807 "i64").map Int64.ofInt

/-- A double; integers are rounded. -/
def real : Decoder Binary64 :=
  numberAs "f64" fun
    | .integer n => .ok (.ofInt n)
    | .real x => .ok x

/-- Null for no value. -/
def optional (decoder : Decoder α) : Decoder (Option α) := fun levels => do
  if (← peekToken) = some 'n' then do
    skip
    letters ['u', 'l', 'l']
    pure none
  else do pure (some (← decoder levels))

/-- An array, read from behind its opening bracket with one level less. -/
def arrayAs (expected : String) (inside : Decoder α) : Decoder α := fun levels => do
  if (← token) = '[' then
    match levels with
    | 0 => failNext .tooDeep
    | levels + 1 => bracketedArray (inside levels)
  else mismatch expected

def list (item : Decoder α) : Decoder (List α) :=
  arrayAs "a sequence" fun levels => do
    let reversed ← foldItems (fun items => do pure ((← item levels) :: items)) []
    pure reversed.reverse

def pair (item : Decoder α) : Decoder (α × α) :=
  let expected := "an array of length 2"
  arrayAs expected fun levels => do
    if ← nextItem true then
      let first ← item levels
      if ← nextItem false then
        let second ← item levels
        pure (first, second)
      else raise (.wrongLength 1 expected)
    else raise (.wrongLength 0 expected)

/-- An object, read from behind its opening bracket with one level less. -/
def objectAs (expected : String) (inside : Decoder α) : Decoder α := fun levels => do
  if (← token) = '\x7b' then
    match levels with
    | 0 => failNext .tooDeep
    | levels + 1 => bracketedObject (inside levels)
  else mismatch expected

/-- An object of any members, in key order. -/
def members (item : Decoder α) : Decoder (SortedMap String α) :=
  objectAs "a map" fun levels =>
    foldMembers memberName (fun m name => do
      colon
      pure (m.insert name (← item levels))) .empty

/-- A number written as the name of a member. -/
def numericName (key : Decoder α) : Scan α := do
  skip
  match ← peek with
  | some c => if c ≠ '-' ∧ !c.isDigit then failHere .nameNotNumeric
  | none => failHere .nameNotNumeric
  let k ← key 0
  if (← peek) = some '"' then do
    skip
    pure k
  else failNext .expectedQuote

def numberedMembers [Ord α] [Std.TransOrd α] [Std.LawfulEqOrd α] (key : Decoder α)
    (item : Decoder β) : Decoder (SortedMap α β) :=
  objectAs "a map" fun levels =>
    foldMembers (numericName key) (fun m k => do
      colon
      pure (m.insert k (← item levels))) .empty

/-- One of several names, as a string or as the only name of an object with the value null. -/
def variant (known : List (String × α)) : Decoder α := fun levels => do
  let name : Scan α := placed do
    let written ← textAs "variant identifier" levels
    match known.lookup written with
    | some meant => pure meant
    | none => raise (.unknownVariant written (known.map Prod.fst))
  match ← peekToken with
  | none => failNext .endInValue
  | some '"' => name
  | some '\x7b' =>
    match levels with
    | 0 => failNext .tooDeep
    | _ + 1 => do
      skip
      let meant ← name
      colon
      if (← token) = 'n' then do
        skip
        letters ['u', 'l', 'l']
      else mismatch "unit"
      match ← peekToken with
      | none => failHere .endInObject
      | some '\x7d' => do
        skip
        pure meant
      | some _ => failHere .expectedValue
  | some _ => failNext .expectedValue

def run (decoder : Decoder α) (text : String) : Except Error α := readWith (decoder deepest) text

end Decoder

end HomeHub.Json
