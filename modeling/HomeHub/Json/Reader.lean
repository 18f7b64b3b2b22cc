import HomeHub.Json.Nesting
import HomeHub.Json.Numeral
import HomeHub.Json.Printer
import HomeHub.SortedMap

/-!
# Reading JSON values

`value` reads any value, with the members of each object in key order. `skipValue` passes over a
value that nobody reads: it checks its brackets, words and numbers, at any depth.
-/
namespace HomeHub.Json

open Scan

def arrayItems (item : Scan Json) : Scan (List Json) := do
  let reversed ← foldItems (fun items => do pure ((← item) :: items)) []
  pure reversed.reverse

/-- Reads members with a scanner for one value; the last value of a name counts. -/
def objectMembers (item : Scan Json) : Scan (SortedMap String Json) :=
  foldMembers memberName (fun members name => do
    colon
    pure (members.insert name (← item))) .empty

/-- A value, given a scanner for values one level down, if there is such a level. -/
def valueWith (inner : Option (Scan Json)) : Scan Json := do
  match ← peekToken with
  | none => failNext .endInValue
  | some c =>
    if c = 'n' then do
      skip
      letters ['u', 'l', 'l']
      pure .null
    else if c = 't' then do
      skip
      letters ['r', 'u', 'e']
      pure (.boolean true)
    else if c = 'f' then do
      skip
      letters ['a', 'l', 's', 'e']
      pure (.boolean false)
    else if c = '-' ∨ c.isDigit then do
      pure (.number (← numeral))
    else if c = '"' then do
      skip
      pure (.text (← textBody))
    else if c = '[' then
      match inner with
      | none => failNext .tooDeep
      | some item => do pure (.array (← bracketedArray (arrayItems item)))
    else if c = '\x7b' then
      match inner with
      | none => failNext .tooDeep
      | some item => do pure (.object (← bracketedObject (objectMembers item)).entries)
    else failNext .expectedValue

/-- Any value with at most so many levels of arrays and objects. -/
def value : (levels : Nat) → Scan Json
  | 0 => valueWith none
  | levels + 1 => valueWith (some (value levels))

/-- An array or object that is being skipped. -/
inductive Bracket where
  | array
  | object
  deriving DecidableEq, Repr

/-- What comes next in a value that is being skipped. -/
inductive SkipState where
  /-- A value. -/
  | item
  /-- The first element of the innermost bracket, or its end. -/
  | opened
  /-- A comma, or the end of the innermost bracket. -/
  | after
  deriving DecidableEq, Repr

def skipName : Scan Unit := do
  match ← peekToken with
  | none => failNext .endInObject
  | some '"' => skip
  | some _ => failNext .nameNotText
  skipTextBody
  colon

/-- One step through the brackets that are open, the innermost first. -/
def skipStep (state : SkipState × List Bracket) :
    Scan ((SkipState × List Bracket) ⊕ Unit) := do
  match state with
  | (.item, brackets) =>
    match ← peekToken with
    | none => failNext .endInValue
    | some c =>
      if c = '[' then do
        skip
        pure (.inl (.opened, .array :: brackets))
      else if c = '\x7b' then do
        skip
        pure (.inl (.opened, .object :: brackets))
      else do
        if c = 'n' then do
          skip
          letters ['u', 'l', 'l']
        else if c = 't' then do
          skip
          letters ['r', 'u', 'e']
        else if c = 'f' then do
          skip
          letters ['a', 'l', 's', 'e']
        else if c = '-' then do
          skip
          skipUnsignedNumber
        else if c.isDigit then skipUnsignedNumber
        else if c = '"' then do
          skip
          skipTextBody
        else failNext .expectedValue
        pure (.inl (.after, brackets))
  | (_, []) => pure (.inr ())
  | (phase, .array :: brackets) =>
    match ← peekToken with
    | none => failNext .endInList
    | some c =>
      if c = ']' then do
        skip
        pure (.inl (.after, brackets))
      else if phase = .opened then pure (.inl (.item, .array :: brackets))
      else if c = ',' then do
        skip
        pure (.inl (.item, .array :: brackets))
      else failNext .expectedListEnd
  | (phase, .object :: brackets) =>
    match ← peekToken with
    | none => failNext .endInObject
    | some c =>
      if c = '\x7d' then do
        skip
        pure (.inl (.after, brackets))
      else if phase = .opened then do
        skipName
        pure (.inl (.item, .object :: brackets))
      else if c = ',' then do
        skip
        skipName
        pure (.inl (.item, .object :: brackets))
      else failNext .expectedObjectEnd

/-- Passes over one value. Each character takes at most two steps. -/
def skipValue : Scan Unit := fun c =>
  iterate skipStep (2 * c.rest.length + 4) (.item, []) c

def readWith {α : Type} (scan : Scan α) (text : String) : Except Error α :=
  let whole : Scan α := do
    let result ← scan
    finish
    pure result
  match placed whole (Cursor.start text) with
  | .done result _ => .ok result
  | .fault f c => .error ⟨.fault f, c.place⟩
  | .error e => .error e

def read (text : String) : Except Error Json := readWith (value deepest) text

end HomeHub.Json
