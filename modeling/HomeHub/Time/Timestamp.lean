import HomeHub.Number.Decimal
import HomeHub.Text.ByteSize
import HomeHub.Time.Instant

/-!
# Timestamps

The RFC 3339 text of an instant. Written timestamps are in universal time; read ones may carry any
offset, a lower-case or blank separator, and a fraction of any length, of which nine digits count.
-/
namespace HomeHub

inductive TimestampFault where
  | premature
  | invalid
  | outOfRange
  | trailing
  deriving DecidableEq, Repr

namespace TimestampFault

def message : TimestampFault → String
  | premature => "premature end of input"
  | invalid => "input contains invalid characters"
  | outOfRange => "input is out of range"
  | trailing => "trailing input"

end TimestampFault

namespace Timestamp

def padded (width n : Nat) : List Char :=
  let digits := Nat.toDigits 10 n
  List.replicate (width - digits.length) '0' ++ digits

/-- Years outside 0000 to 9999 carry a sign. -/
def writeYear (year : Int) : List Char :=
  if year < 0 then '-' :: padded 4 year.natAbs
  else if 9999 < year then '+' :: padded 4 year.natAbs
  else padded 4 year.natAbs

/-- No fraction, or 3, 6 or 9 digits, the fewest that lose nothing. -/
def writeFraction (nano : Nat) : List Char :=
  if nano = 0 then []
  else if nano % 1000000 = 0 then '.' :: padded 3 (nano / 1000000)
  else if nano % 1000 = 0 then '.' :: padded 6 (nano / 1000)
  else '.' :: padded 9 nano

/-- The text of an instant in universal time, with 60 for a leap second. -/
def write (t : Instant) : List Char :=
  let date := t.date
  let (second, nano) :=
    if t.isLeap then (t.secondOfMinute + 1, t.nano - nanosPerSecond) else (t.secondOfMinute, t.nano)
  writeYear date.year ++ '-' :: padded 2 date.month ++ '-' :: padded 2 date.day ++
    'T' :: padded 2 t.hourOfDay ++ ':' :: padded 2 t.minuteOfHour ++ ':' :: padded 2 second ++
    writeFraction nano ++ ['Z']

def readDigits : (count : Nat) → List Char → Except TimestampFault (List Char × List Char)
  | 0, text => .ok ([], text)
  | _ + 1, [] => .error .premature
  | count + 1, c :: rest =>
    if c.isDigit then do
      let (digits, rest) ← readDigits count rest
      .ok (c :: digits, rest)
    else .error .invalid

def readNumber (count : Nat) (text : List Char) : Except TimestampFault (Nat × List Char) := do
  let (digits, rest) ← readDigits count text
  .ok (digitsValue digits, rest)

def readOneOf (choice : List Char) : List Char → Except TimestampFault (List Char)
  | [] => .error .premature
  | c :: rest => if choice.contains c then .ok rest else .error .invalid

/-- The days of a date; the date is checked as soon as it is read. -/
def readDate (text : List Char) : Except TimestampFault (Int × List Char) := do
  let (year, text) ← readNumber 4 text
  let text ← readOneOf ['-'] text
  let (month, text) ← readNumber 2 text
  let text ← readOneOf ['-'] text
  let (day, text) ← readNumber 2 text
  let date : Date := ⟨year, month, day⟩
  if date.isValid then .ok (date.toDays, text) else .error .outOfRange

/-- The nanoseconds that fraction digits write. -/
def fractionNanos (digits : List Char) : Nat :=
  let counted := digits.take 9
  digitsValue counted * Nat.pow 10 (9 - counted.length)

def readFraction : List Char → Except TimestampFault (Nat × List Char)
  | '.' :: rest =>
    match rest.span Char.isDigit with
    | ([], []) => .error .premature
    | ([], _) => .error .invalid
    | (digits, rest) => .ok (fractionNanos digits, rest)
  | text => .ok (0, text)

/-- Hour, minute, second and nanoseconds; second 60 is allowed in any minute. They are checked once
the fraction is read. -/
def readClock (text : List Char) :
    Except TimestampFault ((Nat × Nat × Nat × Nat) × List Char) := do
  let (hour, text) ← readNumber 2 text
  let text ← readOneOf [':'] text
  let (minute, text) ← readNumber 2 text
  let text ← readOneOf [':'] text
  let (second, text) ← readNumber 2 text
  let (nano, text) ← readFraction text
  if hour ≤ 23 ∧ minute ≤ 59 ∧ second ≤ 60 then .ok ((hour, minute, second, nano), text)
  else .error .outOfRange

/-- Two characters, of which a lone wide one counts as both. -/
def readPair : List Char → Except TimestampFault (Char × Char × List Char)
  | a :: b :: rest => .ok (a, b, rest)
  | [a] => if a.utf8Size = 1 then .error .premature else .error .invalid
  | [] => .error .premature

def readOffsetMinutes (text : List Char) : Except TimestampFault (Nat × List Char) := do
  let (a, b, rest) ← readPair text
  if a.isDigit ∧ b.isDigit then
    if digitValue a < 6 then .ok (10 * digitValue a + digitValue b, rest) else .error .outOfRange
  else .error .invalid

/-- Hours and minutes of an offset, in minutes. -/
def readOffsetAmount (text : List Char) : Except TimestampFault (Nat × List Char) := do
  let (a, b, rest) ← readPair text
  if a.isDigit ∧ b.isDigit then
    let hours := 10 * digitValue a + digitValue b
    let (minutes, rest) ← readOffsetMinutes (← readOneOf [':'] rest)
    .ok (60 * hours + minutes, rest)
  else .error .invalid

/-- The offset from universal time in minutes, of any size. -/
def readOffset : List Char → Except TimestampFault (Int × List Char)
  | [] => .error .premature
  | c :: rest =>
    if c = 'Z' ∨ c = 'z' then .ok (0, rest)
    else if c = '+' then do
      let (minutes, rest) ← readOffsetAmount rest
      .ok (minutes, rest)
    else if c = '-' ∨ c = '\u2212' then do
      let (minutes, rest) ← readOffsetAmount rest
      .ok (-(minutes : Int), rest)
    else .error .invalid

/-- A second 60 is told as second 59 and one second of nanoseconds more. -/
def clockSecond (second : Nat) : Nat × Nat :=
  if 60 ≤ second then (59, nanosPerSecond) else (second, 0)

/-- An offset is less than a day, in minutes. -/
def offsetLimit : Nat := 1440

def instantOf (days : Int) (hour minute second nano : Nat) (offset : Int) : Option Instant :=
  let (clock, leap) := clockSecond second
  let total := days * secondsPerDay + hour * secondsPerHour + minute * secondsPerMinute + clock -
    offset * secondsPerMinute
  if offsetLimit ≤ offset.natAbs then none
  else if h : leap + nano < 1000000000 ∨ (leap + nano < 2000000000 ∧ total % 60 = 59) then
    some ⟨total, leap + nano, h⟩
  else none

/-- Date, separator and time of day take this many bytes. -/
def leastSize : Nat := 19

/-- Reads a whole timestamp. Its offset is the last thing that is checked. -/
def read (text : List Char) : Except TimestampFault Instant := do
  if Text.byteSize text < leastSize then .error .premature
  else
    let (days, text) ← readDate text
    let text ← readOneOf ['T', 't', ' '] text
    let ((hour, minute, second, nano), text) ← readClock text
    let (offset, text) ← readOffset text
    match text, instantOf days hour minute second nano offset with
    | [], some t => .ok t
    | [], none => .error .outOfRange
    | _, _ => .error .trailing

end Timestamp

end HomeHub
