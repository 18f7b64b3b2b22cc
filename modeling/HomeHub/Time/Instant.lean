import HomeHub.Time.Calendar

/-!
# Instants of universal time

An instant is a second counted from 1970 and nanoseconds inside it. A leap second is told as second
59 of its minute with a nanosecond part of at least one second.
-/
namespace HomeHub

def nanosPerSecond : Nat := 1000000000

def secondsPerMinute : Nat := 60

def secondsPerHour : Nat := 3600

def secondsPerDay : Nat := 86400

structure Instant where
  second : Int
  nano : Nat
  /-- Only the last second of a minute can be a leap second. -/
  nano_lt : nano < 1000000000 ∨ (nano < 2000000000 ∧ second % 60 = 59)
  deriving DecidableEq, Repr

namespace Instant

def ofSecond (second : Int) : Instant := ⟨second, 0, Or.inl (by decide)⟩

instance : Inhabited Instant := ⟨ofSecond 0⟩

def isLeap (t : Instant) : Bool := decide (nanosPerSecond ≤ t.nano)

/-- Earlier second first, then the smaller nanosecond part. -/
instance : LT Instant where
  lt a b := a.second < b.second ∨ (a.second = b.second ∧ a.nano < b.nano)

instance : LE Instant where
  le a b := a.second < b.second ∨ (a.second = b.second ∧ a.nano ≤ b.nano)

theorem lt_def {a b : Instant} :
    a < b ↔ a.second < b.second ∨ (a.second = b.second ∧ a.nano < b.nano) := Iff.rfl

theorem le_def {a b : Instant} :
    a ≤ b ↔ a.second < b.second ∨ (a.second = b.second ∧ a.nano ≤ b.nano) := Iff.rfl

instance : DecidableLT Instant := fun _ _ => decidable_of_iff' _ lt_def

instance : DecidableLE Instant := fun _ _ => decidable_of_iff' _ le_def

theorem not_lt {a b : Instant} : ¬a < b ↔ b ≤ a := by
  simp only [lt_def, le_def]
  omega

/-- Moves an instant by whole seconds. Any move leaves a leap second: forward it counts as the second
that it is told as, backward as the one after it. -/
def addSeconds (t : Instant) (seconds : Int) : Instant :=
  if h : t.nano < 1000000000 then ⟨t.second + seconds, t.nano, Or.inl h⟩
  else
    have hn : t.nano - 1000000000 < 1000000000 := by
      rcases t.nano_lt with h' | h' <;> omega
    if 0 < seconds then ⟨t.second + seconds, t.nano - 1000000000, Or.inl hn⟩
    else if seconds < 0 then ⟨t.second + 1 + seconds, t.nano - 1000000000, Or.inl hn⟩
    else t

def addMinutes (t : Instant) (minutes : Int) : Instant := t.addSeconds (minutes * secondsPerMinute)

def addHours (t : Instant) (hours : Int) : Instant := t.addSeconds (hours * secondsPerHour)

def days (t : Instant) : Int := t.second / secondsPerDay

def date (t : Instant) : Date := Date.ofDays t.days

def secondOfDay (t : Instant) : Int := t.second % secondsPerDay

def hourOfDay (t : Instant) : Nat := (t.secondOfDay / secondsPerHour).toNat

def minuteOfHour (t : Instant) : Nat := (t.second % secondsPerHour / secondsPerMinute).toNat

def secondOfMinute (t : Instant) : Nat := (t.second % secondsPerMinute).toNat

/-- The start of the hour that an instant lies in. -/
def hourStart (t : Instant) : Int := t.second / secondsPerHour * secondsPerHour

/-- The nanoseconds from one instant to another. A leap second between them counts when both lie on
different times of day, as seen on the clock alone. -/
def nanosSince (t start : Instant) : Int :=
  let leap : Int :=
    if start.secondOfDay < t.secondOfDay ∧ start.isLeap then 1
    else if t.secondOfDay < start.secondOfDay ∧ t.isLeap then -1
    else 0
  (t.second - start.second + leap) * nanosPerSecond + ((t.nano : Int) - start.nano)

/-- The milliseconds from one instant to another, cut toward zero. -/
def millisSince (t start : Instant) : Int := (t.nanosSince start).tdiv 1000000

/-- The years that instants are kept within. -/
def firstYear : Int := -262143

def lastYear : Int := 262142

def firstSecond : Int := (Date.mk firstYear 1 1).toDays * secondsPerDay

def lastSecond : Int := ((Date.mk lastYear 12 31).toDays + 1) * secondsPerDay - 1

def isRepresentable (t : Instant) : Bool :=
  decide (firstSecond ≤ t.second) && decide (t.second ≤ lastSecond)

end Instant

end HomeHub
