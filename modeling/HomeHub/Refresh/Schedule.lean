import HomeHub.Time.Instant

/-!
# When to refresh

A schedule fixes the minute and second of each hour at which the forecast is refreshed. A failed
refresh is tried again 15 minutes later, but only if that is not within the first 15 minutes of an
hour, when the next regular refresh is due.
-/
namespace HomeHub

def retryDelayMinutes : Nat := 15

def retryAt (now : Instant) : Option Instant :=
  let next := now.addMinutes retryDelayMinutes
  if 15 ≤ next.minuteOfHour then some next else none

structure HourlySchedule where
  minute : Nat
  second : Nat
  minute_lt : minute < 60
  second_lt : second < 60
  deriving DecidableEq, Repr

namespace HourlySchedule

/-- Minute and second count modulo 60. -/
def ofFields (minute second : Nat) : HourlySchedule :=
  ⟨minute % 60, second % 60, Nat.mod_lt _ (by decide), Nat.mod_lt _ (by decide)⟩

/-- The schedules that a server draws from: minutes 1 to 9 and seconds 0 to 58. -/
def isUsual (s : HourlySchedule) : Bool := 1 ≤ s.minute && s.minute < 10 && s.second < 59

def pick (n : Nat) : HourlySchedule := ofFields (1 + n % 9) (n / 9 % 59)

theorem isUsual_pick (n : Nat) : (pick n).isUsual := by
  have hm : (1 + n % 9) % 60 = 1 + n % 9 := by omega
  have hs : n / 9 % 59 % 60 = n / 9 % 59 := by omega
  simp only [isUsual, pick, ofFields, hm, hs]
  simp
  omega

def tickOfHour (s : HourlySchedule) (now : Instant) : Instant :=
  .ofSecond (now.hourStart + s.minute * secondsPerMinute + s.second)

def nextAfter (s : HourlySchedule) (now : Instant) : Instant :=
  let tick := s.tickOfHour now
  if now < tick then tick else tick.addHours 1

/-- When to wake: at a pending retry if that comes before the next tick, which the flag tells. -/
def nextWake (s : HourlySchedule) (pendingRetry : Option Instant) (now : Instant) : Instant × Bool :=
  let tick := s.nextAfter now
  match pendingRetry with
  | some retry => if retry < tick then (retry, true) else (tick, false)
  | none => (tick, false)

end HourlySchedule

end HomeHub
