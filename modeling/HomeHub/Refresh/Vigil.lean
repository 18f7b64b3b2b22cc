import HomeHub.Refresh.Refresher

/-!
# Refreshing for as long as the server runs

A vigil refreshes once at its start and then at each tick of a schedule, and at pending retries. A
retry stays pending until it fires or a later failure replaces it.
-/
namespace HomeHub

structure FedRefresher where
  refresher : Refresher
  feed : Feed

/-- One refresh, which fetches only if it needs to. -/
def FedRefresher.update (r : FedRefresher) (now : Instant) :
    FedRefresher × RefreshOutcome × List SensorUpdate :=
  if r.refresher.needsFetch now then
    let (response, feed) := r.feed.fetch
    let (refresher, result) := r.refresher.update now response
    (⟨refresher, feed⟩, result)
  else
    let (refresher, result) := r.refresher.update now (.ok "")
    (⟨refresher, r.feed⟩, result)

/-- The clock and the pending retry between two refreshes. -/
structure VigilClock where
  now : Instant
  pendingRetry : Option Instant
  deriving DecidableEq, Repr

namespace VigilClock

def start (now : Instant) (outcome : RefreshOutcome) : VigilClock := ⟨now, outcome.retry?⟩

/-- The instant of the next refresh, and whether it is a retry. -/
def wake (c : VigilClock) (schedule : HourlySchedule) : Instant × Bool :=
  schedule.nextWake c.pendingRetry c.now

/-- The clock after a refresh: a retry that fired is done, and a failure arms a new one. -/
def advance (c : VigilClock) (wake : Instant × Bool) (outcome : RefreshOutcome) : VigilClock :=
  let kept := if wake.2 then none else c.pendingRetry
  ⟨wake.1, match outcome.retry? with
    | some retry => some retry
    | none => kept⟩

end VigilClock

structure Vigil where
  schedule : HourlySchedule
  clock : VigilClock
  source : FedRefresher
  published : List SensorUpdate

namespace Vigil

def start (schedule : HourlySchedule) (source : FedRefresher) (now : Instant) : Vigil :=
  let (source, outcome, updates) := source.update now
  ⟨schedule, .start now outcome, source, updates⟩

/-- Waits for the next refresh and makes it, as if it took no time. -/
def next (v : Vigil) : Vigil :=
  let wake := v.clock.wake v.schedule
  let (source, outcome, updates) := v.source.update wake.1
  { v with source, clock := v.clock.advance wake outcome, published := v.published ++ updates }

/-- Refreshes until the feed is used up, at most so many times more. -/
def untilUsedUp (v : Vigil) : (rounds : Nat) → Vigil
  | 0 => v
  | rounds + 1 => if v.source.feed.pending.isEmpty then v else v.next.untilUsedUp rounds

end Vigil

end HomeHub
