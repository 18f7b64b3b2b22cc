import HomeHub.Forecast.Assembly
import HomeHub.Forecast.Selection
import HomeHub.Refresh.Feed
import HomeHub.Refresh.Schedule
import HomeHub.Sensor.Basic

/-!
# Refreshing sensors

A refresher keeps the last forecast and the sensors. It fetches when no next run is known or that
instant has come, and publishes the sensors whose readings changed. A failure leaves forecast and
sensors as they are, and forgets when the next run is.
-/
namespace HomeHub

inductive RefreshOutcome where
  | updated (changed : Nat)
  | retryScheduled (instant : Instant)
  | retryDropped
  deriving DecidableEq, Repr

def RefreshOutcome.retry? : RefreshOutcome → Option Instant
  | retryScheduled instant => some instant
  | _ => none

structure Refresher where
  /-- How many hours ahead of now the sensors look. -/
  hours : Int
  sensors : List Sensor
  document : Option Forecast.Document
  nextRun : Option Instant
  deriving DecidableEq, Repr

namespace Refresher

def ofSensors (hours : Int) (sensors : List Sensor) : Refresher := ⟨hours, sensors, none, none⟩

def needsFetch (r : Refresher) (now : Instant) : Bool :=
  match r.nextRun with
  | none => true
  | some nextRun => decide (nextRun ≤ now)

def readResponse (response : Response) : Except FetchFault Forecast.Document :=
  match response with
  | .error fault => .error fault
  | .ok text => (Forecast.Document.read text).mapError fun fault => .content fault.message

def fail (r : Refresher) (now : Instant) : Refresher × RefreshOutcome :=
  ({ r with nextRun := none },
    match retryAt now with
    | some instant => .retryScheduled instant
    | none => .retryDropped)

/-- Hands a selection to the sensors, and gives the updates of those that changed. -/
def applySelection (selection : List (SensorKind × Option Reading)) (sensors : List Sensor) :
    List Sensor × List SensorUpdate :=
  let results := sensors.map fun s => s.setState ((selection.lookup s.kind).join)
  (results.map Prod.fst, (results.filter Prod.snd).map fun (s, _) => s.snapshot)

/-- Selects for now from a forecast; a forecast that is over changes nothing. -/
def selectNow (r : Refresher) (document : Forecast.Document) (now : Instant) :
    Refresher × RefreshOutcome × List SensorUpdate :=
  let selection := Forecast.selectAhead r.hours document now (r.sensors.map Sensor.kind)
  if selection.isEmpty then (r, .updated 0, [])
  else
    let (sensors, updates) := applySelection selection r.sensors
    ({ r with sensors }, .updated updates.length, updates)

def selectHeld (r : Refresher) (now : Instant) : Refresher × RefreshOutcome × List SensorUpdate :=
  match r.document with
  | none => (r, .updated 0, [])
  | some document => r.selectNow document now

/-- One refresh, given what a fetch would give; the updates are in sensor order. -/
def update (r : Refresher) (now : Instant) (response : Response) :
    Refresher × RefreshOutcome × List SensorUpdate :=
  if r.needsFetch now then
    match readResponse response with
    | .ok document =>
      { r with document := some document, nextRun := some document.nextRun }.selectHeld now
    | .error _ =>
      let (r, outcome) := r.fail now
      (r, outcome, [])
  else r.selectHeld now

end Refresher

end HomeHub
