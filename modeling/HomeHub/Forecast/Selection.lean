import HomeHub.Sensor.Kind

/-!
# Choosing readings from a forecast

Entries that end after now are ranked by how far both their ends are from a target instant, earlier
entries of the document first among equals. A sensor reads the best ranked entry that has its
variable.
-/
namespace HomeHub.Forecast

structure Ranked where
  score : Int
  position : Nat
  entry : Entry
  deriving DecidableEq, Repr

/-- The sum of the distances of both ends from the target, in whole milliseconds each. -/
def distanceScore (entry : Entry) (target : Instant) : Int :=
  ((entry.validTo.millisSince target).natAbs : Int) + (entry.validFrom.millisSince target).natAbs

/-- The entries that end after now, best first. -/
def rank (document : Document) (now target : Instant) : List Ranked :=
  let retained := document.entries.zipIdx.filter fun (entry, _) => decide (now < entry.validTo)
  let scored := retained.map fun (entry, position) => Ranked.mk (distanceScore entry target) position entry
  scored.mergeSort fun a b => decide (a.score ≤ b.score)

/-- The reading of the first entry that has the variable, even if that entry gives none. -/
def selectReading (ranked : List Ranked) (kind : SensorKind) : Option Reading :=
  (ranked.findSome? fun r => r.entry.conditions.get? kind.key).bind kind.extract

/-- The readings of all kinds asked for, none at all when every entry is over. -/
def select (document : Document) (now target : Instant) (kinds : List SensorKind) :
    List (SensorKind × Option Reading) :=
  let ranked := rank document now target
  if ranked.isEmpty then []
  else (SensorKind.all.filter kinds.contains).map fun kind => (kind, selectReading ranked kind)

/-- The most milliseconds that an offset may have. -/
def offsetLimit : Int := 9223372036854775807

/-- The instant so many hours from now, or now itself if that is out of range. -/
def targetInstant (hours : Int) (now : Instant) : Instant :=
  let target := now.addHours hours
  if (hours * 3600000).natAbs ≤ offsetLimit ∧ target.isRepresentable then target else now

def selectAhead (hours : Int) (document : Document) (now : Instant) (kinds : List SensorKind) :
    List (SensorKind × Option Reading) :=
  select document now (targetInstant hours now) kinds

end HomeHub.Forecast
