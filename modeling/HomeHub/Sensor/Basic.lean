import HomeHub.Sensor.Update

/-!
# Weather sensors

A sensor belongs to a named client, has a kind, and holds the last reading that was selected for it.
-/
namespace HomeHub

structure Sensor where
  client : String
  kind : SensorKind
  state : Option Reading
  deriving DecidableEq, Repr

namespace Sensor

def attribution : String :=
  "Weather forecast from yr.no, delivered by the Norwegian Meteorological Institute and the NRK."

def iconAddress : String := "https://api.met.no/weatherapi/weathericon/1.1/"

/-- A sensor without a reading. -/
def ofKind (client : String) (kind : SensorKind) : Sensor := ⟨client, kind, none⟩

def name (s : Sensor) : String := s.client ++ " " ++ s.kind.title

/-- Adds a character to a reversed slug: letters and digits of ASCII in lower case, any run of other
characters as one underscore. -/
def slugStep (reversed : List Char) (c : Char) : List Char :=
  if c.isAlphanum then c.toLower :: reversed
  else if reversed.head? = some '_' then reversed
  else '_' :: reversed

/-- The slug of a name, without underscores at its ends. -/
def slug (name : List Char) : List Char :=
  let reversed := (name.foldl slugStep []).dropWhile (· == '_')
  reversed.reverse.dropWhile (· == '_')

def entityId (s : Sensor) : String := "sensor." ++ String.ofList (slug s.name.toList)

/-- Only the symbol has a picture, that of its reading. -/
def picture (s : Sensor) : Option String :=
  if s.kind = .symbol then
    let shown := (s.state.map Reading.display).getD "None"
    some (iconAddress ++ "?symbol=" ++ shown ++ ";content_type=image/png")
  else none

/-- Takes over a reading, and tells whether it is another one than before. -/
def setState (s : Sensor) (state : Option Reading) : Sensor × Bool :=
  if Reading.sameState s.state state then (s, false) else ({ s with state }, true)

def snapshot (s : Sensor) : SensorUpdate :=
  ⟨s.entityId, s.name, s.kind, s.state, s.kind.unit, s.picture, attribution⟩

end Sensor

end HomeHub
