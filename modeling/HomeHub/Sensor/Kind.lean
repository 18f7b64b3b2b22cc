import HomeHub.Forecast.Document
import HomeHub.Sensor.Reading
import HomeHub.Text.Blank

/-!
# Kinds of weather sensor

Each kind has a key, which is also the name of its forecast variable, a title, a unit, and the
attribute that its reading is taken from.
-/
namespace HomeHub

inductive SensorKind where
  | symbol
  | precipitation
  | temperature
  | windSpeed
  | windGust
  | pressure
  | windDirection
  | humidity
  | fog
  | cloudiness
  | lowClouds
  | mediumClouds
  | highClouds
  | dewpointTemperature
  deriving DecidableEq, Repr, Inhabited

/-- What a reading is made of the text of its attribute. -/
inductive Extraction where
  | asWritten
  | asNumber
  deriving DecidableEq, Repr

structure SensorProfile where
  key : String
  title : String
  unit : Option String
  extraction : Extraction
  /-- The attribute that holds the reading. -/
  source : String
  deriving DecidableEq, Repr

namespace SensorKind

def all : List SensorKind :=
  [symbol, precipitation, temperature, windSpeed, windGust, pressure, windDirection, humidity, fog,
    cloudiness, lowClouds, mediumClouds, highClouds, dewpointTemperature]

theorem mem_all (k : SensorKind) : k ∈ all := by cases k <;> decide

def profile : SensorKind → SensorProfile
  | symbol => ⟨"symbol", "Symbol", none, .asWritten, "number"⟩
  | precipitation => ⟨"precipitation", "Precipitation", some "mm", .asWritten, "value"⟩
  | temperature => ⟨"temperature", "Temperature", some "°C", .asWritten, "value"⟩
  | windSpeed => ⟨"windSpeed", "Wind speed", some "m/s", .asWritten, "mps"⟩
  | windGust => ⟨"windGust", "Wind gust", some "m/s", .asWritten, "mps"⟩
  | pressure => ⟨"pressure", "Pressure", some "hPa", .asWritten, "value"⟩
  | windDirection => ⟨"windDirection", "Wind direction", some "°", .asNumber, "deg"⟩
  | humidity => ⟨"humidity", "Humidity", some "%", .asWritten, "value"⟩
  | fog => ⟨"fog", "Fog", some "%", .asWritten, "percent"⟩
  | cloudiness => ⟨"cloudiness", "Cloudiness", some "%", .asWritten, "percent"⟩
  | lowClouds => ⟨"lowClouds", "Low clouds", some "%", .asWritten, "percent"⟩
  | mediumClouds => ⟨"mediumClouds", "Medium clouds", some "%", .asWritten, "percent"⟩
  | highClouds => ⟨"highClouds", "High clouds", some "%", .asWritten, "percent"⟩
  | dewpointTemperature =>
    ⟨"dewpointTemperature", "Dewpoint temperature", some "°C", .asWritten, "value"⟩

def key (k : SensorKind) : String := k.profile.key

def title (k : SensorKind) : String := k.profile.title

def unit (k : SensorKind) : Option String := k.profile.unit

def ofKey? (key : String) : Option SensorKind := all.find? fun k => k.key = key

theorem ofKey?_key (k : SensorKind) : ofKey? k.key = some k := by cases k <;> decide

/-- The reading of a variable, none when its attribute is missing or is no number as asked for. -/
def extract (k : SensorKind) (v : Forecast.Variable) : Option Reading :=
  match v.get? k.profile.source, k.profile.extraction with
  | none, _ => none
  | some text, .asWritten => some (.text text)
  | some text, .asNumber => (Binary64.ofText? (Text.trim text.toList)).map .number

def read (key : String) : Except Fault SensorKind :=
  match ofKey? key with
  | some k => .ok k
  | none => .error (.unknownSensorKind key)

def decoder : Json.Decoder SensorKind := fun levels => do
  match read (← Json.Decoder.text levels) with
  | .ok k => pure k
  | .error fault => Json.Scan.raise fault

end SensorKind

end HomeHub
