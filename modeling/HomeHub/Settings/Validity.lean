import HomeHub.Settings.Basic
import HomeHub.Storage.File
import HomeHub.Text.Place

/-!
# Valid settings

Settings are refused when no condition is monitored or a number is out of its range; a NaN is in no
range. The first offence is reported.
-/
namespace HomeHub

inductive SettingsFault where
  /-- The file cannot be read. -/
  | unreadable (path : String) (fault : StorageFault)
  /-- The file is no TOML document. -/
  | malformed (place : Place)
  /-- A value is not of the kind that its setting asks for. -/
  | misfit (place : Place) (fault : Fault)
  | noConditions
  | forecastOutOfRange (hours : Int64)
  | latitudeOutOfRange (latitude : Binary64)
  | longitudeOutOfRange (longitude : Binary64)
  | noPortNumber (text : String)
  deriving DecidableEq, Repr

namespace Settings

/-- The farthest forecast in either direction, in hours. -/
def forecastLimit : Int := 240

def latitudeLimit : Int := 90

def longitudeLimit : Int := 180

end Settings

namespace SettingsFault

/-- What is wrong with the settings themselves. -/
def detail : SettingsFault → String
  | unreadable path fault => s!"{path}: {fault.message}"
  | malformed place => s!"TOML parse error at line {place.line}, column {place.column}\n"
  | misfit place fault =>
    s!"TOML parse error at line {place.line}, column {place.column}\n{fault.message}\n"
  | noConditions => "weather.monitored_conditions must list at least one condition"
  | forecastOutOfRange hours =>
    s!"weather.forecast must be within {Settings.forecastLimit} hours: {hours.toInt}"
  | latitudeOutOfRange latitude => s!"weather.latitude out of range: {latitude.display}"
  | longitudeOutOfRange longitude => s!"weather.longitude out of range: {longitude.display}"
  | noPortNumber text => s!"PORT is not a port number: {text}"

def message (fault : SettingsFault) : String :=
  match fault with
  | unreadable .. => s!"Failed to read config file {fault.detail}"
  | malformed .. | misfit .. => s!"Failed to parse config file: {fault.detail}"
  | _ => s!"Invalid configuration: {fault.detail}"

end SettingsFault

/-- Whether a number lies between a limit and its negative. -/
def Binary64.isWithin (limit : Int) (x : Binary64) : Bool :=
  (Binary64.ofInt (-limit)).le x && x.le (.ofInt limit)

namespace Settings

def offence? (s : Settings) : Option SettingsFault :=
  let w := s.weather
  let forecastFits := decide (-forecastLimit ≤ w.forecast.toInt ∧ w.forecast.toInt ≤ forecastLimit)
  if w.monitoredConditions.isEmpty then some .noConditions
  else if !forecastFits then some (.forecastOutOfRange w.forecast)
  else
    match w.latitude.filter (!·.isWithin latitudeLimit) with
    | some latitude => some (.latitudeOutOfRange latitude)
    | none =>
      (w.longitude.filter (!·.isWithin longitudeLimit)).map .longitudeOutOfRange

def isValid (s : Settings) : Bool := s.offence?.isNone

def checked (s : Settings) : Except SettingsFault Settings :=
  match s.offence? with
  | none => .ok s
  | some fault => .error fault

end Settings

end HomeHub
