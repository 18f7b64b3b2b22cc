import HomeHub.Forecast.Coordinates
import HomeHub.Sensor.Basic
import HomeHub.Settings.Section

/-!
# Settings

What can be set, in three sections, and the defaults. Only the coordinates have none: without them
there are no weather sensors.
-/
namespace HomeHub

structure ServerSettings where
  host : String
  port : UInt16
  deriving DecidableEq, Repr

structure WeatherSettings where
  /-- Stands in front of the name of each sensor. -/
  name : String
  latitude : Option Binary64
  longitude : Option Binary64
  elevation : Int64
  /-- How many hours ahead of now the sensors look. -/
  forecast : Int64
  monitoredConditions : List SensorKind
  apiUrl : String
  deriving DecidableEq, Repr

structure ZWaveSettings where
  deviceConfigPath : String
  networkSnapshot : Option String
  networkConfigPath : String
  deriving DecidableEq, Repr

structure Settings where
  server : ServerSettings
  weather : WeatherSettings
  zwave : ZWaveSettings
  deriving DecidableEq, Repr

namespace ServerSettings

def defaultHost : String := "0.0.0.0"

def defaultPort : UInt16 := 8080

def defaults : ServerSettings := ⟨defaultHost, defaultPort⟩

def schema : SettingSection ServerSettings where
  title := "ServerSettings"
  defaults := defaults
  settings := [
    .of "host" .text defaultHost host fun host s => { s with host },
    .of "port" .word16 defaultPort port fun port s => { s with port }]

def bindAddress (s : ServerSettings) : String := s!"{s.host}:{s.port.toNat}"

end ServerSettings

namespace WeatherSettings

def defaultName : String := "yr"

def defaultConditions : List SensorKind := [.symbol]

def defaultApiUrl : String :=
  "https://aa015h6buqvih86i1.api.met.no/weatherapi/locationforecast/1.9/"

def defaults : WeatherSettings :=
  ⟨defaultName, none, none, 0, 0, defaultConditions, defaultApiUrl⟩

/-- A kind of sensor by its key in TOML. An unknown key is a fault of what the kind is for. -/
def readKind : Toml.Decoder SensorKind := fun v => do
  let key ← Toml.Decoder.text v
  (SensorKind.read key).mapError fun fault => ⟨fault, none⟩

def kindFormat : Format SensorKind := ⟨SensorKind.decoder, readKind, fun k => .text k.key⟩

def schema : SettingSection WeatherSettings where
  title := "WeatherSettings"
  defaults := defaults
  settings := [
    .of "name" .text defaultName name fun name s => { s with name },
    .of "latitude" (.optional .real) none latitude fun latitude s => { s with latitude },
    .of "longitude" (.optional .real) none longitude fun longitude s => { s with longitude },
    .of "elevation" .signed64 0 elevation fun elevation s => { s with elevation },
    .of "forecast" .signed64 0 forecast fun forecast s => { s with forecast },
    .of "monitored_conditions" (.list kindFormat) defaultConditions monitoredConditions
      fun monitoredConditions s => { s with monitoredConditions },
    .of "api_url" .text defaultApiUrl apiUrl fun apiUrl s => { s with apiUrl }]

/-- None unless both latitude and longitude are set. -/
def coordinates? (s : WeatherSettings) : Option Coordinates := do
  some ⟨← s.latitude, ← s.longitude, s.elevation⟩

def sensors (s : WeatherSettings) : List Sensor := s.monitoredConditions.map (Sensor.ofKind s.name)

end WeatherSettings

namespace ZWaveSettings

def defaultDeviceConfigPath : String := "zwave_device_config.json"

def defaultNetworkConfigPath : String := "zwcfg.json"

def defaults : ZWaveSettings := ⟨defaultDeviceConfigPath, none, defaultNetworkConfigPath⟩

def schema : SettingSection ZWaveSettings where
  title := "ZWaveSettings"
  defaults := defaults
  settings := [
    .of "device_config_path" .path defaultDeviceConfigPath deviceConfigPath
      fun deviceConfigPath s => { s with deviceConfigPath },
    .of "network_snapshot" (.optional .path) none networkSnapshot
      fun networkSnapshot s => { s with networkSnapshot },
    .of "network_config_path" .path defaultNetworkConfigPath networkConfigPath
      fun networkConfigPath s => { s with networkConfigPath }]

end ZWaveSettings

namespace Settings

def defaults : Settings := ⟨.defaults, .defaults, .defaults⟩

def schema : SettingSection Settings where
  title := "AppConfig"
  defaults := defaults
  settings := [
    .of "server" ServerSettings.schema.format .defaults server fun server s => { s with server },
    .of "weather" WeatherSettings.schema.format .defaults weather fun weather s => { s with weather },
    .of "zwave" ZWaveSettings.schema.format .defaults zwave fun zwave s => { s with zwave }]

def toJson (s : Settings) : Json := schema.record.toJson s

end Settings

end HomeHub
