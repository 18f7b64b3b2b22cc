import HomeHub.Http.Address
import HomeHub.Http.Client
import HomeHub.Http.Service
import HomeHub.Refresh.Refresher
import HomeHub.Server.Log
import HomeHub.Settings.Source

/-!
# Starting the server

The steps of a start, in order: settings, device options, network, forecast, address. The first one
that fails ends it, with what was logged so far.
-/
namespace HomeHub

inductive LaunchFault where
  | settings (fault : SettingsFault)
  | network (fault : ZWave.NetworkFault)
  /-- Host and port make no address. -/
  | address
  /-- The address belongs to another machine. -/
  | foreignAddress
  deriving DecidableEq, Repr

def LaunchFault.message : LaunchFault → String
  | settings fault => fault.message
  | network fault => fault.message
  | address => "invalid socket address syntax"
  | foreignAddress => "Cannot assign requested address (os error 99)"

structure ReadyServer where
  address : Http.Address
  service : Http.Service
  /-- Where forecasts come from and what they refresh, if the coordinates are set. -/
  forecast : Option (Http.Client × Refresher)

/-- A step that logs and may fail. -/
abbrev LaunchStep : Type → Type := ExceptT LaunchFault (StateM (List LogLine))

namespace LaunchStep

def say (level : LogLevel) (message : String) : LaunchStep Unit :=
  modify fun log => log ++ [⟨level, message⟩]

def settings (storage : Storage) (env : Environment) : LaunchStep Settings :=
  ExceptT.mk (pure ((Settings.load storage env).mapError .settings))

/-- Loads the network if there is a snapshot of one. -/
def network (storage : Storage) (s : ZWaveSettings) : LaunchStep (Option ZWave.Network) :=
  match s.networkSnapshot with
  | none => pure none
  | some path =>
    let loaded := ZWave.Network.load (storage.find path) s.networkConfigPath
    ExceptT.mk (pure ((loaded.mapError .network).map some))

def forecast (s : WeatherSettings) : LaunchStep (Option (Http.Client × Refresher)) :=
  match s.coordinates? with
  | none => do
    say .error "Latitude or longitude not set in config; weather sensors disabled"
    pure none
  | some coordinates =>
    pure (some (⟨s.apiUrl, coordinates⟩, .ofSensors s.forecast.toInt s.sensors))

def address (s : ServerSettings) : LaunchStep Http.Address :=
  match Http.Address.read? s.bindAddress with
  | some address => pure address
  | none => throw .address

/-- Takes an address to listen at. No interface but the one that leads back is known here. -/
def listen (address : Http.Address) : LaunchStep Unit := do
  say .info s!"Server listening on http://{address.display}"
  say .info s!"Health check: http://{address.display}/health"
  if address.isOwn then pure () else throw .foreignAddress

def all (storage : Storage) (env : Environment) : LaunchStep ReadyServer := do
  say .info "Starting Hearth HTTP Server"
  let settings ← settings storage env
  say .info s!"Device config store ready path={settings.zwave.deviceConfigPath}"
  let network ← network storage settings.zwave
  let forecast ← forecast settings.weather
  let address ← address settings.server
  listen address
  pure ⟨address, ⟨storage, settings.zwave.deviceConfigPath, network, .empty⟩, forecast⟩

end LaunchStep

def launch (storage : Storage) (env : Environment) : List LogLine × Except LaunchFault ReadyServer :=
  let (result, log) := (LaunchStep.all storage env).run.run []
  (log.filter fun line => (LogLevel.read env.logLevel).isShown line.level, result)

end HomeHub
