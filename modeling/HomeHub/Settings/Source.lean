import HomeHub.Settings.Validity
import HomeHub.Storage.Tree
import HomeHub.Toml.Document

/-!
# Where settings come from

Settings are read from a TOML file: the one that the environment names, or else the first there is
of some usual places; without any, the defaults hold. Then the environment can override host and
port.
-/
namespace HomeHub

structure Environment where
  configPath : Option String
  host : Option String
  port : Option String
  logLevel : Option String
  deriving DecidableEq, Repr

namespace Settings

def read (text : String) : Except SettingsFault Settings :=
  let place (left : Nat) := Place.ofLeft text.toList left
  match Toml.read text.toList with
  | .error left => .error (.malformed (place left))
  | .ok document =>
    match schema.readToml document with
    | .error misfit => .error (.misfit (place (misfit.left.getD document.left)) misfit.fault)
    | .ok settings => settings.checked

def readFile (storage : Storage) (path : String) : Except SettingsFault Settings :=
  match storage.read path with
  | .error fault => .error (.unreadable path fault)
  | .ok text => read text

/-- Where a file is looked for. -/
def usualPaths : List String := ["hearth.toml", "backend/hearth.toml", "../hearth.toml"]

/-- The file that settings are read from, if any. -/
def chosenPath (storage : Storage) (env : Environment) : Option String :=
  match env.configPath with
  | some path => some path
  | none => usualPaths.find? fun path => (storage.find path).exists?

def withHost (s : Settings) (host : Option String) : Settings :=
  match host with
  | some host => { s with server.host := host }
  | none => s

def withPort (s : Settings) (port : Option String) : Except SettingsFault Settings :=
  match port with
  | none => .ok s
  | some text =>
    match (readUpTo? 65535 text).map UInt16.ofNat with
    | some port => .ok { s with server.port := port }
    | none => .error (.noPortNumber text)

/-- What the chosen file gives, the defaults without a file. -/
def fromFile (storage : Storage) (env : Environment) : Except SettingsFault Settings :=
  match chosenPath storage env with
  | some path => readFile storage path
  | none => .ok defaults

def load (storage : Storage) (env : Environment) : Except SettingsFault Settings := do
  let settings ← fromFile storage env
  (settings.withHost env.host).withPort env.port

end Settings

end HomeHub
