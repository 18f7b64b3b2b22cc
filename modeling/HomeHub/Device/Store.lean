import HomeHub.Device.Options

/-!
# The store of device options

A file holds a JSON object with the options of each entity. Updates are merged into it: a posted
option replaces the one of its name, all others stay.
-/
namespace HomeHub.Device

/-- What is stored for each entity. -/
abbrev Config := SortedMap String Json

/-- The options in a stored value; anything but an object holds none. -/
def storedOptions : Json → Options
  | .object members => .ofList members
  | _ => .empty

def overrideWith (options others : Options) : Options :=
  others.entries.foldl (fun m e => m.insert e.1 e.2) options

def merge (config : Config) (id : String) (options : Options) : Config :=
  let before := ((config.get? id).map storedOptions).getD .empty
  config.insert id (.object (overrideWith before options).entries)

/-- A missing or blank file holds no entity. -/
def readConfig (file : File) : Except DeviceFault Config :=
  match file.read with
  | .error .notFound => .ok .empty
  | .error fault => .error (.storage fault)
  | .ok text =>
    if (Text.trim text.toList).isEmpty then .ok .empty
    else ((Json.Decoder.members Json.Decoder.any).run text).mapError .unreadable

def configText (config : Config) : String := (Json.object config.entries).indented

def writeConfig (file : File) (config : Config) : Except DeviceFault File :=
  (file.write (configText config)).mapError .storage

/-- What is stored for an entity, an empty object for an unknown one. -/
def get (file : File) (id : String) : Except DeviceFault Json := do
  if !isEntityId id then .error (.invalidId id)
  else
    let config ← readConfig file
    .ok ((config.get? id).getD (.object []))

/-- Bytes as JSON; all JSON is UTF-8. -/
def readBody (body : ByteArray) : Except DeviceFault Json :=
  match String.fromUTF8? body with
  | none => .error .invalidJson
  | some text => (Json.read text).mapError fun _ => .invalidJson

/-- The options of an update that is in order. -/
def readUpdate (id : String) (body : ByteArray) : Except DeviceFault Options := do
  let data ← readBody body
  if !isEntityId id then .error (.invalidId id) else (readOptions data).mapError .invalidData

def update (file : File) (id : String) (body : ByteArray) : Except DeviceFault File := do
  let options ← readUpdate id body
  let config ← readConfig file
  writeConfig file (merge config id options)

end HomeHub.Device
