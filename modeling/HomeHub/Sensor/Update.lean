import HomeHub.Json.Record
import HomeHub.Sensor.Kind

/-!
# Sensor updates

What is published when a sensor changes, with its JSON form.
-/
namespace HomeHub

structure SensorUpdate where
  entityId : String
  name : String
  kind : SensorKind
  state : Option Reading
  unit : Option String
  picture : Option String
  attribution : String
  deriving DecidableEq, Repr, Inhabited

namespace SensorUpdate

def record : Json.Record SensorUpdate where
  title := "SensorUpdate"
  blank := ⟨"", "", .symbol, none, none, none, ""⟩
  fields := [
    ⟨"entity_id", .required, Json.Decoder.text.map fun v u => { u with entityId := v },
      fun u => some (.text u.entityId)⟩,
    ⟨"name", .required, Json.Decoder.text.map fun v u => { u with name := v },
      fun u => some (.text u.name)⟩,
    ⟨"sensor_type", .required, SensorKind.decoder.map fun v u => { u with kind := v },
      fun u => some (.text u.kind.key)⟩,
    ⟨"state", .nullable, Reading.decoder.optional.map fun v u => { u with state := v },
      fun u => some ((u.state.map Reading.toJson).getD .null)⟩,
    ⟨"unit_of_measurement", .nullable, Json.Decoder.text.optional.map fun v u => { u with unit := v },
      fun u => u.unit.map .text⟩,
    ⟨"entity_picture", .nullable, Json.Decoder.text.optional.map fun v u => { u with picture := v },
      fun u => u.picture.map .text⟩,
    ⟨"attribution", .required, Json.Decoder.text.map fun v u => { u with attribution := v },
      fun u => some (.text u.attribution)⟩]

def toJson (u : SensorUpdate) : Json := record.toJson u

def read (text : String) : Except Json.Error SensorUpdate := record.decoder.run text

end SensorUpdate

end HomeHub
