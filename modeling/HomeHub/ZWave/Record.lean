import HomeHub.Json.Record
import HomeHub.ZWave.Views

/-!
# Snapshots as JSON

How values, groups, nodes and snapshots are read and written. Fields that are missing have their
default value, unknown ones are dropped, and sets and maps are written in order.
-/
namespace HomeHub.ZWave

open Json (Decoder Record)

def genreNames : List (String × Genre) :=
  [("basic", .basic), ("user", .user), ("config", .config), ("system", .system)]

def Genre.name : Genre → String
  | basic => "basic"
  | user => "user"
  | config => "config"
  | system => "system"

def Value.record : Record Value where
  title := "ZWaveValue"
  blank := ⟨0, 0, 0, .user, 0, 0, "", "", "", .null, .null, .null, .null, 0⟩
  fields := [
    ⟨"value_id", .required, Decoder.word64.map fun x v => { v with valueId := x },
      fun v => some (.ofNat v.valueId.toNat)⟩,
    ⟨"node_id", .required, Decoder.word8.map fun x v => { v with nodeId := x },
      fun v => some (ofWord8 v.nodeId)⟩,
    ⟨"command_class", .required, Decoder.word8.map fun x v => { v with commandClass := x },
      fun v => some (ofWord8 v.commandClass)⟩,
    ⟨"genre", .defaulted, (Decoder.variant genreNames).map fun x v => { v with genre := x },
      fun v => some (.text v.genre.name)⟩,
    ⟨"instance", .defaulted, Decoder.word32.map fun x v => { v with instanceNumber := x },
      fun v => some (ofWord32 v.instanceNumber)⟩,
    ⟨"index", .defaulted, Decoder.word32.map fun x v => { v with index := x },
      fun v => some (ofWord32 v.index)⟩,
    ⟨"label", .defaulted, Decoder.text.map fun x v => { v with label := x },
      fun v => some (.text v.label)⟩,
    ⟨"help", .defaulted, Decoder.text.map fun x v => { v with help := x },
      fun v => some (.text v.help)⟩,
    ⟨"type", .defaulted, Decoder.text.map fun x v => { v with typeName := x },
      fun v => some (.text v.typeName)⟩,
    ⟨"data", .defaulted, Decoder.any.map fun x v => { v with data := x }, fun v => some v.data⟩,
    ⟨"data_items", .defaulted, Decoder.any.map fun x v => { v with dataItems := x },
      fun v => some v.dataItems⟩,
    ⟨"min", .defaulted, Decoder.any.map fun x v => { v with least := x }, fun v => some v.least⟩,
    ⟨"max", .defaulted, Decoder.any.map fun x v => { v with most := x }, fun v => some v.most⟩,
    ⟨"poll_intensity", .defaulted, Decoder.word32.map fun x v => { v with pollIntensity := x },
      fun v => some (ofWord32 v.pollIntensity)⟩]

def Group.record : Record Group where
  title := "ZWaveGroup"
  blank := ⟨"", [], [], 0⟩
  fields := [
    ⟨"label", .defaulted, Decoder.text.map fun x g => { g with label := x },
      fun g => some (.text g.label)⟩,
    ⟨"associations", .defaulted, Decoder.word8.list.map fun x g => { g with associations := x },
      fun g => some (.array (g.associations.map ofWord8))⟩,
    ⟨"associations_instances", .defaulted,
      Decoder.word8.pair.list.map fun x g => { g with associationInstances := x },
      fun g => some (.array (g.associationInstances.map ofPair))⟩,
    ⟨"max_associations", .defaulted, Decoder.word32.map fun x g => { g with maxAssociations := x },
      fun g => some (ofWord32 g.maxAssociations)⟩]

def ClassSet.ofList (classes : List UInt8) : ClassSet := SortedMap.ofList (classes.map fun c => (c, ()))

def Node.record : Record Node where
  title := "ZWaveNode"
  blank := ⟨0, .empty, [], .empty⟩
  fields := [
    ⟨"node_id", .required, Decoder.word8.map fun x n => { n with nodeId := x },
      fun n => some (ofWord8 n.nodeId)⟩,
    ⟨"command_classes", .defaulted,
      Decoder.word8.list.map fun x n => { n with commandClasses := ClassSet.ofList x },
      fun n => some (.array (n.commandClasses.keys.map ofWord8))⟩,
    ⟨"values", .defaulted, Value.record.decoder.list.map fun x n => { n with values := x },
      fun n => some (.array (n.values.map Value.record.toJson))⟩,
    ⟨"groups", .defaulted,
      (Decoder.numberedMembers Decoder.word8 Group.record.decoder).map
        fun x n => { n with groups := x },
      fun n => some (viewJson UInt8.toNat Group.record.toJson n.groups)⟩]

def Snapshot.record : Record Snapshot where
  title := "NetworkSnapshot"
  blank := ⟨[], []⟩
  fields := [
    ⟨"nodes", .defaulted, Node.record.decoder.list.map fun x s => { s with nodes := x },
      fun s => some (.array (s.nodes.map Node.record.toJson))⟩,
    ⟨"entity_values", .defaulted, Value.record.decoder.list.map fun x s => { s with entityValues := x },
      fun s => some (.array (s.entityValues.map Value.record.toJson))⟩]

def Snapshot.read (text : String) : Except Json.Error Snapshot := Snapshot.record.decoder.run text

def Snapshot.text (s : Snapshot) : String := (Snapshot.record.toJson s).indented

end HomeHub.ZWave
