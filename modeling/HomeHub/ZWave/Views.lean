import HomeHub.Json.Printer
import HomeHub.ZWave.Basic

/-!
# Views of a node

What the program shows of a node: summaries of its values and groups, its configuration parameters
and its user codes, each by number. Of several values with one number the last counts.
-/
namespace HomeHub.ZWave

structure ValueSummary where
  label : String
  index : UInt32
  instanceNumber : UInt32
  pollIntensity : UInt32
  deriving DecidableEq, Repr

structure GroupSummary where
  associations : List UInt8
  associationInstances : List (UInt8 × UInt8)
  label : String
  maxAssociations : UInt32
  deriving DecidableEq, Repr

structure ConfigParameter where
  label : String
  typeName : String
  help : String
  dataItems : Json
  data : Json
  most : Json
  least : Json
  deriving DecidableEq, Repr

structure UserCode where
  code : String
  label : String
  /-- The number of characters of the code. -/
  length : Nat
  deriving DecidableEq, Repr

namespace Value

def summary (v : Value) : ValueSummary := ⟨v.label, v.index, v.instanceNumber, v.pollIntensity⟩

def parameter (v : Value) : ConfigParameter :=
  ⟨v.label, v.typeName, v.help, v.dataItems, v.data, v.most, v.least⟩

/-- A string as it is, nothing for null, and the JSON text of other data. -/
def codeText (v : Value) : String :=
  match v.data with
  | .text code => code
  | .null => ""
  | other => other.compact

def userCode (v : Value) : UserCode := ⟨v.codeText, v.label, v.codeText.length⟩

end Value

def Group.summary (g : Group) : GroupSummary :=
  ⟨g.associations, g.associationInstances, g.label, g.maxAssociations⟩

def valueSummaries (values : List Value) (nodeId : UInt8) : SortedMap UInt64 ValueSummary :=
  .ofList ((values.filter (·.nodeId = nodeId)).map fun v => (v.valueId, v.summary))

namespace Node

def groupSummaries (n : Node) : SortedMap UInt8 GroupSummary :=
  .ofList (n.groups.entries.map fun (index, group) => (index, group.summary))

def configParameters (n : Node) : SortedMap UInt32 ConfigParameter :=
  .ofList ((n.valuesOfClass configurationClass).map fun v => (v.index, v.parameter))

/-- Only nodes with the class of user codes show any, and only those of users. -/
def userCodes (n : Node) : SortedMap UInt32 UserCode :=
  if n.hasClass userCodeClass then
    .ofList (((n.valuesOfClass userCodeClass).filter (·.genre = .user)).map fun v =>
      (v.index, v.userCode))
  else .empty

end Node

/-! ## JSON forms -/

def ofWord8 (n : UInt8) : Json := .ofNat n.toNat

def ofWord32 (n : UInt32) : Json := .ofNat n.toNat

def ofPair (p : UInt8 × UInt8) : Json := .array [ofWord8 p.1, ofWord8 p.2]

def ValueSummary.toJson (s : ValueSummary) : Json :=
  .object [("label", .text s.label), ("index", ofWord32 s.index),
    ("instance", ofWord32 s.instanceNumber), ("poll_intensity", ofWord32 s.pollIntensity)]

def GroupSummary.toJson (s : GroupSummary) : Json :=
  .object [("associations", .array (s.associations.map ofWord8)),
    ("association_instances", .array (s.associationInstances.map ofPair)), ("label", .text s.label),
    ("max_associations", ofWord32 s.maxAssociations)]

def ConfigParameter.toJson (p : ConfigParameter) : Json :=
  .object [("label", .text p.label), ("type", .text p.typeName), ("help", .text p.help),
    ("data_items", p.dataItems), ("data", p.data), ("max", p.most), ("min", p.least)]

def UserCode.toJson (c : UserCode) : Json :=
  .object [("code", .text c.code), ("label", .text c.label), ("length", .ofNat c.length)]

/-- A view by number as an object with the numbers as names. -/
def viewJson {κ α : Type} [Ord κ] (number : κ → Nat) (toJson : α → Json) (view : SortedMap κ α) :
    Json :=
  .object (view.entries.map fun (k, v) => (toString (number k), toJson v))

def valuesJson (view : SortedMap UInt64 ValueSummary) : Json :=
  viewJson UInt64.toNat ValueSummary.toJson view

def groupsJson (view : SortedMap UInt8 GroupSummary) : Json :=
  viewJson UInt8.toNat GroupSummary.toJson view

def configJson (view : SortedMap UInt32 ConfigParameter) : Json :=
  viewJson UInt32.toNat ConfigParameter.toJson view

def userCodesJson (view : SortedMap UInt32 UserCode) : Json :=
  viewJson UInt32.toNat UserCode.toJson view

end HomeHub.ZWave
