import HomeHub.Json.Basic
import HomeHub.SortedMap

/-!
# Z-Wave networks

A snapshot of a network lists its nodes and the primary values of its entities. Data whose form
depends on the device is kept as JSON.
-/
namespace HomeHub.ZWave

inductive Genre where
  | basic
  | user
  | config
  | system
  deriving DecidableEq, Repr, Inhabited

/-- A set of command classes, in ascending order. -/
abbrev ClassSet := SortedMap UInt8 Unit

structure Value where
  valueId : UInt64
  nodeId : UInt8
  commandClass : UInt8
  genre : Genre
  instanceNumber : UInt32
  index : UInt32
  label : String
  help : String
  typeName : String
  data : Json
  dataItems : Json
  least : Json
  most : Json
  pollIntensity : UInt32
  deriving DecidableEq, Repr, Inhabited

structure Group where
  label : String
  associations : List UInt8
  associationInstances : List (UInt8 × UInt8)
  maxAssociations : UInt32
  deriving DecidableEq, Repr, Inhabited

structure Node where
  nodeId : UInt8
  commandClasses : ClassSet
  values : List Value
  groups : SortedMap UInt8 Group
  deriving DecidableEq, Repr, Inhabited

structure Snapshot where
  nodes : List Node
  entityValues : List Value
  deriving DecidableEq, Repr, Inhabited

/-- The class of codes that users type at a lock. -/
def userCodeClass : UInt8 := 99

def configurationClass : UInt8 := 112

namespace Node

def hasClass (n : Node) (c : UInt8) : Bool := n.commandClasses.contains c

def valuesOfClass (n : Node) (c : UInt8) : List Value := n.values.filter (·.commandClass = c)

end Node

end HomeHub.ZWave
