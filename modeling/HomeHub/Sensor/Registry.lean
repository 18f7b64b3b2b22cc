import HomeHub.Sensor.Update

/-!
# The registry of sensor states

The latest update of each entity, listed by entity id.
-/
namespace HomeHub

structure Registry where
  states : SortedMap String SensorUpdate
  deriving DecidableEq, Repr

namespace Registry

def empty : Registry := ⟨.empty⟩

def publish (r : Registry) (u : SensorUpdate) : Registry := ⟨r.states.insert u.entityId u⟩

def publishAll (r : Registry) (updates : List SensorUpdate) : Registry := updates.foldl publish r

def get? (r : Registry) (entityId : String) : Option SensorUpdate := r.states.get? entityId

def all (r : Registry) : List SensorUpdate := r.states.values

def size (r : Registry) : Nat := r.states.size

def isEmpty (r : Registry) : Bool := r.states.entries.isEmpty

end Registry

end HomeHub
