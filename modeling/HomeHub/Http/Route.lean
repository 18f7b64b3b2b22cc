import HomeHub.Http.Message
import HomeHub.Http.Target

/-!
# Routes

Which paths the server knows and which methods each of them answers. Fixed segments are matched as
written; a parameter is one segment that is not empty.
-/
namespace HomeHub.Http

inductive NodeView where
  | values
  | groups
  | config
  | userCodes
  deriving DecidableEq, Repr

/-- A known path with its parameter as written. -/
inductive Route where
  | health
  | deviceConfig (entityId : String)
  | node (view : NodeView) (nodeId : String)
  | saveNetwork
  | sensors
  deriving DecidableEq, Repr

namespace Route

def ofSegments? : List String → Option Route
  | ["health"] => some .health
  | ["api", "config", "zwave", "device_config", id] => if id = "" then none else some (.deviceConfig id)
  | ["api", "zwave", "saveconfig"] => some .saveNetwork
  | ["api", "zwave", "values", id] => if id = "" then none else some (.node .values id)
  | ["api", "zwave", "groups", id] => if id = "" then none else some (.node .groups id)
  | ["api", "zwave", "config", id] => if id = "" then none else some (.node .config id)
  | ["api", "zwave", "usercodes", id] => if id = "" then none else some (.node .userCodes id)
  | ["api", "weather", "sensors"] => some .sensors
  | _ => none

def ofTarget? (target : String) : Option Route := ofSegments? (segmentsOf (pathOf target))

def reads : Route → Bool
  | saveNetwork => false
  | _ => true

def writes : Route → Bool
  | deviceConfig _ | saveNetwork => true
  | _ => false

/-- The methods that a route answers, as listed for clients. -/
def allowed (r : Route) : String :=
  ",".intercalate ((if r.reads then ["GET", "HEAD"] else []) ++ if r.writes then ["POST"] else [])

end Route

end HomeHub.Http
