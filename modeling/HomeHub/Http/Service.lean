import HomeHub.Device.Store
import HomeHub.Http.ContentCoding
import HomeHub.Http.Route
import HomeHub.Sensor.Registry
import HomeHub.ZWave.Network

/-!
# The service

Requests are answered one after another on one state. Only a POST can change it: the device options
or the file that the network is saved to.
-/
namespace HomeHub.Http

structure Service where
  storage : Storage
  /-- Where the device options are kept. -/
  storePath : String
  network : Option ZWave.Network
  sensors : Registry

namespace Service

def version : String := "0.1.0"

def message (status : Nat) (text : String) : Response :=
  .json status (Json.object [("message", .text text)]).compact

def nodeNotFound : Response := message 404 "Node not found"

def health (s : Service) : Json :=
  .object [("status", .text "ok"), ("version", .text version),
    ("zwave_network", .boolean s.network.isSome), ("weather_sensors", .ofNat s.sensors.size)]

def sensorList (s : Service) : Json :=
  .object [("sensors", .array (s.sensors.all.map SensorUpdate.toJson)),
    ("total", .ofNat s.sensors.all.length)]

def deviceFault (fault : Device.DeviceFault) : Response :=
  message (if fault.isClientFault then 400 else 500) fault.message

/-- A view of a node. Values are those of the entities, so they do not need the node itself. -/
def nodeView (s : Service) (view : NodeView) (nodeId : String) : Response :=
  match (readUpTo? 255 nodeId).map UInt8.ofNat with
  | none => nodeNotFound
  | some id =>
    let ofNode (show_ : ZWave.Node → Json) : Response :=
      match s.network.bind fun n => n.node? id with
      | none => nodeNotFound
      | some node => .json 200 (show_ node).compact
    match view with
    | .values =>
      let values := (s.network.map ZWave.Network.entityValues).getD []
      .json 200 (ZWave.valuesJson (ZWave.valueSummaries values id)).compact
    | .groups => ofNode fun node => ZWave.groupsJson node.groupSummaries
    | .config => ofNode fun node => ZWave.configJson node.configParameters
    | .userCodes => ofNode fun node => ZWave.userCodesJson node.userCodes

/-- Reads a parameter of a path, called `name` towards the client. -/
def withParameter {α : Type} (name written : String) (refuse : Response → α) (accept : String → α) : α :=
  match decodeSegment? written with
  | some text => accept text
  | none => refuse (.plain 400 s!"Invalid URL: Invalid UTF-8 in `{name}`")

def answerRead (s : Service) : Route → Response
  | .health => .json 200 s.health.compact
  | .deviceConfig written =>
    withParameter "entity_id" written id fun entityId =>
      match Device.get (s.storage.find s.storePath) entityId with
      | .ok options => .json 200 options.compact
      | .error fault => deviceFault fault
  | .node view written => withParameter "node_id" written id fun nodeId => s.nodeView view nodeId
  | .sensors => .json 200 s.sensorList.compact
  | .saveNetwork => .bare 405

def longestBody : Nat := 2097152

def updateDevice (s : Service) (entityId : String) (body : ByteArray) : Service × Response :=
  if longestBody < body.size then
    (s, .plain 413 "Failed to buffer the request body: length limit exceeded")
  else
    match Device.update (s.storage.find s.storePath) entityId body with
    | .error fault => (s, deviceFault fault)
    | .ok file =>
      ({ s with storage := s.storage.put s.storePath file },
        .json 200 (Json.object [("result", .text "ok")]).compact)

def saveNetwork (s : Service) : Service × Response :=
  match s.network with
  | none => (s, message 404 "No Z-Wave network data found")
  | some network =>
    match network.save (s.storage.find network.configPath) with
    | .error fault => (s, message 500 fault.message)
    | .ok file =>
      ({ s with storage := s.storage.put network.configPath file },
        message 200 "Z-Wave configuration saved to file.")

def answerWrite (s : Service) (body : ByteArray) : Route → Service × Response
  | .deviceConfig written =>
    withParameter "entity_id" written (fun refusal => (s, refusal)) fun entityId =>
      s.updateDevice entityId body
  | .saveNetwork => s.saveNetwork
  | _ => (s, .bare 405)

def answerRoute (s : Service) (request : Request) (route : Route) : Service × Response :=
  let refused := (s, (Response.bare 405).withHeader "allow" route.allowed)
  match request.method with
  | .get | .head => if route.reads then (s, s.answerRead route) else refused
  | .post => if route.writes then s.answerWrite request.body route else refused
  | _ => refused

/-- What the answer to a cross-origin request depends on. -/
def originVary : String := "origin, access-control-request-method, access-control-request-headers"

/-- Any origin may read any answer. -/
def openToOrigins (r : Response) : Response :=
  (r.withHeader "access-control-allow-origin" "*").withHeader "vary" originVary

def answerOptions (route : Option Route) : Response :=
  let open_ := ((openToOrigins (.bare 200)).withHeader "access-control-allow-methods" "*").withHeader
    "access-control-allow-headers" "*"
  match route with
  | some route => open_.withHeader "allow" route.allowed
  | none => open_

/-- Answers a request with the whole body, whatever its method. -/
def answerFully (s : Service) (request : Request) (route : Option Route) : Service × Response :=
  if request.method = .options then (s, answerOptions route)
  else
    let (s, response) := match route with
      | none => (s, Response.bare 404)
      | some route => s.answerRoute request route
    (s, openToOrigins (Coding.apply (request.headers.valuesOf "accept-encoding") response))

/-- Answers a request. HEAD is answered as GET, without the body but with its length. The length is
left out on unknown paths, where there is no body. -/
def answer (s : Service) (request : Request) : Service × Response :=
  let route := Route.ofTarget? request.target
  let (s, response) := s.answerFully request route
  let sized := if route.isNone ∧ isPath request.target then response else response.withLength
  (s, if request.method = .head then { sized with body := "" } else sized)

def answerAll (s : Service) : List Request → Service × List Response
  | [] => (s, [])
  | request :: rest =>
    let (s, response) := s.answer request
    let (s, responses) := s.answerAll rest
    (s, response :: responses)

end Service

end HomeHub.Http
