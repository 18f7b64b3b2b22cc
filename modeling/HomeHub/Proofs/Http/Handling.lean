import HomeHub.Http.Service
import Mathlib.Tactic.SplitIfs

/-!
# Requests and handlers

A request reaches a handler when its path and method are known, its parameter is text and its body is
not too long. The handler decides on the state and the status of the answer; a request that reaches
none changes nothing.
-/
namespace HomeHub.Http

inductive Call where
  | health
  | deviceOptions (entityId : String)
  | updateDevice (entityId : String) (body : ByteArray)
  | view (view : NodeView) (nodeId : String)
  | saveNetwork
  | sensors

inductive HandlerFault where
  | device (fault : Device.DeviceFault)
  | network (fault : ZWave.NetworkFault)
  | badNodeId
  | noNode
  | noNetwork
  deriving DecidableEq

def HandlerFault.status : HandlerFault → Nat
  | device .invalidJson | device (.invalidId _) | device (.invalidData _) => 400
  | device (.storage _) | device (.unreadable _) | network _ => 500
  | badNodeId | noNode | noNetwork => 404

def Route.readCall? : Route → Option Call
  | .health => some .health
  | .deviceConfig written => (decodeSegment? written).map .deviceOptions
  | .node view written => (decodeSegment? written).map (.view view)
  | .sensors => some .sensors
  | .saveNetwork => none

def Route.writeCall? (body : ByteArray) : Route → Option Call
  | .deviceConfig written =>
    if Service.longestBody < body.size then none
    else (decodeSegment? written).map fun entityId => .updateDevice entityId body
  | .saveNetwork => some .saveNetwork
  | _ => none

def Request.call? (r : Request) : Option Call :=
  (Route.ofTarget? r.target).bind fun route =>
    match r.method with
    | .get | .head => route.readCall?
    | .post => route.writeCall? r.body
    | _ => none

namespace Service

def handle (s : Service) : Call → Service × Response
  | .health => (s, .json 200 s.health.compact)
  | .deviceOptions entityId =>
    (s, match Device.get (s.storage.find s.storePath) entityId with
      | .ok options => .json 200 options.compact
      | .error fault => deviceFault fault)
  | .updateDevice entityId body =>
    match Device.update (s.storage.find s.storePath) entityId body with
    | .error fault => (s, deviceFault fault)
    | .ok file =>
      ({ s with storage := s.storage.put s.storePath file },
        .json 200 (Json.object [("result", .text "ok")]).compact)
  | .view view nodeId => (s, s.nodeView view nodeId)
  | .saveNetwork => s.saveNetwork
  | .sensors => (s, .json 200 s.sensorList.compact)

/-- The faults that a handler can meet with on a service. -/
inductive Meets (s : Service) : Call → HandlerFault → Prop
  | read {entityId : String} {fault : Device.DeviceFault} :
    Device.get (s.storage.find s.storePath) entityId = .error fault →
      Meets s (.deviceOptions entityId) (.device fault)
  | update {entityId : String} {body : ByteArray} {fault : Device.DeviceFault} :
    Device.update (s.storage.find s.storePath) entityId body = .error fault →
      Meets s (.updateDevice entityId body) (.device fault)
  | badNodeId {view : NodeView} {nodeId : String} :
    readUpTo? 255 nodeId = none → Meets s (.view view nodeId) .badNodeId
  | noNode {view : NodeView} {nodeId : String} {n : Nat} :
    view ≠ .values → readUpTo? 255 nodeId = some n →
      (∀ network, s.network = some network → network.node? (.ofNat n) = none) →
        Meets s (.view view nodeId) .noNode
  | noNetwork : s.network = none → Meets s .saveNetwork .noNetwork
  | save {network : ZWave.Network} {fault : ZWave.NetworkFault} :
    s.network = some network → network.save (s.storage.find network.configPath) = .error fault →
      Meets s .saveNetwork (.network fault)

section

variable {s : Service} {r : Request} {call : Call}

@[simp] theorem status_json (status : Nat) (text : String) :
    (Response.json status text).status = status := rfl

@[simp] theorem status_message (status : Nat) (text : String) :
    (message status text).status = status := rfl

theorem status_deviceFault (fault : Device.DeviceFault) :
    (deviceFault fault).status = (HandlerFault.device fault).status := by
  cases fault <;> rfl

theorem Meets.status {fault : HandlerFault} (h : Meets s call fault) :
    (s.handle call).2.status = fault.status := by
  cases h with
  | read hget => simp only [handle, hget, status_deviceFault]
  | update hupdate => simp only [handle, hupdate, status_deviceFault]
  | badNodeId hread => simp [handle, nodeView, hread, nodeNotFound, HandlerFault.status]
  | @noNode view nodeId n hview hread hnone =>
    have hnode : (s.network.bind fun network => network.node? (.ofNat n)) = none :=
      Option.bind_eq_none_iff.mpr fun network hnetwork => hnone network hnetwork
    cases view with
    | values => contradiction
    | groups | config | userCodes =>
      simp [handle, nodeView, hread, hnode, nodeNotFound, HandlerFault.status]
  | noNetwork hnone => simp [handle, saveNetwork, hnone, HandlerFault.status]
  | save hnetwork hsave => simp [handle, saveNetwork, hnetwork, hsave, HandlerFault.status]

theorem status_of_not_meets (h : ∀ fault, ¬Meets s call fault) : (s.handle call).2.status = 200 := by
  cases call with
  | health | sensors => rfl
  | deviceOptions entityId =>
    cases hget : Device.get (s.storage.find s.storePath) entityId with
    | error fault => exact absurd (.read hget) (h _)
    | ok options => simp [handle, hget]
  | updateDevice entityId body =>
    cases hupdate : Device.update (s.storage.find s.storePath) entityId body with
    | error fault => exact absurd (.update hupdate) (h _)
    | ok file => simp [handle, hupdate]
  | view view nodeId =>
    cases hread : readUpTo? 255 nodeId with
    | none => exact absurd (.badNodeId hread) (h _)
    | some n =>
      have hnode (hview : view ≠ .values) :
          ∃ node, (s.network.bind fun network => network.node? (.ofNat n)) = some node := by
        refine Option.ne_none_iff_exists'.mp fun hnone => ?_
        exact h _ (.noNode hview hread (Option.bind_eq_none_iff.mp hnone))
      cases view with
      | values => simp [handle, nodeView, hread]
      | groups | config | userCodes =>
        obtain ⟨node, hnode⟩ := hnode (by decide)
        simp [handle, nodeView, hread, hnode]
  | saveNetwork =>
    cases hnetwork : s.network with
    | none => exact absurd (.noNetwork hnetwork) (h _)
    | some network =>
      cases hsave : network.save (s.storage.find network.configPath) with
      | error fault => exact absurd (.save hnetwork hsave) (h _)
      | ok file => simp [handle, saveNetwork, hnetwork, hsave]

/-- Any other status than that of success is the status of a fault that is met with. -/
theorem status_handle_eq_iff {status : Nat} (hstatus : status ≠ 200) :
    (s.handle call).2.status = status ↔ ∃ fault, s.Meets call fault ∧ fault.status = status := by
  constructor
  · intro h
    have hmeets : ¬∀ fault, ¬s.Meets call fault := fun hnone =>
      hstatus (h.symm.trans (status_of_not_meets hnone))
    obtain ⟨fault, hfault⟩ := Classical.not_forall_not.mp hmeets
    exact ⟨fault, hfault, hfault.status.symm.trans h⟩
  · rintro ⟨fault, hfault, rfl⟩
    exact hfault.status

@[simp] theorem status_withHeader (response : Response) (name value : String) :
    (response.withHeader name value).status = response.status := rfl

@[simp] theorem status_withLength (response : Response) :
    response.withLength.status = response.status := by
  unfold Response.withLength
  split_ifs <;> simp

@[simp] theorem status_apply (accepted : List String) (response : Response) :
    (Coding.apply accepted response).status = response.status := by
  unfold Coding.apply
  split_ifs
  · rfl
  · cases Coding.preferred accepted <;> rfl

theorem fst_answer (s : Service) (r : Request) :
    (s.answer r).1 = (s.answerFully r (Route.ofTarget? r.target)).1 := rfl

theorem status_answer (s : Service) (r : Request) :
    (s.answer r).2.status = (s.answerFully r (Route.ofTarget? r.target)).2.status := by
  unfold answer
  simp only
  split_ifs <;> simp

theorem withParameter_of_decode {α : Type} {name written text : String} (refuse : Response → α)
    (accept : String → α) (h : decodeSegment? written = some text) :
    withParameter name written refuse accept = accept text := by
  simp [withParameter, h]

section

variable {route : Route} {body : ByteArray}

theorem answerRead_of_call (h : route.readCall? = some call) :
    route.reads ∧ (s, s.answerRead route) = s.handle call := by
  cases route with
  | health | sensors =>
    cases h
    exact ⟨rfl, rfl⟩
  | saveNetwork => cases h
  | deviceConfig written =>
    obtain ⟨entityId, hdecode, rfl⟩ := Option.map_eq_some_iff.mp h
    exact ⟨rfl, by rw [answerRead, withParameter_of_decode _ _ hdecode]; rfl⟩
  | node view written =>
    obtain ⟨nodeId, hdecode, rfl⟩ := Option.map_eq_some_iff.mp h
    exact ⟨rfl, by rw [answerRead, withParameter_of_decode _ _ hdecode]; rfl⟩

theorem answerWrite_of_call (h : route.writeCall? body = some call) :
    route.writes ∧ s.answerWrite body route = s.handle call := by
  cases route with
  | health | node _ _ | sensors => cases h
  | saveNetwork =>
    cases h
    exact ⟨rfl, rfl⟩
  | deviceConfig written =>
    unfold Route.writeCall? at h
    split_ifs at h with hlong
    obtain ⟨entityId, hdecode, rfl⟩ := Option.map_eq_some_iff.mp h
    refine ⟨rfl, ?_⟩
    rw [answerWrite, withParameter_of_decode _ _ hdecode, updateDevice, if_neg hlong]
    rfl

theorem answerWrite_of_no_call (h : route.writeCall? body = none) :
    (s.answerWrite body route).1 = s := by
  cases route with
  | health | node _ _ | sensors => rfl
  | saveNetwork => cases h
  | deviceConfig written =>
    cases hdecode : decodeSegment? written with
    | none => simp [answerWrite, withParameter, hdecode]
    | some entityId =>
      have hlong : longestBody < body.size := by simpa [Route.writeCall?, hdecode] using h
      rw [answerWrite, withParameter_of_decode _ _ hdecode, updateDevice, if_pos hlong]

end

/-- A request that reaches a handler is answered by it, up to headers and the body of HEAD. -/
theorem answer_of_call (h : r.call? = some call) :
    (s.answer r).1 = (s.handle call).1 ∧ (s.answer r).2.status = (s.handle call).2.status := by
  obtain ⟨route, hroute, hcall⟩ := Option.bind_eq_some_iff.mp h
  have hanswer : r.method ≠ .options ∧ s.answerRoute r route = s.handle call := by
    unfold answerRoute
    split at hcall
    · obtain ⟨hreads, hhandle⟩ := answerRead_of_call (s := s) hcall
      simp [*]
    · obtain ⟨hreads, hhandle⟩ := answerRead_of_call (s := s) hcall
      simp [*]
    · obtain ⟨hwrites, hhandle⟩ := answerWrite_of_call (s := s) hcall
      simp [*]
    · cases hcall
  obtain ⟨hmethod, hanswer⟩ := hanswer
  rw [fst_answer, status_answer, hroute, answerFully, if_neg hmethod]
  simp [hanswer, openToOrigins]

/-- A request that reaches no handler changes nothing. -/
theorem answer_of_no_call (h : r.call? = none) : (s.answer r).1 = s := by
  rw [fst_answer]
  unfold answerFully
  split_ifs with hmethod
  · rfl
  · cases hroute : Route.ofTarget? r.target with
    | none => rfl
    | some route =>
      have hcall := Option.bind_eq_none_iff.mp h route hroute
      have hwrite (hpost : r.method = .post) : route.writeCall? r.body = none := by
        simpa [hpost] using hcall
      simp only
      unfold answerRoute
      split
      · split_ifs <;> rfl
      · split_ifs <;> rfl
      · split_ifs
        · exact answerWrite_of_no_call (hwrite ‹_›)
        · rfl
      · rfl

end

end Service

end HomeHub.Http
