import HomeHub.Proofs.Http.Handling
import HomeHub.Proofs.Storage.Tree
import Mathlib.Tactic.ByContra

/-!
# What requests change

Only a POST that stores options or saves the network, and is answered 200, changes anything, and it
writes one file. All other requests can be left out of a sequence without any effect on the rest.
-/
namespace HomeHub.Http

def Request.IsDevicePost (r : Request) : Prop :=
  r.method = .post ∧ ∃ written, Route.ofTarget? r.target = some (.deviceConfig written)

def Request.IsSavePost (r : Request) : Prop :=
  r.method = .post ∧ Route.ofTarget? r.target = some .saveNetwork

/-- A POST of either kind that succeeded. -/
def IsChange (r : Request) (response : Response) : Prop :=
  (r.IsDevicePost ∨ r.IsSavePost) ∧ response.status = 200

section

variable {r : Request}

theorem Request.isDevicePost_of_call {entityId : String} {body : ByteArray}
    (h : r.call? = some (.updateDevice entityId body)) : r.IsDevicePost := by
  obtain ⟨route, hroute, hcall⟩ := Option.bind_eq_some_iff.mp h
  split at hcall
  · cases route <;> simp [Route.readCall?] at hcall
  · cases route <;> simp [Route.readCall?] at hcall
  · rename_i hpost
    cases route with
    | deviceConfig written => exact ⟨hpost, written, hroute⟩
    | health | node _ _ | saveNetwork | sensors => simp [Route.writeCall?] at hcall
  · cases hcall

theorem Request.isSavePost_of_call (h : r.call? = some .saveNetwork) : r.IsSavePost := by
  obtain ⟨route, hroute, hcall⟩ := Option.bind_eq_some_iff.mp h
  split at hcall
  · cases route <;> simp [Route.readCall?] at hcall
  · cases route <;> simp [Route.readCall?] at hcall
  · rename_i hpost
    cases route with
    | saveNetwork => exact ⟨hpost, hroute⟩
    | deviceConfig written => simp [Route.writeCall?] at hcall
    | health | node _ _ | sensors => simp [Route.writeCall?] at hcall
  · cases hcall

end

theorem mapError_eq_ok_iff {ε ε' α : Type} {f : ε → ε'} {result : Except ε α} {a : α} :
    result.mapError f = .ok a ↔ result = .ok a := by
  cases result <;> simp [Except.mapError]

theorem isWritable_of_update {file after : File} {entityId : String} {body : ByteArray}
    (h : Device.update file entityId body = .ok after) :
    file.isWritable ∧ ∃ written, after = .text written := by
  unfold Device.update at h
  cases hupdate : Device.readUpdate entityId body with
  | error fault => simp [hupdate, bind, Except.bind] at h
  | ok options =>
    cases hconfig : Device.readConfig file with
    | error fault => simp [hupdate, hconfig, bind, Except.bind] at h
    | ok config =>
      simp only [hupdate, hconfig, bind, Except.bind] at h
      obtain ⟨hwritable, hafter⟩ := File.write_eq_ok_iff.mp (mapError_eq_ok_iff.mp h)
      exact ⟨hwritable, _, hafter⟩

theorem isWritable_of_save {network : ZWave.Network} {file after : File}
    (h : network.save file = .ok after) : file.isWritable ∧ ∃ written, after = .text written := by
  obtain ⟨hwritable, hafter⟩ := File.write_eq_ok_iff.mp (mapError_eq_ok_iff.mp h)
  exact ⟨hwritable, _, hafter⟩

namespace Service

/-- What a request can make of a service. -/
inductive Effect (s : Service) (r : Request) : Service → Response → Prop
  | nothing (response : Response) : Effect s r s response
  | stored (response : Response) (written : String) :
    r.IsDevicePost → response.status = 200 → (s.storage.find s.storePath).isWritable →
      Effect s r { s with storage := s.storage.put s.storePath (.text written) } response
  | saved (response : Response) (network : ZWave.Network) (written : String) :
    r.IsSavePost → response.status = 200 → s.network = some network →
      (s.storage.find network.configPath).isWritable →
      Effect s r { s with storage := s.storage.put network.configPath (.text written) } response

theorem effect_answer (s : Service) (r : Request) : Effect s r (s.answer r).1 (s.answer r).2 := by
  cases hcall : r.call? with
  | none =>
    rw [answer_of_no_call hcall]
    exact .nothing _
  | some call =>
    obtain ⟨hservice, hstatus⟩ := answer_of_call (s := s) hcall
    rw [hservice]
    cases call with
    | health | deviceOptions _ | view _ _ | sensors => exact .nothing _
    | updateDevice entityId body =>
      cases hupdate : Device.update (s.storage.find s.storePath) entityId body with
      | error fault =>
        simp only [handle, hupdate]
        exact .nothing _
      | ok file =>
        obtain ⟨hwritable, written, rfl⟩ := isWritable_of_update hupdate
        simp only [handle, hupdate] at hstatus ⊢
        exact .stored _ written (Request.isDevicePost_of_call hcall) hstatus hwritable
    | saveNetwork =>
      cases hnetwork : s.network with
      | none =>
        simp only [handle, saveNetwork, hnetwork]
        exact .nothing _
      | some network =>
        cases hsave : network.save (s.storage.find network.configPath) with
        | error fault =>
          simp only [handle, saveNetwork, hnetwork, hsave]
          exact .nothing _
        | ok file =>
          obtain ⟨hwritable, written, rfl⟩ := isWritable_of_save hsave
          simp only [handle, saveNetwork, hnetwork, hsave] at hstatus ⊢
          rw [← hnetwork]
          exact .saved _ network written (Request.isSavePost_of_call hcall) hstatus hnetwork hwritable

/-- The bytes of the file with the options of devices, none while there is no file. -/
def deviceBytes (s : Service) : Option (List UInt8) := (s.storage.find s.storePath).content

/-- The bytes of the file that the network is saved to. -/
def networkBytes (s : Service) : Option (List UInt8) :=
  s.network.bind fun network => (s.storage.find network.configPath).content

/-- The network is saved to the file with the options of devices. -/
def SharesFile (s : Service) : Prop :=
  ∃ network, s.network = some network ∧ s.storage.Together s.storePath network.configPath

/-- What a request leaves as it is. -/
structure Keeps (s : Service) (r : Request) (s' : Service) (response : Response) : Prop where
  sensors : s'.sensors = s.sensors
  network : s'.network = s.network
  storePath : s'.storePath = s.storePath
  sharesFile : s'.SharesFile ↔ s.SharesFile
  service : ¬IsChange r response → s' = s
  deviceBytes : s'.deviceBytes ≠ s.deviceBytes →
    (r.IsDevicePost ∨ r.IsSavePost ∧ s.SharesFile) ∧ response.status = 200
  networkBytes : s'.networkBytes ≠ s.networkBytes →
    (r.IsSavePost ∨ r.IsDevicePost ∧ s.SharesFile) ∧ response.status = 200

theorem Effect.keeps {s s' : Service} {r : Request} {response : Response}
    (h : s.Effect r s' response) : s.Keeps r s' response := by
  cases h with
  | nothing response =>
    exact ⟨rfl, rfl, rfl, Iff.rfl, fun _ => rfl, fun h => absurd rfl h, fun h => absurd rfl h⟩
  | stored response written hpost hstatus hwritable =>
    refine ⟨rfl, rfl, rfl, ?_, fun h => absurd ⟨.inl hpost, hstatus⟩ h,
      fun _ => ⟨.inl hpost, hstatus⟩, fun h => ⟨.inr ⟨hpost, ?_⟩, hstatus⟩⟩
    · simp only [SharesFile, Storage.together_put hwritable]
    · by_contra hapart
      refine h ?_
      unfold Service.networkBytes
      cases hnetwork : s.network with
      | none => simp only [Option.bind_none]
      | some network =>
        exact Storage.content_find_put hwritable written fun h => hapart ⟨network, hnetwork, h⟩
  | saved response network written hpost hstatus hnetwork hwritable =>
    refine ⟨rfl, rfl, rfl, ?_, fun h => absurd ⟨.inr hpost, hstatus⟩ h,
      fun h => ⟨.inr ⟨hpost, ?_⟩, hstatus⟩, fun _ => ⟨.inl hpost, hstatus⟩⟩
    · simp only [SharesFile, Storage.together_put hwritable]
    · by_contra hapart
      exact h (Storage.content_find_put hwritable written fun h => hapart ⟨network, hnetwork, h.symm⟩)

theorem keeps_answer (s : Service) (r : Request) : s.Keeps r (s.answer r).1 (s.answer r).2 :=
  (effect_answer s r).keeps

section

variable {s s' : Service} {r : Request} {response : Response}

theorem answerAll_cons (h : s.answer r = (s', response)) (rest : List Request) :
    s.answerAll (r :: rest) = ((s'.answerAll rest).1, response :: (s'.answerAll rest).2) := by
  rw [answerAll, h]

theorem keeps_of_answer (h : s.answer r = (s', response)) : s.Keeps r s' response := by
  have hkeeps := keeps_answer s r
  rwa [h] at hkeeps

end

/-- Registry and network stay, and so does which files are one. -/
theorem kept_answerAll (s : Service) (requests : List Request) :
    (s.answerAll requests).1.sensors = s.sensors ∧ (s.answerAll requests).1.network = s.network ∧
      (s.answerAll requests).1.storePath = s.storePath ∧
      ((s.answerAll requests).1.SharesFile ↔ s.SharesFile) := by
  induction requests generalizing s with
  | nil => exact ⟨rfl, rfl, rfl, Iff.rfl⟩
  | cons r rest ih =>
    cases hanswer : s.answer r with
    | mk s' response =>
      obtain ⟨hsensors, hnetwork, hpath, hshares⟩ := ih s'
      have hkeeps := keeps_of_answer hanswer
      rw [answerAll_cons hanswer]
      exact ⟨hsensors.trans hkeeps.sensors, hnetwork.trans hkeeps.network,
        hpath.trans hkeeps.storePath, hshares.trans hkeeps.sharesFile⟩

/-- Marked requests that changed nothing can be left out. -/
theorem answerAll_unmarked (s : Service) (marked : List (Request × Bool))
    (h : ∀ e ∈ marked.zip (s.answerAll (marked.map Prod.fst)).2, e.1.2 → ¬IsChange e.1.1 e.2) :
    s.answerAll ((marked.filter fun e => !e.2).map Prod.fst) =
      ((s.answerAll (marked.map Prod.fst)).1,
        ((marked.zip (s.answerAll (marked.map Prod.fst)).2).filter fun e => !e.1.2).map Prod.snd) := by
  induction marked generalizing s with
  | nil => rfl
  | cons m marked ih =>
    obtain ⟨r, leftOut⟩ := m
    cases hanswer : s.answer r with
    | mk s' response =>
      rw [List.map_cons, answerAll_cons hanswer, List.zip_cons_cons] at h ⊢
      obtain ⟨hfirst, hrest⟩ := List.forall_mem_cons.mp h
      have hmore := ih s' hrest
      cases leftOut with
      | true =>
        obtain rfl : s' = s := (keeps_of_answer hanswer).service (hfirst rfl)
        simpa only [List.filter_cons, Bool.not_true, Bool.false_eq_true, if_false] using hmore
      | false =>
        simp only [List.filter_cons, Bool.not_false, if_true, List.map_cons, answerAll_cons hanswer,
          hmore]

/-- The registry and the network never change, and each request keeps what it does not write: only a
POST that is answered 200 writes, and only its own file, unless options and network share one. What
handlers answer tells by its status which fault they met with. Requests that are no successful POSTs
can be left out of a sequence, and the others are answered as before. -/
theorem only_posts_change (s : Service) (requests : List Request) :
    (∀ before r after, requests = before ++ r :: after →
      let now := (s.answerAll before).1
      let response := (now.answer r).2
      now.Keeps r (now.answer r).1 response ∧
        ∀ call, r.call? = some call → ∀ status ≠ 200,
          (response.status = status ↔ ∃ fault, now.Meets call fault ∧ fault.status = status)) ∧
    ((s.answerAll requests).1.sensors = s.sensors ∧ (s.answerAll requests).1.network = s.network ∧
      (s.answerAll requests).1.storePath = s.storePath ∧
      ((s.answerAll requests).1.SharesFile ↔ s.SharesFile)) ∧
    ∀ marked : List (Request × Bool), marked.map Prod.fst = requests →
      (∀ e ∈ marked.zip (s.answerAll requests).2, e.1.2 → ¬IsChange e.1.1 e.2) →
      s.answerAll ((marked.filter fun e => !e.2).map Prod.fst) =
        ((s.answerAll requests).1,
          ((marked.zip (s.answerAll requests).2).filter fun e => !e.1.2).map Prod.snd) := by
  refine ⟨fun before r after _ => ⟨keeps_answer _ r, fun call hcall status hstatus => ?_⟩,
    kept_answerAll s requests, fun marked hmarked => ?_⟩
  · rw [(answer_of_call hcall).2]
    exact status_handle_eq_iff hstatus
  · subst hmarked
    exact answerAll_unmarked s marked

/-- A service whose network is to be saved to the file with the options of devices. -/
def shared : Service where
  storage := Storage.empty.put "hub.json" (.text "\x7b\"light.a\":\x7b\"ignored\":true\x7d\x7d")
  storePath := "hub.json"
  network := some ⟨⟨[], []⟩, "hub.json"⟩
  sensors := .empty

/-- Saving the network is no POST to the options of a device, and still it replaces them. -/
theorem shared_saved :
    let request : Request := ⟨.post, "/api/zwave/saveconfig", [], .empty⟩
    let answer := shared.answer request
    ¬request.IsDevicePost ∧ answer.2.status = 200 ∧ answer.1.deviceBytes ≠ shared.deviceBytes := by
  have hroute : Route.ofTarget? "/api/zwave/saveconfig" = some .saveNetwork := by decide +kernel
  refine ⟨fun ⟨_, written, hdevice⟩ => ?_, by decide +kernel, by decide +kernel⟩
  cases hroute.symm.trans hdevice

end Service

end HomeHub.Http
