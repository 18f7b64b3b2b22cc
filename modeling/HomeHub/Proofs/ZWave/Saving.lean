import HomeHub.Http.Service
import HomeHub.Proofs.Storage.Tree
import HomeHub.Proofs.ZWave.Snapshot

/-!
# Saving and loading a network

A network that was loaded is saved as a text that it can be loaded from again, with everything that it
shows. The text that was loaded first may be another one; saved texts stay as they are.
-/
namespace HomeHub.ZWave

open Json

/-- Networks that cannot be told apart by what they show. -/
structure Network.Agree (n m : Network) : Prop where
  snapshot : n.snapshot = m.snapshot
  node? : ∀ nodeId, n.node? nodeId = m.node? nodeId
  entityValues : n.entityValues = m.entityValues
  views : ∀ (s : Http.Service) (view : Http.NodeView) (nodeId : String),
    { s with network := some n }.nodeView view nodeId =
      { s with network := some m }.nodeView view nodeId

section

variable {file : File} {path : String} {n m : Network}

theorem Network.load_eq_ok_iff :
    Network.load file path = .ok n ↔
      ∃ text, file.read = .ok text ∧ Snapshot.read text = .ok n.snapshot ∧ n.configPath = path := by
  obtain ⟨snapshot, configPath⟩ := n
  unfold Network.load
  cases hfile : file.read with
  | error fault => simp [bind, Except.bind, Except.mapError]
  | ok text =>
    cases hread : Snapshot.read text with
    | error fault => simp [bind, Except.bind, Except.mapError, hread]
    | ok s => simp [bind, Except.bind, Except.mapError, hread, eq_comm]

theorem Network.agree_of_snapshot (h : n.snapshot = m.snapshot) : n.Agree m where
  snapshot := h
  node? nodeId := by rw [Network.node?, Network.node?, h]
  entityValues := by rw [Network.entityValues, Network.entityValues, h]
  views s view nodeId := by
    have hnode (id : UInt8) : n.node? id = m.node? id := by rw [Network.node?, Network.node?, h]
    have hvalues : n.entityValues = m.entityValues := by
      rw [Network.entityValues, Network.entityValues, h]
    simp only [Http.Service.nodeView, Option.bind_some, Option.map_some, hnode, hvalues]

theorem Network.save_of_isWritable (h : file.isWritable) :
    n.save file = .ok (.text n.snapshot.text) := by
  rw [Network.save, File.write_of_isWritable h]
  rfl

/-- A loaded network is saved and loaded again as it was, and then saved as the same text, provided
that its untyped data is read back from what is written for it. -/
theorem Network.load_saved (hload : Network.load file path = .ok n)
    (hrestored : n.snapshot.AllData Json.IsRestored) {s : Storage}
    (hwritable : (s.find n.configPath).isWritable) (path' : String) :
    ∃ saved m, n.save (s.find n.configPath) = .ok saved ∧
      Network.load ((s.put n.configPath saved).find n.configPath) path' = .ok m ∧ n.Agree m ∧
      ∀ target : File, target.isWritable → m.save target = .ok saved := by
  obtain ⟨text, -, hread, -⟩ := Network.load_eq_ok_iff.mp hload
  have hback : Snapshot.read n.snapshot.text = .ok n.snapshot :=
    Snapshot.read_text (Snapshot.isReadable_of_read hread) hrestored
  refine ⟨.text n.snapshot.text, ⟨n.snapshot, path'⟩, Network.save_of_isWritable hwritable, ?_,
    Network.agree_of_snapshot rfl, fun target htarget => Network.save_of_isWritable htarget⟩
  rw [Storage.find_put_self hwritable]
  exact Network.load_eq_ok_iff.mpr ⟨_, rfl, hback, rfl⟩

end

/-- A node with a lock's groups and a parameter; what is missing has its default value. -/
def lockText : String :=
  "\x7b\"nodes\":[\x7b\"node_id\":4,\"command_classes\":[112,37,112],\"values\":[\x7b\"value_id\":9," ++
  "\"node_id\":4,\"command_class\":112,\"genre\":\"config\",\"type\":\"Byte\",\"data\":2.50," ++
  "\"max\":[1,\"high\"],\"unit\":\"s\"\x7d],\"groups\":\x7b\"2\":\x7b\"associations_instances\":" ++
  "[[1,2]]\x7d,\"1\":\x7b\x7d\x7d\x7d]\x7d"

def lockParameter : Value :=
  ⟨9, 4, 112, .config, 0, 0, "", "", "Byte", .number (.real (.ofRatio false 5 2)), .null, .null,
    .array [.ofNat 1, .text "high"], 0⟩

def lockNetwork : Network :=
  ⟨⟨[⟨4, ClassSet.ofList [37, 112], [lockParameter],
    .ofList [(1, ⟨"", [], [], 0⟩), (2, ⟨"", [], [(1, 2)], 0⟩)]⟩], []⟩, "zwcfg.json"⟩

theorem load_lockText : Network.load (.text lockText) "zwcfg.json" = .ok lockNetwork := by
  decide +kernel

theorem isRestored_lockNetwork : lockNetwork.snapshot.AllData Json.IsRestored := by decide +kernel

theorem isWritable_lockNetwork : (Storage.empty.find lockNetwork.configPath).isWritable := by
  decide +kernel

/-- The network of the lock is saved where there is no file yet. -/
theorem lockNetwork_saved :
    Network.load (.text lockText) "zwcfg.json" = .ok lockNetwork ∧
      lockNetwork.snapshot.AllData Json.IsRestored ∧
      (Storage.empty.find lockNetwork.configPath).isWritable ∧
      ∃ saved m, lockNetwork.save (Storage.empty.find lockNetwork.configPath) = .ok saved ∧
        Network.load ((Storage.empty.put lockNetwork.configPath saved).find lockNetwork.configPath)
          "other.json" = .ok m ∧ lockNetwork.Agree m ∧
        ∀ target : File, target.isWritable → m.save target = .ok saved :=
  ⟨load_lockText, isRestored_lockNetwork, isWritable_lockNetwork,
    Network.load_saved load_lockText isRestored_lockNetwork isWritable_lockNetwork "other.json"⟩

end HomeHub.ZWave
