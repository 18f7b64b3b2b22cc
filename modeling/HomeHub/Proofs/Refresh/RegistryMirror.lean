import HomeHub.Proofs.Refresh.Update
import HomeHub.Proofs.Sensor.EntityId
import HomeHub.Proofs.Sensor.Registry

/-!
# The registry mirrors the sensors

Of the sensors of one client, those of one kind are always equal, and what was published last under an
entity id is the snapshot of its sensors, in whatever order the updates arrive.
-/
namespace HomeHub

namespace Refresher

section

variable {selection : List (SensorKind × Option Reading)} {sensors : List Sensor}
  {order : List SensorUpdate}

/-- A sensor with an entity id that is published is published with its snapshot. -/
theorem snapshot_of_find? (horder : order.Perm (applySelection selection sensors).2) {id : String}
    {u : SensorUpdate} (hfind : order.reverse.find? (fun u => id = u.entityId) = some u) :
    ∃ s ∈ sensors, s.entityId = id ∧ u = (s.select selection).1.snapshot := by
  have hmem : u ∈ order := List.mem_reverse.mp (List.mem_of_find?_eq_some hfind)
  have hid : id = u.entityId := by simpa using List.find?_some hfind
  obtain ⟨s, hs, -, rfl⟩ := mem_updates_applySelection.mp (horder.mem_iff.mp hmem)
  refine ⟨s, hs, ?_, rfl⟩
  rw [hid]
  simp [Sensor.snapshot, Sensor.select]

/-- A sensor whose entity id is not published has not changed. -/
theorem select_of_find?_none (horder : order.Perm (applySelection selection sensors).2)
    {s : Sensor} (hs : s ∈ sensors)
    (hfind : order.reverse.find? (fun u => s.entityId = u.entityId) = none) :
    (s.select selection).1 = s := by
  refine Sensor.setState_of_unchanged fun hchanged => ?_
  have hmem : (s.select selection).1.snapshot ∈ order :=
    horder.mem_iff.mpr (mem_updates_applySelection.mpr ⟨s, hs, hchanged, rfl⟩)
  have hnot := List.find?_eq_none.mp hfind _ (List.mem_reverse.mpr hmem)
  simp [Sensor.snapshot, Sensor.select] at hnot

end

end Refresher

/-- A refresher and its registry after some updates. What one update publishes reaches the registry in
any order. -/
inductive Published (start : FedRefresher) : FedRefresher → Registry → Prop
  | start : Published start start .empty
  | update {r : FedRefresher} {registry : Registry} {now : Instant} {order : List SensorUpdate} :
    Published start r registry → order.Perm (r.update now).2.2 →
      Published start (r.update now).1 (registry.publishAll order)

structure Mirrors (client : String) (kinds : List SensorKind) (sensors : List Sensor)
    (registry : Registry) : Prop where
  client : ∀ s ∈ sensors, s.client = client
  kinds : sensors.map Sensor.kind = kinds
  sameKind : ∀ s ∈ sensors, ∀ t ∈ sensors, s.kind = t.kind → s = t
  held : ∀ s ∈ sensors, registry.get? s.entityId = some s.snapshot ∨
    (registry.get? s.entityId = none ∧ s.state = none)
  noOther : ∀ id, registry.get? id ≠ none → ∃ s ∈ sensors, s.entityId = id

namespace Mirrors

variable {client : String} {kinds : List SensorKind} {sensors : List Sensor} {registry : Registry}
  {order : List SensorUpdate}

theorem ofKinds (client : String) (kinds : List SensorKind) :
    Mirrors client kinds (kinds.map (Sensor.ofKind client)) .empty where
  client := by simp [Sensor.ofKind]
  kinds := by simp [Sensor.ofKind, Function.comp_def]
  sameKind := by simp [Sensor.ofKind]
  held := by simp [Sensor.ofKind, Registry.get?, Registry.empty]
  noOther := by simp [Registry.get?, Registry.empty]

theorem eq_of_entityId_eq (h : Mirrors client kinds sensors registry) {s t : Sensor}
    (hs : s ∈ sensors) (ht : t ∈ sensors) (hid : s.entityId = t.entityId) : s = t := by
  have hclient : s.client = t.client := by rw [h.client s hs, h.client t ht]
  exact h.sameKind s hs t ht ((Sensor.entityId_eq_iff hclient).mp hid)

/-- Handing out a selection and publishing what changed, in any order, keeps the mirror. -/
theorem applySelection (h : Mirrors client kinds sensors registry)
    {selection : List (SensorKind × Option Reading)}
    (horder : order.Perm (Refresher.applySelection selection sensors).2) :
    Mirrors client kinds (Refresher.applySelection selection sensors).1
      (registry.publishAll order) := by
  rw [Refresher.sensors_applySelection]
  constructor
  case client =>
    intro t ht
    obtain ⟨s, hs, rfl⟩ := List.mem_map.mp ht
    simp [Sensor.select, h.client s hs]
  case kinds =>
    rw [← h.kinds]
    simp [Sensor.select, Function.comp_def]
  case sameKind =>
    intro t ht t' ht' hkind
    obtain ⟨s, hs, rfl⟩ := List.mem_map.mp ht
    obtain ⟨s', hs', rfl⟩ := List.mem_map.mp ht'
    have hsame : s = s' := h.sameKind s hs s' hs' (by simpa [Sensor.select] using hkind)
    rw [hsame]
  case held =>
    intro t ht
    obtain ⟨s, hs, rfl⟩ := List.mem_map.mp ht
    have hid : (s.select selection).1.entityId = s.entityId := by simp [Sensor.select]
    rw [hid, Registry.get?_publishAll]
    cases hfind : order.reverse.find? (fun u => s.entityId = u.entityId) with
    | some u =>
      obtain ⟨s', hs', hid', rfl⟩ := Refresher.snapshot_of_find? horder hfind
      have hsame : s' = s := h.eq_of_entityId_eq hs' hs hid'
      exact .inl (by rw [hsame, Option.some_or])
    | none =>
      rw [Refresher.select_of_find?_none horder hs hfind, Option.none_or]
      exact h.held s hs
  case noOther =>
    intro id hid
    rw [Registry.get?_publishAll] at hid
    have hsensor : ∃ s ∈ sensors, s.entityId = id := by
      cases hfind : order.reverse.find? (fun u => id = u.entityId) with
      | some u =>
        obtain ⟨s, hs, hs', -⟩ := Refresher.snapshot_of_find? horder hfind
        exact ⟨s, hs, hs'⟩
      | none =>
        rw [hfind, Option.none_or] at hid
        exact h.noOther id hid
    obtain ⟨s, hs, rfl⟩ := hsensor
    exact ⟨_, List.mem_map_of_mem hs, by simp [Sensor.select]⟩

theorem applies (h : Mirrors client kinds sensors registry)
    {result : List Sensor × List SensorUpdate} (happlies : Refresher.Applies sensors result)
    (horder : order.Perm result.2) : Mirrors client kinds result.1 (registry.publishAll order) := by
  cases happlies with
  | nothing =>
    rw [List.Perm.eq_nil horder]
    exact h
  | selection selection => exact h.applySelection horder

theorem published (hours : Int) (responses : List Response) {r : FedRefresher}
    (h : Published (.ofSensors hours (kinds.map (Sensor.ofKind client)) responses) r registry) :
    Mirrors client kinds r.refresher.sensors registry := by
  induction h with
  | start => exact ofKinds client kinds
  | @update r _ now _ _ horder ih => exact ih.applies (r.updates_update now).applies horder

theorem get?_eq_some_iff (h : Mirrors client kinds sensors registry) {id : String}
    {u : SensorUpdate} : registry.get? id = some u ↔
      ∃ s ∈ sensors, s.entityId = id ∧ s.snapshot = u ∧ registry.get? s.entityId = some s.snapshot := by
  constructor
  · intro hget
    obtain ⟨s, hs, rfl⟩ := h.noOther id (by simp [hget])
    rcases h.held s hs with hheld | ⟨hnone, -⟩
    · have hsnapshot : s.snapshot = u := Option.some.inj (hheld.symm.trans hget)
      exact ⟨s, hs, rfl, hsnapshot, hheld⟩
    · rw [hnone] at hget
      cases hget
  · rintro ⟨s, hs, rfl, rfl, hheld⟩
    exact hheld

end Mirrors

/-- After any updates of the sensors that one client has for some kinds, the registry holds each
sensor's snapshot under its entity id, or nothing there if the sensor has no reading, and it holds no
other ids. It lists what it holds in ascending order of the ids. -/
theorem registry_mirrors_sensors (client : String) (hours : Int) (kinds : List SensorKind)
    (responses : List Response) {r : FedRefresher} {registry : Registry}
    (h : Published (.ofSensors hours (kinds.map (Sensor.ofKind client)) responses) r registry) :
    let sensors := r.refresher.sensors
    ((∀ s ∈ sensors, s.client = client) ∧ sensors.map Sensor.kind = kinds) ∧
    (∀ s ∈ sensors, registry.get? s.entityId = some s.snapshot ∨
      (registry.get? s.entityId = none ∧ s.state = none)) ∧
    (∀ id, registry.get? id ≠ none → ∃ s ∈ sensors, s.entityId = id) ∧
    (∀ u, u ∈ registry.all ↔
      ∃ s ∈ sensors, s.snapshot = u ∧ registry.get? s.entityId = some s.snapshot) ∧
    (registry.all.map SensorUpdate.entityId).Pairwise (· < ·) ∧
    registry.size = registry.all.length := by
  intro sensors
  have hmirror : Mirrors client kinds sensors registry := .published hours responses h
  refine ⟨⟨hmirror.client, hmirror.kinds⟩, hmirror.held, hmirror.noOther, fun u => ?_, ?_,
    registry.size_eq_length_all⟩
  · rw [Registry.mem_all]
    constructor
    · rintro ⟨id, hget⟩
      obtain ⟨s, hs, -, hsnapshot, hheld⟩ := hmirror.get?_eq_some_iff.mp hget
      exact ⟨s, hs, hsnapshot, hheld⟩
    · rintro ⟨s, -, rfl, hheld⟩
      exact ⟨s.entityId, hheld⟩
  · refine Registry.all_ascending fun id u hget => ?_
    obtain ⟨s, -, hid, rfl, -⟩ := hmirror.get?_eq_some_iff.mp hget
    exact hid

/-- Two sensors of fog and one of humidity, before their only forecast, which is of fog alone. -/
def fogSensors : FedRefresher :=
  .ofSensors 0 ([.fog, .humidity, .fog].map (Sensor.ofKind "yr"))
    [.ok "<weatherdata><meta><model nextrun='1970-01-01T06:00:00Z'/></meta><product>
<time from='1970-01-01T00:00:00Z' to='1970-01-01T01:00:00Z'>
<location><fog percent='3'/></location></time></product></weatherdata>"]

/-- The registry after their first update, with what was published in reversed order. -/
def fogRegistry : Registry :=
  Registry.empty.publishAll (fogSensors.update (.ofSecond 0)).2.2.reverse

/-- The sensors of fog have one entry between them, and that of humidity has none. -/
theorem fogRegistry_mirrors :
    Published fogSensors (fogSensors.update (.ofSecond 0)).1 fogRegistry ∧
    fogRegistry.all.map SensorUpdate.entityId = ["sensor.yr_fog"] ∧
    ∀ s ∈ (fogSensors.update (.ofSecond 0)).1.refresher.sensors,
      fogRegistry.get? s.entityId = some s.snapshot ∨
        (fogRegistry.get? s.entityId = none ∧ s.state = none) := by
  have hrun : Published fogSensors (fogSensors.update (.ofSecond 0)).1 fogRegistry :=
    .update .start (List.reverse_perm _)
  exact ⟨hrun, by decide +kernel,
    (registry_mirrors_sensors "yr" 0 [.fog, .humidity, .fog] _ hrun).2.1⟩

end HomeHub
