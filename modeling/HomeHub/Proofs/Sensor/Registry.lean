import HomeHub.Proofs.SortedMap
import HomeHub.Sensor.Registry

/-!
# Look-ups and listings of a registry

Of several updates with one entity id the last one published counts.
-/
namespace HomeHub.Registry

theorem get?_publish (r : Registry) (u : SensorUpdate) (id : String) :
    (r.publish u).get? id = if id = u.entityId then some u else r.get? id :=
  SortedMap.get?_insert r.states u.entityId id u

theorem get?_publishAll (r : Registry) (updates : List SensorUpdate) (id : String) :
    (r.publishAll updates).get? id =
      (updates.reverse.find? fun u => id = u.entityId).or (r.get? id) := by
  induction updates generalizing r with
  | nil => rfl
  | cons u rest ih =>
    have hstep : r.publishAll (u :: rest) = (r.publish u).publishAll rest := rfl
    rw [hstep, ih, get?_publish, List.reverse_cons, List.find?_append, Option.or_assoc]
    by_cases hid : id = u.entityId
    · simp [hid]
    · simp [hid]

/-- A registry keyed by the entity ids of its updates lists them in ascending order of those. -/
theorem all_ascending {r : Registry} (h : ∀ id u, r.get? id = some u → u.entityId = id) :
    (r.all.map SensorUpdate.entityId).Pairwise (· < ·) := by
  have hkeys : r.all.map SensorUpdate.entityId = r.states.entries.map Prod.fst := by
    rw [all, SortedMap.values, List.map_map]
    refine List.map_congr_left fun ⟨id, u⟩ hmem => ?_
    exact h id u (SortedMap.mem_entries.mp hmem)
  rw [hkeys, List.pairwise_map]
  exact r.states.inOrder.imp fun hlt => compareOfLessAndEq_eq_lt.mp hlt

theorem mem_all {r : Registry} {u : SensorUpdate} : u ∈ r.all ↔ ∃ id, r.get? id = some u := by
  rw [all, SortedMap.values, List.mem_map]
  constructor
  · rintro ⟨⟨id, _⟩, hmem, rfl⟩
    exact ⟨id, SortedMap.mem_entries.mp hmem⟩
  · rintro ⟨id, hid⟩
    exact ⟨(id, u), SortedMap.mem_entries.mpr hid, rfl⟩

theorem size_eq_length_all (r : Registry) : r.size = r.all.length := by
  simp [size, all, SortedMap.size, SortedMap.values]

end HomeHub.Registry
