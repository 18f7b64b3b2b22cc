import HomeHub.Proofs.Refresh.Selected

/-!
# What is published once more

An update publishes the sensors whose readings differ from those that they held, where the zeros do not
differ and a NaN does from itself. So a second update at the same instant publishes the sensors that hold
a NaN, and no others.
-/
namespace HomeHub

open Reading

/-- Whether a sensor tells of a change when it is given a reading in place of the one that it holds. -/
def Reading.Differs (held given : Option Reading) : Prop :=
  ¬AreZeros held given ∧ (held ≠ given ∨ IsNaN given)

instance (held given : Option Reading) : Decidable (Differs held given) :=
  inferInstanceAs (Decidable (_ ∧ _))

namespace Refresher

theorem changes_eq (reading : SensorKind → Option Reading) (sensors : List Sensor) :
    changes reading sensors = (sensors.filter fun s => Differs s.state (reading s.kind)).map fun s =>
      { s with state := reading s.kind }.snapshot := by
  have hfilter : (sensors.filter fun s => (s.refresh reading).2) =
      sensors.filter fun s => Differs s.state (reading s.kind) := by
    apply List.filter_congr
    intro s _
    rw [Bool.eq_iff_iff, decide_eq_true_iff]
    exact Sensor.changed_setState_iff
  rw [changes, ← hfilter]
  apply List.map_congr_left
  intro s hs
  have hchanged : (s.refresh reading).2 := (List.mem_filter.mp hs).2
  rw [Sensor.refresh, Sensor.setState_of_changed hchanged]

theorem refresh_again (reading : SensorKind → Option Reading) (s : Sensor) :
    ((s.refresh reading).1.refresh reading).1 = (s.refresh reading).1 ∧
      (((s.refresh reading).1.refresh reading).2 ↔ IsNaN (s.refresh reading).1.state) := by
  unfold Sensor.refresh
  rw [Sensor.kind_setState]
  exact s.setState_again (reading s.kind)

/-- Sensors that have their readings keep them, and those with a NaN tell of a change. -/
theorem refreshed_again (reading : SensorKind → Option Reading) (sensors : List Sensor) :
    let after := sensors.map fun s => (s.refresh reading).1
    (after.map fun s => (s.refresh reading).1) = after ∧
      changes reading after = (after.filter fun s => IsNaN s.state).map Sensor.snapshot := by
  intro after
  have hkept : ∀ t ∈ after, (t.refresh reading).1 = t := by
    intro t ht
    obtain ⟨s, -, rfl⟩ := List.mem_map.mp ht
    exact (refresh_again reading s).1
  have hchanged : ∀ t ∈ after, ((t.refresh reading).2 ↔ IsNaN t.state) := by
    intro t ht
    obtain ⟨s, -, rfl⟩ := List.mem_map.mp ht
    exact (refresh_again reading s).2
  have hfilter : (after.filter fun t => (t.refresh reading).2) = after.filter fun t => IsNaN t.state := by
    apply List.filter_congr
    intro t ht
    rw [Bool.eq_iff_iff, decide_eq_true_iff]
    exact hchanged t ht
  constructor
  · rw [List.map_congr_left hkept, List.map_id']
  · rw [changes, hfilter]
    apply List.map_congr_left
    intro t ht
    rw [hkept t (List.mem_filter.mp ht).1]

theorem selectNow_of_settled {r : Refresher} {document : Forecast.Document} {now : Instant}
    (hentry : ∃ entry ∈ document.entries, now < entry.validTo)
    (hkept : (r.sensors.map fun s => (s.refresh (readingAhead r.hours document now)).1) = r.sensors) :
    r.selectNow document now =
      (r, .updated (changes (readingAhead r.hours document now) r.sensors).length,
        changes (readingAhead r.hours document now) r.sensors) := by
  rw [selectNow_of_retained hentry, hkept]

end Refresher

namespace FedRefresher

variable {r : FedRefresher} {now : Instant} {document : Forecast.Document}

/-- The next update selects from the same forecast for the same target, if it does not fetch. -/
theorem Selects.again (h : r.Selects now document)
    (hn : ¬(r.update now).1.refresher.needsFetch now) :
    (r.update now).1.refresher.hours = r.refresher.hours ∧
      (r.update now).1.update now =
        (⟨((r.update now).1.refresher.selectNow document now).1, (r.update now).1.feed⟩,
          ((r.update now).1.refresher.selectNow document now).2) := by
  obtain ⟨before, hhours, -, hdocument, hupdate, -⟩ := h.update_eq
  rw [Refresher.selectNow_eq] at hupdate
  constructor
  · rw [hupdate]
    exact hhours
  · apply update_of_held hn
    rw [hupdate]
    exact hdocument

/-- An update that selects from a forecast publishes the sensors whose readings differ from those they
held. When a second update at the same instant does not fetch, it changes nothing but publishes each
sensor that holds a NaN, as long as any entry of the forecast is not over. -/
theorem update_publishes_differing (h : r.Selects now document) :
    let reading := Refresher.readingAhead r.refresher.hours document now
    let before := r.refresher.sensors
    let after := (r.update now).1
    let again := after.update now
    ((∃ entry ∈ document.entries, now < entry.validTo) →
      (r.update now).2.2 = (before.filter fun s => Differs s.state (reading s.kind)).map fun s =>
        { s with state := reading s.kind }.snapshot) ∧
    (¬after.refresher.needsFetch now →
      again.1 = after ∧ again.2.1 = .updated again.2.2.length ∧
      ((∃ entry ∈ document.entries, now < entry.validTo) → again.2.2 =
        (after.refresher.sensors.filter fun s => IsNaN s.state).map Sensor.snapshot) ∧
      ((∀ entry ∈ document.entries, entry.validTo ≤ now) → again.2.2 = [])) := by
  intro reading before after again
  constructor
  · intro hentry
    rw [(h.of_retained hentry).2.1]
    exact Refresher.changes_eq reading before
  · intro hn
    obtain ⟨hhours, hagain⟩ : after.refresher.hours = r.refresher.hours ∧ again = _ := h.again hn
    by_cases hentry : ∃ entry ∈ document.entries, now < entry.validTo
    · obtain ⟨hkept, hchanges⟩ := Refresher.refreshed_again reading before
      rw [← (h.of_retained hentry).1] at hkept hchanges
      have hsettled := Refresher.selectNow_of_settled (r := after.refresher) hentry
        (by rw [hhours]; exact hkept)
      rw [hhours] at hsettled
      rw [hagain, hsettled]
      refine ⟨rfl, rfl, fun _ => hchanges, fun hover => ?_⟩
      obtain ⟨entry, hmem, hnow⟩ := hentry
      exact absurd hnow (Instant.not_lt.mpr (hover entry hmem))
    · have hover : ∀ entry ∈ document.entries, entry.validTo ≤ now := fun entry hmem =>
        Instant.not_lt.mp fun hnow => hentry ⟨entry, hmem, hnow⟩
      have hresult := Refresher.selectNow_of_over (r := after.refresher) hover
      rw [hagain, hresult]
      exact ⟨rfl, rfl, fun hsome => absurd hsome hentry, fun _ => rfl⟩

end FedRefresher

/-- The sensors of the wind are published again, and that of fog is not. -/
theorem hillSensors_published_again :
    hillSensors.Selects (.ofSecond 0) calmDocument ∧
    ¬(hillSensors.update (.ofSecond 0)).1.refresher.needsFetch (.ofSecond 0) ∧
    ((hillSensors.update (.ofSecond 0)).1.update (.ofSecond 0)).2.2 = [stillAir, stillAir] := by
  have hn : ¬(hillSensors.update (.ofSecond 0)).1.refresher.needsFetch (.ofSecond 0) := by
    rw [update_hillSensors]
    decide +kernel
  have hagain := (FedRefresher.update_publishes_differing hillSensors_selects).2 hn
  refine ⟨hillSensors_selects, hn, ?_⟩
  rw [hagain.2.2.1 calm_retained, update_hillSensors]
  decide +kernel

/-- The second update publishes sensors that hold what they held before. -/
theorem stillAir_published_unchanged :
    let after := (hillSensors.update (.ofSecond 0)).1
    let again := after.update (.ofSecond 0)
    ¬after.refresher.needsFetch (.ofSecond 0) ∧ again.1.refresher.sensors = after.refresher.sensors ∧
      again.2.2 = [stillAir, stillAir] ∧ again.2.1 = .updated 2 := by
  rw [update_hillSensors]
  decide +kernel

end HomeHub
