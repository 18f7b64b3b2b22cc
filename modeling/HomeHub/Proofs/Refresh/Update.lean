import HomeHub.Refresh.Vigil

/-!
# What one update does

An update selects from the forecast that is held, or from one that it fetches, or it gives up. No
selection changes the forecast or the next run. The sensors stay as they are or each is handed the
reading of its kind, and those that tell of a change are published.
-/
namespace HomeHub

namespace Feed

theorem fetches_fetch (f : Feed) : f.fetch.2.fetches = f.fetches + 1 := by
  unfold fetch
  split <;> rfl

end Feed

namespace Sensor

variable (s : Sensor) (state : Option Reading)

@[simp] theorem client_setState : (s.setState state).1.client = s.client := by
  unfold setState
  split <;> rfl

@[simp] theorem kind_setState : (s.setState state).1.kind = s.kind := by
  unfold setState
  split <;> rfl

@[simp] theorem entityId_setState : (s.setState state).1.entityId = s.entityId := by
  simp [entityId, name]

theorem setState_of_unchanged {s : Sensor} {state : Option Reading} (h : ¬(s.setState state).2) :
    (s.setState state).1 = s := by
  unfold setState at h ⊢
  split
  · rfl
  · rename_i hsame
    simp [hsame] at h

/-- Hands a selection to a sensor, which takes over the reading of its kind. -/
def select (s : Sensor) (selection : List (SensorKind × Option Reading)) : Sensor × Bool :=
  s.setState (selection.lookup s.kind).join

end Sensor

namespace Refresher

theorem sensors_applySelection (selection : List (SensorKind × Option Reading))
    (sensors : List Sensor) :
    (applySelection selection sensors).1 = sensors.map fun s => (s.select selection).1 := by
  simp [applySelection, Sensor.select]

theorem mem_updates_applySelection {selection : List (SensorKind × Option Reading)}
    {sensors : List Sensor} {u : SensorUpdate} :
    u ∈ (applySelection selection sensors).2 ↔
      ∃ s ∈ sensors, (s.select selection).2 ∧ (s.select selection).1.snapshot = u := by
  simp only [applySelection, Sensor.select, List.mem_map, List.mem_filter]
  constructor
  · rintro ⟨_, ⟨⟨s, hs, rfl⟩, hchanged⟩, rfl⟩
    exact ⟨s, hs, hchanged, rfl⟩
  · rintro ⟨s, hs, hchanged, rfl⟩
    exact ⟨_, ⟨⟨s, hs, rfl⟩, hchanged⟩, rfl⟩

theorem needsFetch_iff {r : Refresher} {now : Instant} :
    r.needsFetch now ↔ r.nextRun = none ∨ ∃ t, r.nextRun = some t ∧ t ≤ now := by
  unfold needsFetch
  cases r.nextRun with
  | none => simp
  | some t => simp

/-- The ways in which sensors go through an update, with what is published: they stay as they are, or a
selection is handed to them. -/
inductive Applies (sensors : List Sensor) : List Sensor × List SensorUpdate → Prop
  | nothing : Applies sensors (sensors, [])
  | selection (selection : List (SensorKind × Option Reading)) :
    Applies sensors (applySelection selection sensors)

theorem applies_selectNow (r : Refresher) (document : Forecast.Document) (now : Instant) :
    Applies r.sensors
      ((r.selectNow document now).1.sensors, (r.selectNow document now).2.2) := by
  unfold selectNow
  dsimp only
  split
  · exact .nothing
  · exact .selection _

theorem applies_selectHeld (r : Refresher) (now : Instant) :
    Applies r.sensors ((r.selectHeld now).1.sensors, (r.selectHeld now).2.2) := by
  unfold selectHeld
  split
  · exact .nothing
  · exact r.applies_selectNow _ now

theorem selectNow_eq (r : Refresher) (document : Forecast.Document) (now : Instant) :
    (r.selectNow document now).1 =
      { r with sensors := (r.selectNow document now).1.sensors } := by
  unfold selectNow
  dsimp only
  split <;> rfl

theorem selectHeld_eq (r : Refresher) (now : Instant) :
    (r.selectHeld now).1 = { r with sensors := (r.selectHeld now).1.sensors } := by
  unfold selectHeld
  split
  · rfl
  · exact r.selectNow_eq _ now

theorem document_selectHeld (r : Refresher) (now : Instant) :
    (r.selectHeld now).1.document = r.document := by
  rw [selectHeld_eq]

theorem nextRun_selectHeld (r : Refresher) (now : Instant) :
    (r.selectHeld now).1.nextRun = r.nextRun := by
  rw [selectHeld_eq]

def takeOver (r : Refresher) (document : Forecast.Document) : Refresher :=
  { r with document := some document, nextRun := some document.nextRun }

end Refresher

namespace FedRefresher

def ofSensors (hours : Int) (sensors : List Sensor) (responses : List Response) : FedRefresher :=
  ⟨.ofSensors hours sensors, .ofList responses⟩

def run (r : FedRefresher) (nows : List Instant) : FedRefresher :=
  nows.foldl (fun r now => (r.update now).1) r

inductive Updates (r : FedRefresher) (now : Instant) :
    FedRefresher × RefreshOutcome × List SensorUpdate → Prop
  | held :
    ¬r.refresher.needsFetch now →
      Updates r now (⟨(r.refresher.selectHeld now).1, r.feed⟩, (r.refresher.selectHeld now).2)
  | fetched {document : Forecast.Document} :
    r.refresher.needsFetch now → Refresher.readResponse r.feed.fetch.1 = .ok document →
      Updates r now (⟨((r.refresher.takeOver document).selectHeld now).1, r.feed.fetch.2⟩,
        ((r.refresher.takeOver document).selectHeld now).2)
  | failed {fault : FetchFault} :
    r.refresher.needsFetch now → Refresher.readResponse r.feed.fetch.1 = .error fault →
      Updates r now (⟨(r.refresher.fail now).1, r.feed.fetch.2⟩, (r.refresher.fail now).2, [])

theorem updates_update (r : FedRefresher) (now : Instant) : r.Updates now (r.update now) := by
  cases hn : r.refresher.needsFetch now with
  | false =>
    have hupdate : r.update now =
        (⟨(r.refresher.selectHeld now).1, r.feed⟩, (r.refresher.selectHeld now).2) := by
      simp [update, Refresher.update, hn]
    rw [hupdate]
    exact .held (by simp [hn])
  | true =>
    cases hr : Refresher.readResponse r.feed.fetch.1 with
    | ok document =>
      have hupdate : r.update now =
          (⟨((r.refresher.takeOver document).selectHeld now).1, r.feed.fetch.2⟩,
            ((r.refresher.takeOver document).selectHeld now).2) := by
        simp [update, Refresher.update, hn, hr, Refresher.takeOver]
      rw [hupdate]
      exact .fetched hn hr
    | error fault =>
      have hupdate : r.update now =
          (⟨(r.refresher.fail now).1, r.feed.fetch.2⟩, (r.refresher.fail now).2, []) := by
        simp [update, Refresher.update, hn, hr]
      rw [hupdate]
      exact .failed hn hr

section

variable {r : FedRefresher} {now : Instant}
  {result : FedRefresher × RefreshOutcome × List SensorUpdate}

theorem Updates.applies (h : r.Updates now result) :
    Refresher.Applies r.refresher.sensors (result.1.refresher.sensors, result.2.2) := by
  cases h with
  | held _ => exact r.refresher.applies_selectHeld now
  | @fetched document _ _ => exact (r.refresher.takeOver document).applies_selectHeld now
  | failed _ _ => exact .nothing

theorem Updates.feed_of_needsFetch (h : r.Updates now result) (hn : r.refresher.needsFetch now) :
    result.1.feed = r.feed.fetch.2 := by
  cases h with
  | held hheld => exact absurd hn hheld
  | fetched _ _ => rfl
  | failed _ _ => rfl

theorem Updates.feed_of_not_needsFetch (h : r.Updates now result)
    (hn : ¬r.refresher.needsFetch now) : result.1.feed = r.feed := by
  cases h with
  | held _ => rfl
  | fetched hneeds _ => exact absurd hneeds hn
  | failed hneeds _ => exact absurd hneeds hn

theorem Updates.eq_of_error (h : r.Updates now result) (hn : r.refresher.needsFetch now)
    {fault : FetchFault} (hr : Refresher.readResponse r.feed.fetch.1 = .error fault) :
    result = (⟨(r.refresher.fail now).1, r.feed.fetch.2⟩, (r.refresher.fail now).2, []) := by
  cases h with
  | held hheld => exact absurd hn hheld
  | fetched _ hok =>
    rw [hr] at hok
    cases hok
  | failed _ _ => rfl

/-- An update that ends well holds a forecast, if a refresher that need not fetch does. -/
theorem Updates.document_of_updated (h : r.Updates now result)
    (hheld : ¬r.refresher.needsFetch now → r.refresher.document ≠ none) {changed : Nat}
    (houtcome : result.2.1 = .updated changed) :
    ∃ document, result.1.refresher.document = some document := by
  cases h with
  | held hn =>
    rw [Refresher.document_selectHeld]
    exact Option.ne_none_iff_exists'.mp (hheld hn)
  | @fetched document _ _ =>
    rw [Refresher.document_selectHeld]
    exact ⟨document, rfl⟩
  | failed _ _ =>
    simp only [Refresher.fail] at houtcome
    split at houtcome <;> cases houtcome

end

end FedRefresher

end HomeHub
