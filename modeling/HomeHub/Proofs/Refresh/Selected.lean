import HomeHub.Proofs.Forecast.Nearest
import HomeHub.Proofs.Refresh.PublishedText
import HomeHub.Proofs.Sensor.Change

/-!
# What an update selects

An update that has a forecast hands each sensor the reading of its kind, which no other sensor has a part
in, unless all entries of the forecast are over. It publishes what tells of a change, in sensor order.
-/
namespace HomeHub

namespace Forecast

theorem lookup_select {document : Document} {now target : Instant} {kinds : List SensorKind}
    {kind : SensorKind} (hrank : rank document now target ≠ []) (hkind : kind ∈ kinds) :
    (select document now target kinds).lookup kind =
      some (selectReading (rank document now target) kind) := by
  have hmem : kind ∈ SensorKind.all.filter kinds.contains :=
    List.mem_filter.mpr ⟨SensorKind.mem_all kind, List.contains_iff_mem.mpr hkind⟩
  have hempty : ¬(rank document now target).isEmpty := by simpa using hrank
  simp only [select, if_neg hempty]
  exact List.lookup_graph _ hmem

theorem rank_ne_nil {document : Document} {now : Instant} (target : Instant)
    (h : ∃ entry ∈ document.entries, now < entry.validTo) : rank document now target ≠ [] := by
  obtain ⟨entry, hentry, hnow⟩ := h
  intro hnil
  exact Instant.not_lt.mpr (rank_eq_nil_iff.mp hnil entry hentry) hnow

end Forecast

def Sensor.refresh (reading : SensorKind → Option Reading) (s : Sensor) : Sensor × Bool :=
  s.setState (reading s.kind)

namespace Refresher

variable {reading : SensorKind → Option Reading}

/-- The updates of the sensors that tell of a change, in their order. -/
def changes (reading : SensorKind → Option Reading) (sensors : List Sensor) : List SensorUpdate :=
  (sensors.filter fun s => (s.refresh reading).2).map fun s => (s.refresh reading).1.snapshot

theorem applySelection_eq {selection : List (SensorKind × Option Reading)} {sensors : List Sensor}
    (h : ∀ s ∈ sensors, (selection.lookup s.kind).join = reading s.kind) :
    applySelection selection sensors =
      (sensors.map fun s => (s.refresh reading).1, changes reading sensors) := by
  have hresults : (sensors.map fun s => s.setState (selection.lookup s.kind).join) =
      sensors.map fun s => s.refresh reading := by
    apply List.map_congr_left
    intro s hs
    rw [h s hs]
    rfl
  simp only [applySelection, hresults, List.map_map, List.filter_map]
  rfl

/-- What sensors read from a forecast for the instant so many hours from now. -/
def readingAhead (hours : Int) (document : Forecast.Document) (now : Instant) :
    SensorKind → Option Reading :=
  Forecast.selectReading (Forecast.rank document now (Forecast.targetInstant hours now))

variable {r : Refresher} {document : Forecast.Document} {now : Instant}

theorem selectNow_of_nil
    (h : Forecast.selectAhead r.hours document now (r.sensors.map Sensor.kind) = []) :
    r.selectNow document now = (r, .updated 0, []) := by
  rw [selectNow, h]
  rfl

theorem selectNow_of_over (h : ∀ entry ∈ document.entries, entry.validTo ≤ now) :
    r.selectNow document now = (r, .updated 0, []) := by
  apply selectNow_of_nil
  exact Forecast.select_eq_nil_iff.mpr (Or.inr (Forecast.rank_eq_nil_iff.mpr h))

theorem selectNow_of_retained (h : ∃ entry ∈ document.entries, now < entry.validTo) :
    let reading := readingAhead r.hours document now
    r.selectNow document now =
      ({ r with sensors := r.sensors.map fun s => (s.refresh reading).1 },
        .updated (changes reading r.sensors).length, changes reading r.sensors) := by
  intro reading
  have hrank := Forecast.rank_ne_nil (Forecast.targetInstant r.hours now) h
  by_cases hnone : r.sensors = []
  · have hselection : Forecast.selectAhead r.hours document now (r.sensors.map Sensor.kind) = [] :=
      Forecast.select_eq_nil_iff.mpr (Or.inl (by simp [hnone]))
    have hsame : { r with sensors := [] } = r := by rw [← hnone]
    rw [selectNow_of_nil hselection]
    simp only [changes, hnone, List.map_nil, List.filter_nil, List.length_nil, hsame]
  · have hselection :
        ¬(Forecast.selectAhead r.hours document now (r.sensors.map Sensor.kind)).isEmpty := by
      simp [Forecast.selectAhead, Forecast.select_eq_nil_iff, hnone, hrank]
    have hlookup : ∀ s ∈ r.sensors, ((Forecast.selectAhead r.hours document now
        (r.sensors.map Sensor.kind)).lookup s.kind).join = reading s.kind := by
      intro s hs
      rw [Forecast.selectAhead, Forecast.lookup_select hrank (List.mem_map_of_mem hs)]
      rfl
    simp only [selectNow, if_neg hselection, applySelection_eq hlookup]

end Refresher

namespace FedRefresher

/-- The forecast that an update selects from, the one it holds or the one it fetches. -/
inductive Selects (r : FedRefresher) (now : Instant) (document : Forecast.Document) : Prop
  | held : ¬r.refresher.needsFetch now → r.refresher.document = some document → Selects r now document
  | fetched :
    r.refresher.needsFetch now → Refresher.readResponse r.feed.fetch.1 = .ok document →
      Selects r now document

variable {r : FedRefresher} {now : Instant} {document : Forecast.Document}

theorem update_of_held (hn : ¬r.refresher.needsFetch now)
    (hdocument : r.refresher.document = some document) :
    r.update now = (⟨(r.refresher.selectNow document now).1, r.feed⟩,
      (r.refresher.selectNow document now).2) := by
  have hupdates := r.updates_update now
  generalize r.update now = result at hupdates ⊢
  cases hupdates with
  | held _ => simp [Refresher.selectHeld, hdocument]
  | fetched hneeds _ => exact absurd hneeds hn
  | failed hneeds _ => exact absurd hneeds hn

theorem update_of_fetched (hn : r.refresher.needsFetch now)
    (hread : Refresher.readResponse r.feed.fetch.1 = .ok document) :
    r.update now = (⟨((r.refresher.takeOver document).selectNow document now).1, r.feed.fetch.2⟩,
      ((r.refresher.takeOver document).selectNow document now).2) := by
  have hupdates := r.updates_update now
  generalize r.update now = result at hupdates ⊢
  cases hupdates with
  | held hheld => exact absurd hn hheld
  | fetched _ hok =>
    obtain rfl := Except.ok.inj (hread.symm.trans hok)
    rfl
  | failed _ herror =>
    rw [hread] at herror
    cases herror

/-- An update that selects does so on the sensors that it finds. -/
theorem Selects.update_eq (h : r.Selects now document) : ∃ before : Refresher,
    before.hours = r.refresher.hours ∧ before.sensors = r.refresher.sensors ∧
      before.document = some document ∧
      (r.update now).1.refresher = (before.selectNow document now).1 ∧
      (r.update now).2 = (before.selectNow document now).2 := by
  cases h with
  | held hn hdocument =>
    rw [update_of_held hn hdocument]
    exact ⟨r.refresher, rfl, rfl, hdocument, rfl, rfl⟩
  | fetched hn hread =>
    rw [update_of_fetched hn hread]
    exact ⟨r.refresher.takeOver document, rfl, rfl, rfl, rfl, rfl⟩

theorem Selects.of_retained (h : r.Selects now document)
    (hentry : ∃ entry ∈ document.entries, now < entry.validTo) :
    let reading := Refresher.readingAhead r.refresher.hours document now
    (r.update now).1.refresher.sensors =
        r.refresher.sensors.map (fun s => (s.refresh reading).1) ∧
      (r.update now).2.2 = Refresher.changes reading r.refresher.sensors ∧
      (r.update now).2.1 = .updated (r.update now).2.2.length := by
  obtain ⟨before, hhours, hsensors, -, hupdate, hrest⟩ := h.update_eq
  have hresult := Refresher.selectNow_of_retained (r := before) hentry
  rw [hhours, hsensors] at hresult
  rw [hupdate, hrest, hresult]
  exact ⟨rfl, rfl, rfl⟩

theorem Selects.of_over (h : r.Selects now document)
    (hover : ∀ entry ∈ document.entries, entry.validTo ≤ now) :
    (r.update now).1.refresher.sensors = r.refresher.sensors ∧
      (r.update now).2.2 = [] ∧ (r.update now).2.1 = .updated 0 := by
  obtain ⟨before, -, hsensors, -, hupdate, hrest⟩ := h.update_eq
  have hresult := Refresher.selectNow_of_over (r := before) hover
  rw [hupdate, hrest, hresult]
  exact ⟨hsensors, rfl, rfl⟩

/-- An update that selects from a forecast hands each sensor the reading that a selection for the target
has for its kind, whatever else is asked for. It publishes the sensors that tell of a change, as they are
then and in their order, and counts them. What becomes of a sensor depends on no other. If all entries
are over nothing happens. -/
theorem update_selected (h : r.Selects now document) :
    let target := Forecast.targetInstant r.refresher.hours now
    let reading := Forecast.selectReading (Forecast.rank document now target)
    let before := r.refresher.sensors
    let after := (r.update now).1.refresher.sensors
    let outcome := (r.update now).2.1
    let updates := (r.update now).2.2
    ((∃ entry ∈ document.entries, now < entry.validTo) →
      (after = before.map fun s => (s.setState (reading s.kind)).1) ∧
      (updates = (before.filter fun s => (s.setState (reading s.kind)).2).map fun s =>
        (s.setState (reading s.kind)).1.snapshot) ∧
      outcome = .updated updates.length ∧
      (∀ s ∈ before,
        (∀ kinds, s.kind ∈ kinds → (Forecast.select document now target kinds).lookup s.kind =
          some (reading s.kind)) ∧
        Forecast.IsReading document now target s.kind (reading s.kind) ∧
        (s.setState (reading s.kind)).1.client = s.client ∧
        (s.setState (reading s.kind)).1.kind = s.kind ∧
        ((s.setState (reading s.kind)).1.state = reading s.kind ∨
          ((s.setState (reading s.kind)).1 = s ∧ Reading.AreZeros s.state (reading s.kind)))) ∧
      ∀ other : FedRefresher, other.Selects now document →
        other.refresher.hours = r.refresher.hours → ∀ i j : Nat,
        before[i]? = other.refresher.sensors[j]? →
          after[i]? = (other.update now).1.refresher.sensors[j]?) ∧
    ((∀ entry ∈ document.entries, entry.validTo ≤ now) →
      after = before ∧ updates = [] ∧ outcome = .updated 0) := by
  intro target reading before after outcome updates
  refine ⟨fun hentry => ?_, h.of_over⟩
  have hrank := Forecast.rank_ne_nil target hentry
  obtain ⟨hafter, hupdates, houtcome⟩ := h.of_retained hentry
  refine ⟨hafter, hupdates, houtcome, ?_, ?_⟩
  · intro s _
    exact ⟨fun kinds hkind => Forecast.lookup_select hrank hkind,
      Forecast.isReading_selectReading document now target s.kind, s.client_setState _,
      s.kind_setState _, s.state_setState _⟩
  · intro other hother hhours i j hij
    have hleft : after = before.map fun s => (s.refresh reading).1 := hafter
    have hright := (hother.of_retained hentry).1
    rw [hhours] at hright
    rw [hleft, hright, List.getElem?_map, List.getElem?_map, hij]
    rfl

end FedRefresher

/-- What a forecast of wind that blows from nowhere is read as. -/
def calmDocument : Forecast.Document :=
  ⟨.ofSecond 21600, [⟨.ofSecond 0, .ofSecond 3600,
    .ofList [("windDirection", .ofList [("deg", "NaN")])]⟩]⟩

theorem read_calm : Refresher.readResponse (windForecast "NaN") = .ok calmDocument := by
  decide +kernel

/-- Two sensors of the wind and one of fog, which has a reading of another forecast. -/
def hillSensors : FedRefresher :=
  .ofSensors 0 [windSensor none, ⟨"yr", .fog, some (.text "3")⟩, windSensor none] [windForecast "NaN"]

theorem hillSensors_selects : hillSensors.Selects (.ofSecond 0) calmDocument := .fetched rfl read_calm

theorem update_hillSensors : hillSensors.update (.ofSecond 0) =
    (⟨((hillSensors.refresher.takeOver calmDocument).selectNow calmDocument (.ofSecond 0)).1,
      hillSensors.feed.fetch.2⟩,
      ((hillSensors.refresher.takeOver calmDocument).selectNow calmDocument (.ofSecond 0)).2) :=
  FedRefresher.update_of_fetched rfl read_calm

theorem calm_retained : ∃ entry ∈ calmDocument.entries, Instant.ofSecond 0 < entry.validTo := by
  decide +kernel

/-- The sensor of fog is left with no reading. -/
theorem hillSensors_selected :
    hillSensors.Selects (.ofSecond 0) calmDocument ∧
    (∃ entry ∈ calmDocument.entries, Instant.ofSecond 0 < entry.validTo) ∧
    (hillSensors.update (.ofSecond 0)).2.1 = .updated 3 ∧
    ∀ s ∈ (hillSensors.update (.ofSecond 0)).1.refresher.sensors, s.kind = .fog → s.state = none := by
  obtain ⟨hafter, hupdates, houtcome, -⟩ :=
    (FedRefresher.update_selected hillSensors_selects).1 calm_retained
  refine ⟨hillSensors_selects, calm_retained, ?_, ?_⟩
  · rw [houtcome, hupdates]
    decide +kernel
  · rw [hafter]
    decide +kernel

end HomeHub
