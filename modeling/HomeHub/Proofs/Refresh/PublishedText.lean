import HomeHub.Proofs.Forecast.Nearest
import HomeHub.Proofs.Refresh.Update
import HomeHub.Proofs.Sensor.UpdateText

/-!
# Published updates as JSON

What a refresher publishes holds what the kind of the sensor extracts from a variable. Only the direction
of the wind is extracted as a number, so all other updates are read back as they are.
-/
namespace HomeHub

def IsExtracted (k : SensorKind) (reading : Reading) : Prop := ∃ v, k.extract v = some reading

theorem exists_text_of_isExtracted {k : SensorKind} {reading : Reading} (h : IsExtracted k reading)
    (hk : k ≠ .windDirection) : ∃ s, reading = .text s := by
  obtain ⟨v, hv⟩ := h
  have hwritten : k.profile.extraction = .asWritten := by
    cases k <;> first | rfl | exact absurd rfl hk
  unfold SensorKind.extract at hv
  rw [hwritten] at hv
  split at hv
  · cases hv
  · exact ⟨_, (Option.some.inj hv).symm⟩
  · contradiction

theorem isExtracted_of_lookup {hours : Int} {document : Forecast.Document} {now : Instant}
    {kinds : List SensorKind} {k : SensorKind} {reading : Reading}
    (h : ((Forecast.selectAhead hours document now kinds).lookup k).join = some reading) :
    IsExtracted k reading := by
  have hlookup : (Forecast.selectAhead hours document now kinds).lookup k = some (some reading) := by
    simpa [Option.join_eq_some_iff] using h
  have hmem : (k, some reading) ∈ Forecast.selectAhead hours document now kinds := by
    obtain ⟨before, after, hsplit, -⟩ := List.lookup_eq_some_iff.mp hlookup
    rw [hsplit]
    simp
  have hselected := Forecast.mem_select hmem
  obtain ⟨v, -, hv⟩ := Option.bind_eq_some_iff.mp hselected.symm
  exact ⟨v, hv⟩

namespace Sensor

variable {s : Sensor} {state : Option Reading}

theorem setState_of_changed (h : (s.setState state).2) : (s.setState state).1 = { s with state } := by
  unfold setState at h ⊢
  split
  · rename_i hsame
    simp [hsame] at h
  · rfl

end Sensor

namespace Refresher

variable {r : Refresher} {now : Instant} {u : SensorUpdate} {reading : Reading}

theorem isExtracted_of_mem_selectNow {document : Forecast.Document}
    (hu : u ∈ (r.selectNow document now).2.2) (hstate : u.state = some reading) :
    IsExtracted u.kind reading := by
  unfold selectNow at hu
  dsimp only at hu
  split at hu
  · cases hu
  · obtain ⟨s, -, hchanged, rfl⟩ := mem_updates_applySelection.mp hu
    have hselected :
        (s.select (Forecast.selectAhead r.hours document now (r.sensors.map Sensor.kind))).1 =
          { s with state := ((Forecast.selectAhead r.hours document now
            (r.sensors.map Sensor.kind)).lookup s.kind).join } := Sensor.setState_of_changed hchanged
    rw [hselected] at hstate ⊢
    exact isExtracted_of_lookup hstate

theorem isExtracted_of_mem_selectHeld (hu : u ∈ (r.selectHeld now).2.2)
    (hstate : u.state = some reading) : IsExtracted u.kind reading := by
  unfold selectHeld at hu
  split at hu
  · cases hu
  · exact isExtracted_of_mem_selectNow hu hstate

end Refresher

namespace FedRefresher

variable {r : FedRefresher} {now : Instant} {u : SensorUpdate} {reading : Reading}

theorem isExtracted_of_mem_update (hu : u ∈ (r.update now).2.2) (hstate : u.state = some reading) :
    IsExtracted u.kind reading := by
  have hupdates := r.updates_update now
  generalize r.update now = result at hu hupdates
  cases hupdates with
  | held _ => exact Refresher.isExtracted_of_mem_selectHeld hu hstate
  | fetched _ _ => exact Refresher.isExtracted_of_mem_selectHeld hu hstate
  | failed _ _ => cases hu

/-- What is published in a run is read back with everything but its state as it was. The state is read
back as well, but for directions of the wind: those are read as their numerals are, or lost. -/
theorem read_published {hours : Int} {sensors : List Sensor} {responses : List Response}
    {nows : List Instant}
    (hu : u ∈ (((ofSensors hours sensors responses).run nows).update now).2.2) :
    (∀ state, ReadAs u.state state →
      SensorUpdate.read u.toJson.compact = .ok { u with state }) ∧
    (u.kind ≠ .windDirection → SensorUpdate.read u.toJson.compact = .ok u) := by
  refine ⟨fun state => SensorUpdate.read_compact, fun hk => SensorUpdate.read_compact ?_⟩
  cases hstate : u.state with
  | none => exact .nothing
  | some reading =>
    obtain ⟨s, rfl⟩ := exists_text_of_isExtracted (isExtracted_of_mem_update hu hstate) hk
    exact .text s

end FedRefresher

/-- A forecast of nothing but the direction of the wind. -/
def windForecast (direction : String) : Response :=
  .ok ("<weatherdata><meta><model nextrun='1970-01-01T06:00:00Z'/></meta><product>" ++
    "<time from='1970-01-01T00:00:00Z' to='1970-01-01T01:00:00Z'><location><windDirection deg='" ++
    direction ++ "'/></location></time></product></weatherdata>")

def windSensor (state : Option Reading) : Sensor := ⟨"yr", .windDirection, state⟩

def breeze : SensorUpdate := (windSensor (some (.number (.ofRatio false 451 2)))).snapshot

theorem mem_breeze : breeze ∈
    (((FedRefresher.ofSensors 0 [windSensor none] [windForecast "225.5"]).run []).update
      (.ofSecond 0)).2.2 := by
  decide +kernel

/-- A direction with one decimal is published and read back. -/
theorem breeze_read :
    breeze ∈ (((FedRefresher.ofSensors 0 [windSensor none] [windForecast "225.5"]).run []).update
      (.ofSecond 0)).2.2 ∧ SensorUpdate.read breeze.toJson.compact = .ok breeze := by
  have hsurvives : Json.survives (.ofRatio false 451 2) := by decide +kernel
  exact ⟨mem_breeze, (FedRefresher.read_published mem_breeze).1 _ (readAs_of_survives hsurvives)⟩

/-- What is published of the word for no number. -/
def stillAir : SensorUpdate := (windSensor (some (.number .nan))).snapshot

/-- What is not a number is held by the sensor and shown as no state. -/
theorem stillAir_lost :
    stillAir ∈ ((FedRefresher.ofSensors 0 [windSensor none] [windForecast "NaN"]).update
      (.ofSecond 0)).2.2 ∧ stillAir.state ≠ none ∧
      SensorUpdate.read stillAir.toJson.compact = .ok { stillAir with state := none } :=
  ⟨by decide +kernel, Option.some_ne_none _, by decide +kernel⟩

-- not even all digits of a double are always read as that double
example : ¬Json.survives (.ofRatio false 19490849020565878 100000000000000) := by decide +kernel

end HomeHub
