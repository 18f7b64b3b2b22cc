import HomeHub.Forecast.Selection
import HomeHub.Proofs.Number.Digits
import HomeHub.Proofs.Number.Order
import HomeHub.Proofs.Time.Instant
import HomeHub.Settings.Source

/-!
# Settings that load

Whatever file they come from, and without any, settings that load are valid, and the environment can
change nothing but host and port afterwards. Valid settings look at most 240 hours ahead or back, so far
that the instant the sensors look at is never out of range.
-/
namespace HomeHub

namespace Forecast

variable {hours limit : Int} {now : Instant}

/-- The instant to look at is the one so many hours from now, if those at the limits can be told. -/
theorem targetInstant_eq_addHours (hleap : ¬now.isLeap) (hhours : |hours| ≤ limit)
    (hlimit : limit * 3600000 ≤ offsetLimit) (hahead : (now.addHours limit).isRepresentable)
    (hback : (now.addHours (-limit)).isRepresentable) :
    targetInstant hours now = now.addHours hours := by
  obtain ⟨hlow, hhigh⟩ := abs_le.mp hhours
  have hoffset : (hours * 3600000).natAbs ≤ offsetLimit := by omega
  have htarget : (now.addHours hours).isRepresentable :=
    Instant.isRepresentable_addHours hleap hlow hhigh hback hahead
  rw [targetInstant, if_pos ⟨hoffset, htarget⟩]

end Forecast

namespace Settings

structure IsSafe (s : Settings) : Prop where
  monitors : s.weather.monitoredConditions ≠ []
  forecast : |s.weather.forecast.toInt| ≤ 240
  latitude : ∀ x ∈ s.weather.latitude, x.isFinite ∧ |x.toRat| ≤ 90
  longitude : ∀ x ∈ s.weather.longitude, x.isFinite ∧ |x.toRat| ≤ 180

theorem filter_not_isWithin {limit : Int} {x : Option Binary64} :
    x.filter (!·.isWithin limit) = none ↔ ∀ y ∈ x, y.isWithin limit := by
  cases x with
  | none => simp
  | some y => simp

theorem isValid_iff {s : Settings} : s.isValid ↔ s.IsSafe := by
  have hforecast : (-forecastLimit ≤ s.weather.forecast.toInt ∧
      s.weather.forecast.toInt ≤ forecastLimit) ↔ |s.weather.forecast.toInt| ≤ 240 := abs_le.symm
  have hlatitude : s.weather.latitude.filter (!·.isWithin latitudeLimit) = none ↔
      ∀ x ∈ s.weather.latitude, x.isFinite ∧ |x.toRat| ≤ 90 := by
    simp only [filter_not_isWithin, Binary64.isWithin_latitudeLimit]
  have hlongitude : s.weather.longitude.filter (!·.isWithin longitudeLimit) = none ↔
      ∀ x ∈ s.weather.longitude, x.isFinite ∧ |x.toRat| ≤ 180 := by
    simp only [filter_not_isWithin, Binary64.isWithin_longitudeLimit]
  unfold isValid offence?
  simp only [hforecast, Option.isNone_iff_eq_none]
  constructor
  · intro h
    split at h
    · cases h
    · rename_i hmonitors
      split at h
      · cases h
      · rename_i hhours
        split at h
        · cases h
        · rename_i hnone
          exact ⟨by simpa using hmonitors, by simpa using hhours, hlatitude.mp hnone,
            hlongitude.mp (Option.map_eq_none_iff.mp h)⟩
  · intro h
    have hmonitors : ¬s.weather.monitoredConditions.isEmpty := by simpa using h.monitors
    rw [if_neg hmonitors, if_neg (by simp [h.forecast]), hlatitude.mpr h.latitude,
      hlongitude.mpr h.longitude]
    rfl

theorem eq_of_checked {s t : Settings} (h : s.checked = .ok t) : s = t ∧ s.isValid := by
  unfold checked at h
  split at h
  · rename_i hnone
    exact ⟨Except.ok.inj h, by rw [isValid, hnone]; rfl⟩
  · cases h

theorem isValid_of_read {text : String} {s : Settings} (h : read text = .ok s) : s.isValid := by
  simp only [read] at h
  split at h
  · cases h
  · split at h
    · cases h
    · obtain ⟨rfl, hvalid⟩ := eq_of_checked h
      exact hvalid

theorem isValid_of_readFile {storage : Storage} {path : String} {s : Settings}
    (h : readFile storage path = .ok s) : s.isValid := by
  unfold readFile at h
  split at h
  · cases h
  · exact isValid_of_read h

/-- The defaults are not checked by the program. -/
theorem isValid_defaults : defaults.isValid := by decide

theorem isValid_of_fromFile {storage : Storage} {env : Environment} {s : Settings}
    (h : fromFile storage env = .ok s) : s.isValid := by
  unfold fromFile at h
  split at h
  · exact isValid_of_readFile h
  · obtain rfl := Except.ok.inj h
    exact isValid_defaults

/-- What host and port of the environment make of settings. -/
structure Overrides (env : Environment) (chosen s : Settings) : Prop where
  weather : s.weather = chosen.weather
  zwave : s.zwave = chosen.zwave
  host : s.server.host = env.host.getD chosen.server.host
  keptPort : env.port = none → s.server.port = chosen.server.port
  readPort : ∀ text ∈ env.port, readUpTo? 65535 text = some s.server.port.toNat

theorem withHost_eq (s : Settings) (host : Option String) :
    s.withHost host = { s with server := ⟨host.getD s.server.host, s.server.port⟩ } := by
  cases host <;> rfl

theorem overrides_of_load {storage : Storage} {env : Environment} {s : Settings}
    (h : load storage env = .ok s) :
    ∃ chosen, fromFile storage env = .ok chosen ∧ Overrides env chosen s := by
  cases hchosen : fromFile storage env with
  | error fault =>
    simp only [load, hchosen, bind, Except.bind] at h
    cases h
  | ok chosen =>
    refine ⟨chosen, rfl, ?_⟩
    simp only [load, hchosen, bind, Except.bind, withHost_eq] at h
    cases hport : env.port with
    | none =>
      rw [hport] at h
      obtain rfl := Except.ok.inj h
      exact ⟨rfl, rfl, rfl, fun _ => rfl, by simp [hport]⟩
    | some text =>
      simp only [withPort, hport] at h
      cases hread : readUpTo? 65535 text with
      | none =>
        rw [hread] at h
        cases h
      | some n =>
        rw [hread] at h
        obtain rfl := Except.ok.inj h
        have hn : (UInt16.ofNat n).toNat = n :=
          UInt16.toNat_ofNat_of_lt (Nat.lt_succ_of_le (le_of_readUpTo? hread))
        refine ⟨rfl, rfl, rfl, by simp [hport], fun t ht => ?_⟩
        obtain rfl := Option.some.inj (hport.symm.trans ht)
        rw [hn]
        exact hread

theorem Overrides.isValid {env : Environment} {chosen s : Settings} (h : Overrides env chosen s)
    (hvalid : chosen.isValid) : s.isValid := by
  simp only [Settings.isValid, offence?, h.weather] at *
  exact hvalid

/-- Settings that load are valid. They are those of the chosen file, or the defaults, but for host and port
where the environment has any. The instant that their sensors look at is always the one so many hours
from now, unless now is a leap second or too near the ends of time. -/
theorem load_safe {storage : Storage} {env : Environment} {s : Settings}
    (h : load storage env = .ok s) :
    s.isValid ∧ s.IsSafe ∧
    (∃ chosen, fromFile storage env = .ok chosen ∧
      load storage { env with host := none, port := none } = .ok chosen ∧ Overrides env chosen s) ∧
    ∀ now : Instant, ¬now.isLeap → (now.addHours 240).isRepresentable →
      (now.addHours (-240)).isRepresentable →
      let target := Forecast.targetInstant s.weather.forecast.toInt now
      target = now.addHours s.weather.forecast.toInt ∧
        target.second = now.second + s.weather.forecast.toInt * 3600 ∧ target.nano = now.nano := by
  obtain ⟨chosen, hchosen, hoverrides⟩ := overrides_of_load h
  have hvalid : s.isValid := hoverrides.isValid (isValid_of_fromFile hchosen)
  have hsafe : s.IsSafe := isValid_iff.mp hvalid
  refine ⟨hvalid, hsafe, ⟨chosen, hchosen, ?_, hoverrides⟩, ?_⟩
  · have hsame : fromFile storage { env with host := none, port := none } = .ok chosen := hchosen
    simp only [load, hsame, bind, Except.bind]
    rfl
  · intro now hleap hahead hback target
    have htarget : target = now.addHours s.weather.forecast.toInt :=
      Forecast.targetInstant_eq_addHours hleap hsafe.forecast (by decide) hahead hback
    refine ⟨htarget, ?_, ?_⟩
    · rw [htarget, Instant.addHours, Instant.second_addSeconds hleap]
      rfl
    · rw [htarget, Instant.addHours, Instant.nano_addSeconds hleap]

-- a NaN is in no range
example : ¬isValid { defaults with weather.latitude := some .nan } := by decide

def cabinStorage : Storage := Storage.empty.put "hearth.toml" (.text "[weather]
latitude = -90.0
longitude = 180
forecast = -240
")

def cabinEnvironment : Environment := ⟨none, none, some "8081", none⟩

def cabinSettings : Settings :=
  { defaults with
    server.port := 8081
    weather := { WeatherSettings.defaults with
      latitude := some (.ofInt (-90))
      longitude := some (.ofInt 180)
      forecast := -240 } }

/-- Numbers at their limits load. -/
theorem cabinSettings_safe :
    load cabinStorage cabinEnvironment = .ok cabinSettings ∧ cabinSettings.IsSafe ∧
    Forecast.targetInstant (-240) (.ofSecond 0) = .ofSecond (-864000) := by
  have h : load cabinStorage cabinEnvironment = .ok cabinSettings := by decide +kernel
  have hsafe := load_safe h
  exact ⟨h, hsafe.2.1, (hsafe.2.2.2 (.ofSecond 0) (by decide) (by decide) (by decide)).1⟩

end Settings

end HomeHub
