import HomeHub.Proofs.Sensor.UpdateText
import HomeHub.Proofs.Settings.Loaded

/-!
# Settings that are read back

Settings are read back from their JSON form, also from one that lacks some of what stands in the form
of the defaults as well. It does not matter whether a section is missing, empty or without some of its
settings: what a missing section stands for and what its missing settings do is the same.
-/
namespace HomeHub

open Json Json.Scan Json.Decoder

namespace Json

mutual

/-- What can be left of a value, if anything, when what is as in a default value is taken out. -/
inductive Thins : (default whole : Json) → Option Json → Prop
  | whole {d j : Json} : Thins d j (some j)
  | default {j : Json} : Thins j j none
  | inside {ds ms ms' : List (String × Json)} : ThinsMembers ds ms ms' →
      Thins (.object ds) (.object ms) (some (.object ms'))
  | emptied {ds ms : List (String × Json)} : ThinsMembers ds ms [] →
      Thins (.object ds) (.object ms) none

/-- What can be left of the members of an object. -/
inductive ThinsMembers : (defaults whole thinned : List (String × Json)) → Prop
  | nil : ThinsMembers [] [] []
  | keep {name : String} {d j j' : Json} {ds ms ms' : List (String × Json)} :
      Thins d j (some j') → ThinsMembers ds ms ms' →
      ThinsMembers ((name, d) :: ds) ((name, j) :: ms) ((name, j') :: ms')
  | drop {name : String} {d j : Json} {ds ms ms' : List (String × Json)} :
      Thins d j none → ThinsMembers ds ms ms' →
      ThinsMembers ((name, d) :: ds) ((name, j) :: ms) ms'

end

section

variable {d j j' : Json}

theorem Thins.some_cases (h : Thins d j (some j')) : j' = j ∨ ∃ ds ms ms', d = .object ds ∧
    j = .object ms ∧ j' = .object ms' ∧ ThinsMembers ds ms ms' := by
  cases h with
  | whole => exact .inl rfl
  | inside h => exact .inr ⟨_, _, _, rfl, rfl, rfl, h⟩

theorem Thins.none_cases (h : Thins d j none) : j = d ∨ ∃ ds ms, d = .object ds ∧
    j = .object ms ∧ ThinsMembers ds ms [] := by
  cases h with
  | default => exact .inl rfl
  | emptied h => exact .inr ⟨_, _, rfl, rfl, h⟩

end

theorem thinsMembers_self (ms : List (String × Json)) : ThinsMembers ms ms [] := by
  induction ms with
  | nil => exact .nil
  | cons m ms ih => exact .drop .default ih

theorem Decodes.unique {α : Type} {scan : Scan α} {j : Json} {v w : α} (h : Decodes scan j v)
    (h' : Decodes scan j w) : v = w :=
  Except.ok.inj ((readWith_of_isSpelling (h _ .compact)).symm.trans
    (readWith_of_isSpelling (h' _ .compact)))

theorem Fills.eq_of_nil {α : Type} {levels : Nat} {b b' : α} {fields : List (Field α)}
    (h : Fills levels b fields [] b') : b = b' := by
  generalize hmembers : ([] : List (String × Json)) = members at h
  induction h with
  | done b => rfl
  | member => cases hmembers
  | missing _ _ ih => exact ih hmembers

end Json

section

variable {α β : Type} {levels : Nat}

/-- Values of a format, those that satisfy a condition, are read back. None is written as an object. -/
structure Format.Restores (format : Format β) (levels : Nat) (P : β → Prop) : Prop where
  decodes : ∀ x, P x → Decodes (format.readJson levels) (format.write x) x
  plain : ∀ x members, format.write x ≠ .object members

/-- A setting takes a section read so far to the next one, whatever is left of its value. -/
structure Setting.Restores (levels : Nat) (d a b : α) (setting : Setting α) (b' : α) : Prop where
  kept : ∀ j, Thins (setting.write d) (setting.write a) (some j) →
    ∃ set, Decodes (setting.readJson levels) j set ∧ set b = b'
  omitted : Thins (setting.write d) (setting.write a) none → b = b'

/-- The settings of a section have different names, and all missing they stand for what the section does
when it is missing itself. -/
structure SettingSection.IsConsistent (sec : SettingSection α) : Prop where
  names : (sec.settings.map Setting.name).Nodup
  unset : sec.unset = sec.defaults

/-- The settings of a section lead from its defaults to it. -/
def SettingSection.Restores (sec : SettingSection α) (levels : Nat) (a : α) : Prop :=
  Leads (Setting.Restores levels sec.defaults a) sec.defaults sec.settings a

namespace Format

theorem restores_textAs (expected : String) : (textAs expected).Restores levels fun _ => True :=
  ⟨fun s _ => @decodes_textAs levels expected s, fun _ _ h => by cases h⟩

theorem restores_word16 : word16.Restores levels fun _ => True :=
  ⟨fun n _ => decodes_word16 n, fun _ _ h => by cases h⟩

theorem restores_signed64 : signed64.Restores levels fun _ => True :=
  ⟨fun n _ => decodes_signed64 n, fun _ _ h => by cases h⟩

theorem restores_optional_real :
    (optional real).Restores levels fun x => ∀ y ∈ x, survives y := by
  refine ⟨fun x hx => ?_, fun x members h => ?_⟩
  · cases x with
    | none => exact decodes_optional_none
    | some y =>
      have hreal : Decodes (Decoder.real levels) (.number (.real y)) y := decodes_real (hx y rfl)
      exact decodes_optional_number (rereads_real (hx y rfl)) hreal
  · cases x <;> cases h

theorem restores_optional_path : (optional path).Restores levels fun _ => True := by
  refine ⟨fun x _ => ?_, fun x members h => ?_⟩
  · cases x with
    | none => exact decodes_optional_none
    | some s => exact @decodes_optional_textAs levels _ s
  · cases x <;> cases h

theorem restores_kinds : (list WeatherSettings.kindFormat).Restores (levels + 1) fun _ => True :=
  ⟨fun kinds _ => decodes_list fun k _ => decodes_kind k, fun _ _ h => by cases h⟩

end Format

namespace Setting

/-- The member of the JSON form of a section. -/
def member (a : α) (setting : Setting α) : String × Json := (setting.name, setting.write a)

theorem fills_of_thinsMembers {d a b b' : α} {settings : List (Setting α)}
    (h : Leads (Setting.Restores levels d a) b settings b') {members : List (String × Json)}
    (hthins : ThinsMembers (settings.map (member d)) (settings.map (member a)) members) :
    Fills levels b (settings.map field) members b' := by
  induction h generalizing members with
  | done b =>
    cases hthins
    exact .done b
  | next hsetting _ ih =>
    cases hthins with
    | keep hvalue hrest =>
      obtain ⟨set, hset, rfl⟩ := hsetting.kept _ hvalue
      exact .member hset (ih hrest)
    | drop hvalue hrest =>
      obtain rfl := hsetting.omitted hvalue
      exact .missing (fun h => by cases h) (ih hrest)

theorem thinsMembers_whole (d a : α) (settings : List (Setting α)) :
    ThinsMembers (settings.map (member d)) (settings.map (member a)) (settings.map (member a)) := by
  induction settings with
  | nil => exact .nil
  | cons setting settings ih => exact .keep .whole ih

variable {name : String} {missing : β} {get : α → β} {put : β → α → α} {d a b : α}

/-- A value that is left out is the default one: it is written like the default one, and both are read
back. -/
theorem restores_of {format : Format β} {P : β → Prop} (h : format.Restores levels P)
    (ha : P (get a)) (hd : P (get d)) (hput : get a = get d → put (get a) b = b) :
    Setting.Restores levels d a b (.of name format missing get put) (put (get a) b) := by
  have hread := h.decodes _ ha
  constructor
  · intro j hthins
    rcases hthins.some_cases with rfl | ⟨_, _, _, -, hobject, -, -⟩
    · exact ⟨_, decodes_map put hread, rfl⟩
    · exact absurd hobject (h.plain _ _)
  · intro hthins
    rcases hthins.none_cases with hsame | ⟨_, _, -, hobject, -⟩
    · have hsame : format.write (get a) = format.write (get d) := hsame
      exact (hput ((hsame ▸ hread).unique (h.decodes _ hd))).symm
    · exact absurd hobject (h.plain _ _)

end Setting

namespace SettingSection

variable {sec : SettingSection α} {a : α}

theorem toJson_eq (sec : SettingSection α) (a : α) :
    sec.record.toJson a = .object (sec.settings.map (Setting.member a)) := by
  simp only [Record.toJson, record, List.filterMap_map]
  exact congrArg Json.object (List.filterMap_eq_map ▸ rfl)

theorem names_eq (sec : SettingSection α) :
    sec.record.fields.map Field.name = sec.settings.map Setting.name := by
  simp only [record, List.map_map]
  rfl

theorem decodes_thinned (hsec : sec.IsConsistent) (h : sec.Restores levels a) {j : Json}
    (hthins : Thins (sec.record.toJson sec.defaults) (sec.record.toJson a) (some j)) :
    Decodes (sec.record.decoder (levels + 1)) j a := by
  rw [toJson_eq, toJson_eq] at hthins
  have hread {members : List (String × Json)} (hmembers : ThinsMembers
      (sec.settings.map (Setting.member sec.defaults)) (sec.settings.map (Setting.member a)) members) :
      Decodes (sec.record.decoder (levels + 1)) (.object members) a := by
    have hfills : Fills levels sec.unset (sec.settings.map Setting.field) members a :=
      hsec.unset ▸ Setting.fills_of_thinsMembers h hmembers
    exact Record.decodes_members (sec.names_eq ▸ hsec.names) hfills
  rcases hthins.some_cases with rfl | ⟨ds, ms, ms', hds, hms, rfl, hmembers⟩
  · exact hread (Setting.thinsMembers_whole _ _ _)
  · obtain rfl := Json.object.inj hds
    obtain rfl := Json.object.inj hms
    exact hread hmembers

/-- A section that is left out is the default one, be it left out as such or because it was left empty. -/
theorem eq_defaults_of_thins_none (h : sec.Restores levels a)
    (hthins : Thins (sec.record.toJson sec.defaults) (sec.record.toJson a) none) :
    a = sec.defaults := by
  rw [toJson_eq, toJson_eq] at hthins
  have hempty : ThinsMembers (sec.settings.map (Setting.member sec.defaults))
      (sec.settings.map (Setting.member a)) [] := by
    rcases hthins.none_cases with hsame | ⟨ds, ms, hds, hms, hmembers⟩
    · rw [Json.object.inj hsame]
      exact thinsMembers_self _
    · rw [Json.object.inj hds, Json.object.inj hms]
      exact hmembers
  exact (Setting.fills_of_thinsMembers h hempty).eq_of_nil.symm

end SettingSection

theorem Setting.restores_section {sec : SettingSection β} {name : String} {missing : β} {get : α → β}
    {put : β → α → α} {d a b : α} (hsec : sec.IsConsistent) (h : sec.Restores levels (get a))
    (hd : get d = sec.defaults) (hput : get a = get d → put (get a) b = b) :
    Setting.Restores (levels + 1) d a b (.of name sec.format missing get put) (put (get a) b) := by
  have hwrite : (Setting.of name sec.format missing get put).write d = sec.record.toJson sec.defaults :=
    congrArg sec.record.toJson hd
  constructor
  · intro j hthins
    rw [hwrite] at hthins
    exact ⟨_, decodes_map put (SettingSection.decodes_thinned hsec h hthins), rfl⟩
  · intro hthins
    rw [hwrite] at hthins
    exact (hput ((SettingSection.eq_defaults_of_thins_none h hthins).trans hd.symm)).symm

end

variable {levels : Nat}

theorem ServerSettings.isConsistent : schema.IsConsistent := ⟨by decide, rfl⟩

theorem ServerSettings.restores (s : ServerSettings) : schema.Restores levels s :=
  .next (Setting.restores_of (Format.restores_textAs _) trivial trivial fun h => by rw [h]) <|
    .next (Setting.restores_of Format.restores_word16 trivial trivial fun h => by rw [h]) <|
    .done s

theorem WeatherSettings.isConsistent : schema.IsConsistent := ⟨by decide, rfl⟩

theorem WeatherSettings.restores {s : WeatherSettings} (hlatitude : ∀ x ∈ s.latitude, survives x)
    (hlongitude : ∀ x ∈ s.longitude, survives x) : schema.Restores (levels + 1) s :=
  have hnone : ∀ x ∈ (none : Option Binary64), survives x := fun _ h => by cases h
  .next (Setting.restores_of (Format.restores_textAs _) trivial trivial fun h => by rw [h]) <|
    .next (Setting.restores_of Format.restores_optional_real hlatitude hnone fun h => by rw [h]) <|
    .next (Setting.restores_of Format.restores_optional_real hlongitude hnone fun h => by rw [h]) <|
    .next (Setting.restores_of Format.restores_signed64 trivial trivial fun h => by rw [h]) <|
    .next (Setting.restores_of Format.restores_signed64 trivial trivial fun h => by rw [h]) <|
    .next (Setting.restores_of Format.restores_kinds trivial trivial fun h => by rw [h]) <|
    .next (Setting.restores_of (Format.restores_textAs _) trivial trivial fun h => by rw [h]) <|
    .done s

theorem ZWaveSettings.isConsistent : schema.IsConsistent := ⟨by decide, rfl⟩

theorem ZWaveSettings.restores (s : ZWaveSettings) : schema.Restores levels s :=
  .next (Setting.restores_of (Format.restores_textAs _) trivial trivial fun h => by rw [h]) <|
    .next (Setting.restores_of Format.restores_optional_path trivial trivial fun h => by rw [h]) <|
    .next (Setting.restores_of (Format.restores_textAs _) trivial trivial fun h => by rw [h]) <|
    .done s

namespace Settings

theorem isConsistent : schema.IsConsistent := ⟨by decide, rfl⟩

theorem restores {s : Settings} (hlatitude : ∀ x ∈ s.weather.latitude, survives x)
    (hlongitude : ∀ x ∈ s.weather.longitude, survives x) : schema.Restores (levels + 2) s :=
  .next (Setting.restores_section ServerSettings.isConsistent (ServerSettings.restores _) rfl
      fun h => by rw [h]) <|
    .next (Setting.restores_section WeatherSettings.isConsistent
      (WeatherSettings.restores hlatitude hlongitude) rfl fun h => by rw [h]) <|
    .next (Setting.restores_section ZWaveSettings.isConsistent (ZWaveSettings.restores _) rfl
      fun h => by rw [h]) <|
    .done s

theorem checked_of_isValid {s : Settings} (h : s.isValid) : s.checked = .ok s := by
  have hnone : s.offence? = none := Option.isNone_iff_eq_none.mp h
  rw [checked, hnone]

/-- Valid settings are what their JSON form is read as, and that is valid again. Any settings that have
the default value may be missing, and so may any section that is left empty by that. -/
theorem read_thinned {s : Settings} (hvalid : s.isValid)
    (hlatitude : ∀ x ∈ s.weather.latitude, survives x)
    (hlongitude : ∀ x ∈ s.weather.longitude, survives x) {j : Json}
    (hthins : Thins defaults.toJson s.toJson (some j)) {spelled : List Char}
    (hspelled : IsWritten j spelled) :
    schema.record.decoder.run (String.ofList spelled) = .ok s ∧ s.checked = .ok s := by
  have hread : Decodes (schema.record.decoder deepest) j s :=
    SettingSection.decodes_thinned isConsistent (restores hlatitude hlongitude) hthins
  exact ⟨readWith_of_isSpelling (hread spelled hspelled), checked_of_isValid hvalid⟩

/-- What has to be written for the settings of a cabin. Their empty section could be left out too. -/
def cabinJson : Json := .object [
  ("server", .object [("port", .ofNat 8081)]),
  ("weather", .object [
    ("latitude", .number (.real (.ofInt (-90)))),
    ("longitude", .number (.real (.ofInt 180))),
    ("forecast", .number (.integer (-240)))]),
  ("zwave", .object [])]

theorem cabinSettings_thins : Thins defaults.toJson cabinSettings.toJson (some cabinJson) :=
  .inside <|
    .keep (.inside <| .drop .default <| .keep .whole .nil) <|
    .keep (.inside <| .drop .default <| .keep .whole <| .keep .whole <| .drop .default <|
      .keep .whole <| .drop .default <| .drop .default .nil) <|
    .keep (.inside <| .drop .default <| .drop .default <| .drop .default .nil) .nil

theorem cabinSettings_read_thinned :
    cabinSettings.isValid ∧
    schema.record.decoder.run cabinJson.compact = .ok cabinSettings ∧
    cabinSettings.checked = .ok cabinSettings := by
  have hvalid : cabinSettings.isValid := by decide +kernel
  have hlatitude : ∀ x ∈ cabinSettings.weather.latitude, survives x := by decide +kernel
  have hlongitude : ∀ x ∈ cabinSettings.weather.longitude, survives x := by decide +kernel
  exact ⟨hvalid, read_thinned hvalid hlatitude hlongitude cabinSettings_thins .compact⟩

end Settings

end HomeHub
