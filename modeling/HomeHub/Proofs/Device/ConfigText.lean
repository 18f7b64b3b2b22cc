import HomeHub.Proofs.Device.Accepted
import HomeHub.Proofs.Device.Merge
import HomeHub.Proofs.Json.Decoder
import HomeHub.Proofs.Json.ReadBack
import Mathlib.Data.List.TakeWhile

/-!
# The text of a config

A config is read from the JSON object that stands in the file, and from what is written for it.
-/
namespace HomeHub

theorem Text.trim_eq_nil_iff {written : List Char} :
    Text.trim written = [] ↔ ∀ c ∈ written, Text.isBlank c := by
  have hstart : Text.trimStart written = [] ↔ ∀ c ∈ written, Text.isBlank c :=
    List.dropWhile_eq_nil_iff
  rw [← hstart, Text.trim, Text.trimEnd, List.reverse_eq_nil_iff, List.dropWhile_eq_nil_iff]
  refine ⟨fun h => ?_, fun h => by simp [h]⟩
  by_contra hne
  have hpos : 0 < (Text.trimStart written).length := List.length_pos_iff.mpr hne
  have hfirst := List.dropWhile_get_zero_not Text.isBlank written hpos
  exact hfirst (h _ (List.mem_reverse.mpr (List.get_mem _ _)))

namespace Device

theorem readConfig_absent : readConfig .absent = .ok .empty := rfl

theorem readConfig_blank {written : String} (h : ∀ c ∈ written.toList, Text.isBlank c) :
    readConfig (.text written) = .ok .empty := by
  simp [readConfig, File.read, Text.trim_eq_nil_iff.mpr h]

/-- The brace of an object is left by trimming. -/
theorem trim_ne_nil_of_read {written : String} {members : List (String × Json)}
    (h : Json.read written = .ok (.object members)) : Text.trim written.toList ≠ [] := by
  intro htrim
  have hblank := Text.trim_eq_nil_iff.mp htrim
  obtain ⟨c, hread, -⟩ := Json.readWith_eq_ok_iff.mp h
  refine Json.Decoder.value_ne_object (c := .start written) (fun hbrace => ?_) members c hread
  have hmem : '\x7b' ∈ written.toList :=
    (List.dropWhile_suffix Json.Cursor.isJsonBlank).mem (List.mem_of_head? hbrace)
  exact absurd (hblank _ hmem) (by decide)

theorem readConfig_of_read {written : String} {config : Config}
    (h : Json.read written = .ok (.object config.entries)) :
    readConfig (.text written) = .ok config := by
  have hrun := Json.Decoder.run_members_any_eq_ok_iff.mpr h
  simp [readConfig, File.read, trim_ne_nil_of_read h, hrun, Except.mapError]

theorem read_of_readConfig {written : String} {config : Config}
    (h : readConfig (.text written) = .ok config)
    (hblank : ¬∀ c ∈ written.toList, Text.isBlank c) :
    Json.read written = .ok (.object config.entries) := by
  have htrim : Text.trim written.toList ≠ [] := mt Text.trim_eq_nil_iff.mp hblank
  rw [← Json.Decoder.run_members_any_eq_ok_iff]
  cases hrun : (Json.Decoder.members Json.Decoder.any).run written with
  | error fault => simp [readConfig, File.read, htrim, hrun, Except.mapError] at h
  | ok members => simpa [readConfig, File.read, htrim, hrun, Except.mapError] using h

/-- A config that is read back from what is written for it. -/
structure IsStorable (config : Config) : Prop where
  readable : (Json.object config.entries).IsReadable Json.deepest
  exact : (Json.object config.entries).IsExact

theorem IsStorable.readConfig_configText {config : Config} (h : IsStorable config) :
    readConfig (.text (configText config)) = .ok config :=
  readConfig_of_read (Json.read_indented h.readable h.exact)

theorem IsStorable.inKeyOrder {config : Config} (h : IsStorable config) {id : String}
    {members : List (String × Json)} (hget : config.get? id = some (.object members)) :
    InKeyOrder members :=
  (h.readable.2 _ (SortedMap.mem_entries.mpr hget)).1

/-- An option is neither an array nor an object. -/
theorem IsOption.isReadable {m : String × Json} (h : IsOption m) {levels : Nat}
    (hread : m.2.IsReadable levels) (below : Nat) : m.2.IsReadable below := by
  obtain ⟨name, value⟩ := m
  obtain ⟨accepts, haccepts, hvalue⟩ := h
  have hscalar : isBooleanLike value ∨ isPollingIntensity value := by
    simp only [acceptance?] at haccepts
    split_ifs at haccepts
    · exact Or.inl (Option.some.inj haccepts ▸ hvalue)
    · exact Or.inr (Option.some.inj haccepts ▸ hvalue)
  cases value with
  | null | boolean _ | text _ => cases below <;> trivial
  | number n => cases levels <;> cases below <;> exact hread
  | array _ | object _ => rcases hscalar with h | h <;> cases h

section

variable {config : Config} {id : String} {options : Options}

theorem mem_optionsOf {o : String × Json} (h : o ∈ (optionsOf config id).entries) :
    ∃ members, (id, .object members) ∈ config.entries ∧ o ∈ members := by
  unfold optionsOf at h
  cases hget : config.get? id with
  | none => simp [hget, SortedMap.empty] at h
  | some value =>
    cases value with
    | object members =>
      have hmem : o ∈ (SortedMap.ofList members).entries := by simpa [hget, storedOptions] using h
      refine ⟨members, SortedMap.mem_entries.mpr hget, ?_⟩
      exact (SortedMap.mem_foldl_insert hmem).resolve_right List.not_mem_nil
    | null | boolean _ | number _ | text _ | array _ =>
      simp [hget, storedOptions, SortedMap.empty] at h

/-- What a merge stores is what was posted or was stored before. -/
theorem mem_merge {m : String × Json} (h : m ∈ (merge config id options).entries) :
    m ∈ config.entries ∨ ∃ members, m = (id, .object members) ∧ InKeyOrder members ∧
      ∀ o ∈ members, o ∈ options.entries ∨ ∃ old, (id, .object old) ∈ config.entries ∧ o ∈ old := by
  rcases mem_insertEntry h with rfl | h
  · refine Or.inr ⟨_, rfl, SortedMap.inOrder _, fun o ho => ?_⟩
    exact (SortedMap.mem_foldl_insert ho).imp_right mem_optionsOf
  · exact Or.inl h

theorem IsStorable.merge (h : IsStorable config)
    (hoptions : ∀ o ∈ options.entries, IsOption o ∧ (∃ levels, o.2.IsReadable levels) ∧ o.2.IsExact) :
    IsStorable (merge config id options) where
  readable := by
    refine ⟨SortedMap.inOrder _, fun m hm => ?_⟩
    rcases mem_merge hm with hm | ⟨members, rfl, horder, hmembers⟩
    · exact h.readable.2 m hm
    · refine ⟨horder, fun o ho => ?_⟩
      -- options stand two levels down in the config, one level down in what was posted
      rcases hmembers o ho with ho | ⟨old, hold, ho⟩
      · obtain ⟨hoption, ⟨levels, hread⟩, -⟩ := hoptions o ho
        exact hoption.isReadable hread _
      · exact (h.readable.2 _ hold).2 o ho
  exact := by
    refine Json.isExact_object.mpr fun m hm => ?_
    have hexact := Json.isExact_object.mp h.exact
    rcases mem_merge hm with hm | ⟨members, rfl, -, hmembers⟩
    · exact hexact m hm
    · refine Json.isExact_object.mpr fun o ho => ?_
      rcases hmembers o ho with ho | ⟨old, hold, ho⟩
      · exact (hoptions o ho).2.2
      · exact Json.isExact_object.mp (hexact _ hold) o ho

end

end Device

end HomeHub
