import HomeHub.Proofs.Device.Editor
import HomeHub.Proofs.Device.EntityId
import HomeHub.Proofs.Storage.Tree

/-!
# Why updates are refused

An update is refused by what is posted, whatever the file holds, or else by the file, if that holds no map or
cannot be written.
-/
namespace HomeHub

theorem mapError_eq_error_iff {ε δ α : Type} {x : Except ε α} {f : ε → δ} {fault : δ} :
    x.mapError f = .error fault ↔ ∃ cause, x = .error cause ∧ f cause = fault := by
  cases x <;> simp [Except.mapError]

namespace Device

inductive IsDataFault : Json → DataFault → Prop
  | notObject {data : Json} : (∀ members, data ≠ .object members) → IsDataFault data .notObject
  | unknownOption {before after : List (String × Json)} {name : String} {value : Json} :
    (∀ m ∈ before, IsOption m) → name ≠ "ignored" → name ≠ "polling_intensity" →
      IsDataFault (.object (before ++ (name, value) :: after)) (.unknownOption name)
  | badIgnored {before after : List (String × Json)} {value : Json} :
    (∀ m ∈ before, IsOption m) → ¬isBooleanLike value →
      IsDataFault (.object (before ++ ("ignored", value) :: after)) (.badValue "ignored" value)
  | badPolling {before after : List (String × Json)} {value : Json} :
    (∀ m ∈ before, IsOption m) → ¬isPollingIntensity value →
      IsDataFault (.object (before ++ ("polling_intensity", value) :: after))
        (.badValue "polling_intensity" value)

theorem memberFault?_eq_some_iff {name : String} {value : Json} {fault : DataFault} :
    memberFault? name value = some fault ↔
      (name ≠ "ignored" ∧ name ≠ "polling_intensity" ∧ fault = .unknownOption name) ∨
        (name = "ignored" ∧ ¬isBooleanLike value ∧ fault = .badValue name value) ∨
        (name = "polling_intensity" ∧ ¬isPollingIntensity value ∧ fault = .badValue name value) := by
  by_cases hignored : name = "ignored"
  · subst hignored
    cases hvalue : isBooleanLike value <;>
      simp [memberFault?, acceptance?, hvalue, eq_comm (b := fault)]
  by_cases hpolling : name = "polling_intensity"
  · subst hpolling
    cases hvalue : isPollingIntensity value <;>
      simp [memberFault?, acceptance?, hvalue, eq_comm (b := fault)]
  · simp [memberFault?, acceptance?, hignored, hpolling, eq_comm (b := fault)]

theorem readOptions_entries_eq_error_iff {members : Options} {fault : DataFault} :
    readOptions (.object members.entries) = .error fault ↔
      IsDataFault (.object members.entries) fault := by
  have hfirst : readOptions (.object members.entries) = .error fault ↔
      (members.entries.findSome? fun m => memberFault? m.1 m.2) = some fault := by
    simp only [readOptions, SortedMap.ofList_entries]
    split
    · rename_i other hother
      simp [hother]
    · rename_i hnone
      simp [hnone]
  rw [hfirst, List.findSome?_eq_some_iff]
  simp only [memberFault?_eq_none_iff]
  constructor
  · rintro ⟨before, ⟨name, value⟩, after, hsplit, hfault, hbefore⟩
    rw [hsplit]
    rcases memberFault?_eq_some_iff.mp hfault with
      ⟨hignored, hpolling, rfl⟩ | ⟨rfl, hvalue, rfl⟩ | ⟨rfl, hvalue, rfl⟩
    · exact .unknownOption hbefore hignored hpolling
    · exact .badIgnored hbefore hvalue
    · exact .badPolling hbefore hvalue
  · generalize hdata : Json.object members.entries = data
    rintro (hnot | ⟨hbefore, hignored, hpolling⟩ | ⟨hbefore, hvalue⟩ | ⟨hbefore, hvalue⟩)
    · exact absurd hdata.symm (hnot _)
    · exact ⟨_, _, _, Json.object.inj hdata,
        memberFault?_eq_some_iff.mpr (Or.inl ⟨hignored, hpolling, rfl⟩), hbefore⟩
    · exact ⟨_, _, _, Json.object.inj hdata,
        memberFault?_eq_some_iff.mpr (Or.inr (Or.inl ⟨rfl, hvalue, rfl⟩)), hbefore⟩
    · exact ⟨_, _, _, Json.object.inj hdata,
        memberFault?_eq_some_iff.mpr (Or.inr (Or.inr ⟨rfl, hvalue, rfl⟩)), hbefore⟩

def IsJsonBody (body : ByteArray) (data : Json) : Prop :=
  ∃ written, String.fromUTF8? body = some written ∧ Json.read written = .ok data

/-- Why an update is refused by what is posted, each check only behind those before it. -/
inductive IsClientRefusal (id : String) (body : ByteArray) : DeviceFault → Prop
  | invalidJson : (∀ data, ¬IsJsonBody body data) → IsClientRefusal id body .invalidJson
  | invalidId {data : Json} : IsJsonBody body data → ¬IsIdText id →
      IsClientRefusal id body (.invalidId id)
  | invalidData {data : Json} {fault : DataFault} : IsJsonBody body data → IsIdText id →
      IsDataFault data fault → IsClientRefusal id body (.invalidData fault)

structure PassesChecks (id : String) (body : ByteArray) : Prop where
  named : IsIdText id
  options : ∃ posted, IsJsonBody body (.object posted) ∧ ∀ m ∈ posted, IsOption m

/-- A file that stands for a map: there is none, or it is blank, or holds a JSON object. -/
inductive IsMapFile (file : File) : Prop
  | missing : file.read = .error .notFound → IsMapFile file
  | blank {written : String} : file.read = .ok written → (∀ c ∈ written.toList, Text.isBlank c) →
      IsMapFile file
  | object {written : String} {members : List (String × Json)} : file.read = .ok written →
      Json.read written = .ok (.object members) → IsMapFile file

/-- Why an update in order is refused by the file. -/
inductive IsStoreRefusal (file : File) : DeviceFault → Prop
  | reading {fault : StorageFault} : file.read = .error fault → fault ≠ .notFound →
      IsStoreRefusal file (.storage fault)
  | content {written : String} {fault : Json.Error} : file.read = .ok written →
      (∃ c ∈ written.toList, ¬Text.isBlank c) →
      (Json.Decoder.members Json.Decoder.any).run written = .error fault →
        IsStoreRefusal file (.unreadable fault)
  | writing {fault : StorageFault} : IsMapFile file → file.write "" = .error fault →
      IsStoreRefusal file (.storage fault)

section

variable {id : String} {body : ByteArray} {file : File} {fault : DeviceFault}

theorem readBody_eq_error_iff : readBody body = .error fault ↔
    fault = .invalidJson ∧ ∀ data, ¬IsJsonBody body data := by
  unfold readBody IsJsonBody
  cases String.fromUTF8? body with
  | none => simp [eq_comm (b := fault)]
  | some written =>
    cases hread : Json.read written <;> simp [hread, Except.mapError, eq_comm (b := fault)]

theorem readOptions_eq_error_iff {data : Json} {dataFault : DataFault} (h : IsJsonBody body data) :
    readOptions data = .error dataFault ↔ IsDataFault data dataFault := by
  obtain ⟨written, -, hread⟩ := h
  have hnot (hdata : ∀ members, data ≠ .object members) (hrefused : readOptions data = .error .notObject) :
      readOptions data = .error dataFault ↔ IsDataFault data dataFault := by
    rw [hrefused]
    constructor
    · rintro ⟨⟩
      exact .notObject hdata
    · rintro (_ | _ | _ | _)
      · rfl
      all_goals exact absurd rfl (hdata _)
  cases data with
  | object members =>
    obtain ⟨posted, rfl⟩ := exists_entries_of_read hread
    exact readOptions_entries_eq_error_iff
  | null | boolean _ | number _ | text _ | array _ => exact hnot nofun rfl

theorem readUpdate_eq_error_iff : readUpdate id body = .error fault ↔ IsClientRefusal id body fault := by
  cases hbody : readBody body with
  | error other =>
    obtain ⟨rfl, hnot⟩ := readBody_eq_error_iff.mp hbody
    rw [readUpdate_of_body_error hbody]
    constructor
    · rintro ⟨⟩
      exact .invalidJson hnot
    · rintro (_ | ⟨hjson, -⟩ | ⟨hjson, -, -⟩)
      · rfl
      · exact absurd hjson (hnot _)
      · exact absurd hjson (hnot _)
  | ok data =>
    have hjson : IsJsonBody body data := readBody_eq_ok_iff.mp hbody
    have hunique {other : Json} (hother : IsJsonBody body other) : other = data :=
      Except.ok.inj ((readBody_eq_ok_iff.mpr hother).symm.trans hbody)
    rw [readUpdate_of_body hbody]
    split_ifs with hid
    · rw [mapError_eq_error_iff]
      constructor
      · rintro ⟨dataFault, hdata, rfl⟩
        exact .invalidData hjson (isEntityId_iff.mp hid) ((readOptions_eq_error_iff hjson).mp hdata)
      · rintro (hnot | ⟨-, hnot⟩ | ⟨hother, -, hdata⟩)
        · exact absurd hjson (hnot data)
        · exact absurd (isEntityId_iff.mp hid) hnot
        · rw [hunique hother] at hdata
          exact ⟨_, (readOptions_eq_error_iff hjson).mpr hdata, rfl⟩
    · constructor
      · rintro ⟨⟩
        exact .invalidId hjson (mt isEntityId_iff.mpr hid)
      · rintro (hnot | _ | ⟨-, hnamed, -⟩)
        · exact absurd hjson (hnot data)
        · rfl
        · exact absurd (isEntityId_iff.mpr hnamed) hid

theorem passesChecks_iff : PassesChecks id body ↔ ∃ options, readUpdate id body = .ok options := by
  constructor
  · rintro ⟨hid, posted, hjson, hoptions⟩
    have haccepted : IsAccepted id body posted := ⟨isEntityId_iff.mpr hid, hjson, hoptions⟩
    obtain ⟨options, -, hread⟩ := haccepted.exists_readUpdate
    exact ⟨options, hread⟩
  · rintro ⟨options, hread⟩
    obtain ⟨hid, hjson, hoptions⟩ := readUpdate_eq_ok_iff.mp hread
    exact ⟨isEntityId_iff.mp hid, _, hjson, hoptions⟩

theorem isMapFile_iff : IsMapFile file ↔ ∃ config, readConfig file = .ok config := by
  constructor
  · rintro (hread | ⟨hread, hblank⟩ | ⟨hread, hobject⟩)
    · exact ⟨.empty, by simp [readConfig, hread]⟩
    · obtain rfl := File.read_eq_ok_iff.mp hread
      exact ⟨.empty, readConfig_blank hblank⟩
    · obtain rfl := File.read_eq_ok_iff.mp hread
      obtain ⟨config, rfl⟩ := exists_entries_of_read hobject
      exact ⟨config, readConfig_of_read hobject⟩
  · rintro ⟨config, hconfig⟩
    unfold readConfig at hconfig
    split at hconfig
    · exact .missing ‹_›
    · cases hconfig
    · rename_i written hread
      split_ifs at hconfig with hblank
      · exact .blank hread (Text.trim_eq_nil_iff.mp (List.isEmpty_iff.mp hblank))
      · cases hrun : (Json.Decoder.members Json.Decoder.any).run written with
        | error fault => simp [hrun, Except.mapError] at hconfig
        | ok config => exact .object hread (Json.Decoder.run_members_any_eq_ok_iff.mp hrun)

theorem isStoreRefusal_of_readConfig (h : readConfig file = .error fault) :
    IsStoreRefusal file fault := by
  unfold readConfig at h
  split at h
  · cases h
  · rename_i storageFault hne hread
    cases h
    exact .reading hread hne
  · rename_i written hread
    split_ifs at h with hblank
    obtain ⟨contentFault, hrun, rfl⟩ := mapError_eq_error_iff.mp h
    have hvisible : ∃ c ∈ written.toList, ¬Text.isBlank c := by
      simpa [Text.trim_eq_nil_iff] using hblank
    exact .content hread hvisible hrun

theorem IsStoreRefusal.readConfig_or_write (h : IsStoreRefusal file fault) :
    readConfig file = .error fault ∨
      IsMapFile file ∧ ∃ storageFault, fault = .storage storageFault ∧
        file.write "" = .error storageFault := by
  cases h with
  | @reading storageFault hread hne =>
    refine Or.inl ?_
    cases storageFault with
    | notFound => exact absurd rfl hne
    | isDirectory | notDirectory | notText | nameTooLong | nulInPath => simp [readConfig, hread]
  | @content written contentFault hread hvisible hrun =>
    refine Or.inl ?_
    have htrim : (Text.trim written.toList).isEmpty = false := by
      simpa [Text.trim_eq_nil_iff] using hvisible
    simp [readConfig, hread, htrim, hrun, Except.mapError]
  | writing hmap hwrite => exact Or.inr ⟨hmap, _, rfl, hwrite⟩

theorem update_eq_error_of_readUpdate {options : Options} (h : readUpdate id body = .ok options) :
    update file id body = .error fault ↔ IsStoreRefusal file fault := by
  cases hconfig : readConfig file with
  | error other =>
    have hupdate : update file id body = .error other := by
      simp [update, h, hconfig, bind, Except.bind]
    rw [hupdate]
    constructor
    · rintro ⟨⟩
      exact isStoreRefusal_of_readConfig hconfig
    · intro hrefused
      rcases hrefused.readConfig_or_write with hread | ⟨hmap, -⟩
      · cases hconfig.symm.trans hread
        rfl
      · obtain ⟨config, hread⟩ := isMapFile_iff.mp hmap
        cases hconfig.symm.trans hread
  | ok config =>
    have hupdate : update file id body =
        (file.write (configText (merge config id options))).mapError .storage := by
      simp [update, h, hconfig, writeConfig, bind, Except.bind]
    rw [hupdate, mapError_eq_error_iff]
    constructor
    · rintro ⟨storageFault, hwrite, rfl⟩
      exact .writing (isMapFile_iff.mpr ⟨config, hconfig⟩) (File.write_eq_error_iff.mp hwrite)
    · intro hrefused
      rcases hrefused.readConfig_or_write with hread | ⟨-, storageFault, rfl, hwrite⟩
      · cases hconfig.symm.trans hread
      · exact ⟨storageFault, File.write_eq_error_iff.mpr hwrite, rfl⟩

/-- An update is refused by what is posted, or that is in order and the file refuses it. -/
theorem update_eq_error_iff : update file id body = .error fault ↔
    IsClientRefusal id body fault ∨ PassesChecks id body ∧ IsStoreRefusal file fault := by
  cases hread : readUpdate id body with
  | error other =>
    have hnot : ¬PassesChecks id body := fun hpasses => by
      obtain ⟨options, hok⟩ := passesChecks_iff.mp hpasses
      cases hread.symm.trans hok
    have hclient : other = fault ↔ IsClientRefusal id body fault := by
      rw [← readUpdate_eq_error_iff, hread, Except.error.injEq]
    simp [update_of_error hread, hclient, hnot]
  | ok options =>
    have hnot : ¬IsClientRefusal id body fault := fun hrefused => by
      cases hread.symm.trans (readUpdate_eq_error_iff.mpr hrefused)
    have hpasses : PassesChecks id body := passesChecks_iff.mpr ⟨options, hread⟩
    simp [hnot, hpasses, update_eq_error_of_readUpdate hread]

theorem exists_isStoreRefusal_iff :
    (∃ fault, IsStoreRefusal file fault) ↔ ¬(IsMapFile file ∧ file.isWritable) := by
  constructor
  · rintro ⟨fault, hrefused⟩ ⟨hmap, hwritable⟩
    obtain ⟨config, hconfig⟩ := isMapFile_iff.mp hmap
    rcases hrefused.readConfig_or_write with hread | ⟨-, storageFault, -, hwrite⟩
    · cases hconfig.symm.trans hread
    · cases (File.write_of_isWritable hwritable "").symm.trans hwrite
  · intro hnot
    cases hconfig : readConfig file with
    | error fault => exact ⟨fault, isStoreRefusal_of_readConfig hconfig⟩
    | ok config =>
      have hmap : IsMapFile file := isMapFile_iff.mpr ⟨config, hconfig⟩
      obtain ⟨fault, hwrite⟩ := File.exists_write_eq_error fun hwritable => hnot ⟨hmap, hwritable⟩
      exact ⟨_, .writing hmap hwrite⟩

end

end Device

end HomeHub
