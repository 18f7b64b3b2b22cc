import HomeHub.Device.Store
import HomeHub.Proofs.Json.Readable
import HomeHub.Proofs.SortedMap

/-!
# Updates that are accepted

An update is accepted when its body is an object of options and its entity id is in order. All others
are the caller's fault.
-/
namespace HomeHub.Device

def IsOption (m : String × Json) : Prop :=
  ∃ accepts, acceptance? m.1 = some accepts ∧ accepts m.2

structure IsAccepted (id : String) (body : ByteArray) (posted : List (String × Json)) : Prop where
  named : isEntityId id
  read : ∃ written, String.fromUTF8? body = some written ∧ Json.read written = .ok (.object posted)
  options : ∀ m ∈ posted, IsOption m

theorem memberFault?_eq_none_iff {m : String × Json} :
    memberFault? m.1 m.2 = none ↔ IsOption m := by
  unfold memberFault? IsOption
  cases acceptance? m.1 with
  | none => simp
  | some accepts => simp

theorem readBody_eq_ok_iff {body : ByteArray} {data : Json} :
    readBody body = .ok data ↔
      ∃ written, String.fromUTF8? body = some written ∧ Json.read written = .ok data := by
  unfold readBody
  cases String.fromUTF8? body with
  | none => simp
  | some written => cases hread : Json.read written <;> simp [hread, Except.mapError]

theorem readOptions_entries_eq_ok_iff {members options : Options} :
    readOptions (.object members.entries) = .ok options ↔
      members = options ∧ ∀ m ∈ members.entries, IsOption m := by
  have hnone : (members.entries.findSome? fun m => memberFault? m.1 m.2) = none ↔
      ∀ m ∈ members.entries, IsOption m := by
    simp only [List.findSome?_eq_none_iff, memberFault?_eq_none_iff]
  simp only [readOptions, SortedMap.ofList_entries, ← hnone]
  split
  · rename_i fault hfault
    simp [hfault]
  · rename_i hfault
    simp [hfault]

theorem exists_entries_of_read {written : String} {members : List (String × Json)}
    (h : Json.read written = .ok (.object members)) :
    ∃ options : Options, options.entries = members :=
  ⟨⟨members, (Json.isReadable_of_read h).1⟩, rfl⟩

section

variable {id : String} {body : ByteArray}

theorem readUpdate_of_body_error {fault : DeviceFault} (h : readBody body = .error fault) :
    readUpdate id body = .error fault := by
  simp only [readUpdate, bind, Except.bind, h]

theorem readUpdate_of_body {data : Json} (h : readBody body = .ok data) :
    readUpdate id body =
      if isEntityId id then (readOptions data).mapError .invalidData else .error (.invalidId id) := by
  simp only [readUpdate, bind, Except.bind, h]
  cases isEntityId id <;> rfl

theorem readUpdate_eq_ok_iff {options : Options} :
    readUpdate id body = .ok options ↔ IsAccepted id body options.entries := by
  constructor
  · intro h
    cases hbody : readBody body with
    | error fault => cases (readUpdate_of_body_error hbody).symm.trans h
    | ok data =>
      rw [readUpdate_of_body hbody] at h
      split_ifs at h with hid
      have hoptions : readOptions data = .ok options := by
        cases hdata : readOptions data with
        | error fault => simp [hdata, Except.mapError] at h
        | ok options' => simpa [hdata, Except.mapError] using h
      obtain ⟨written, hutf, hread⟩ := readBody_eq_ok_iff.mp hbody
      cases data with
      | object members =>
        obtain ⟨posted, rfl⟩ := exists_entries_of_read hread
        obtain ⟨rfl, hall⟩ := readOptions_entries_eq_ok_iff.mp hoptions
        exact ⟨hid, ⟨written, hutf, hread⟩, hall⟩
      | null | boolean _ | number _ | text _ | array _ => cases hoptions
  · rintro ⟨hid, hread, hall⟩
    rw [readUpdate_of_body (readBody_eq_ok_iff.mpr hread), if_pos hid,
      readOptions_entries_eq_ok_iff.mpr ⟨rfl, hall⟩]
    rfl

theorem IsAccepted.exists_readUpdate {posted : List (String × Json)}
    (h : IsAccepted id body posted) :
    ∃ options : Options, options.entries = posted ∧ readUpdate id body = .ok options := by
  obtain ⟨written, -, hread⟩ := h.read
  obtain ⟨options, rfl⟩ := exists_entries_of_read hread
  exact ⟨options, rfl, readUpdate_eq_ok_iff.mpr h⟩

theorem isClientFault_of_readBody {fault : DeviceFault} (h : readBody body = .error fault) :
    fault.isClientFault := by
  unfold readBody at h
  split at h
  · cases h
    rfl
  · rename_i written _
    cases hread : Json.read written with
    | ok data => simp [hread, Except.mapError] at h
    | error e =>
      rw [hread] at h
      cases h
      rfl

theorem isClientFault_of_readUpdate {fault : DeviceFault} (h : readUpdate id body = .error fault) :
    fault.isClientFault := by
  cases hbody : readBody body with
  | error bodyFault =>
    obtain rfl := Except.error.inj ((readUpdate_of_body_error hbody).symm.trans h)
    exact isClientFault_of_readBody hbody
  | ok data =>
    rw [readUpdate_of_body hbody] at h
    split_ifs at h with hid
    · cases hdata : readOptions data with
      | ok options => simp [hdata, Except.mapError] at h
      | error dataFault =>
        rw [hdata] at h
        cases h
        rfl
    · cases h
      rfl

end

end HomeHub.Device
