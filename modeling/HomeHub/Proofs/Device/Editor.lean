import HomeHub.Proofs.Device.ConfigText
import Mathlib.Logic.Function.Basic

/-!
# Calls on a store as steps of a map

What a file holds is a map from entities to values. Reading gives the value of an entity, and an
accepted update puts the posted members over those that the entity has. The file is read whole and
written whole by every update; after each call it holds the map that these steps give.
-/
namespace HomeHub.Device

inductive Call where
  | get (id : String)
  | update (id : String) (body : ByteArray)

inductive Reply where
  | found (value : Json)
  | updated
  | failed (fault : DeviceFault)
  deriving DecidableEq

def Call.perform (file : File) : Call → Reply × File
  | .get id =>
    match Device.get file id with
    | .ok value => (.found value, file)
    | .error fault => (.failed fault, file)
  | .update id body =>
    match Device.update file id body with
    | .ok after => (.updated, after)
    | .error fault => (.failed fault, file)

/-- The replies to calls one after the other, each with the file after it. -/
def performAll : File → List Call → List (Reply × File)
  | _, [] => []
  | file, call :: calls => call.perform file :: performAll (call.perform file).2 calls

abbrev Entities := String → Option Json

def memberOf? : Option Json → String → Option Json
  | some (.object members), name => lookupEntry name members
  | _, _ => none

@[simp] theorem memberOf?_object (members : List (String × Json)) (name : String) :
    memberOf? (some (.object members)) name = lookupEntry name members := rfl

theorem memberOf?_eq_some_iff {stored : Option Json} {name : String} {value : Json} :
    memberOf? stored name = some value ↔
      ∃ members, stored = some (.object members) ∧ lookupEntry name members = some value := by
  unfold memberOf?
  split
  · simp
  · rename_i hnot
    refine iff_of_false (by simp) ?_
    rintro ⟨members, rfl, -⟩
    exact hnot members rfl

/-- If it is an object, then its members are in key order. -/
def IsOrdered (stored : Option Json) : Prop :=
  ∀ members, stored = some (.object members) → InKeyOrder members

theorem isOrdered_object (options : Options) : IsOrdered (some (.object options.entries)) := by
  rintro _ ⟨⟩
  exact options.inOrder

/-- An object of the posted members and of those before that have other names. -/
def IsOverlay (posted : List (String × Json)) (before : Option Json) (after : Json) : Prop :=
  ∃ members, after = .object members ∧ InKeyOrder members ∧
    ∀ name, lookupEntry name members = (lookupEntry name posted).or (memberOf? before name)

/-- How a call is answered and what it makes of the entities. -/
inductive IsStep (entities : Entities) : Call → Reply → Entities → Prop
  | found {id : String} : isEntityId id →
      IsStep entities (.get id) (.found ((entities id).getD (.object []))) entities
  | malformed {id : String} : ¬isEntityId id →
      IsStep entities (.get id) (.failed (.invalidId id)) entities
  | updated {id : String} {body : ByteArray} {posted : List (String × Json)} {after : Json} :
      IsAccepted id body posted → IsOverlay posted (entities id) after →
        IsStep entities (.update id body) .updated (Function.update entities id (some after))
  | refused {id : String} {body : ByteArray} {fault : DeviceFault} :
      (∀ posted, ¬IsAccepted id body posted) → fault.isClientFault →
        IsStep entities (.update id body) (.failed fault) entities

/-- Reading a file gives these entities. -/
def Shows (file : File) (entities : Entities) : Prop :=
  ∃ config, readConfig file = .ok config ∧ config.get? = entities

/-- Calls answered step by step, with a file that shows the entities after each of them. -/
inductive IsRun : Entities → List Call → List (Reply × File) → Prop
  | done {entities : Entities} : IsRun entities [] []
  | call {entities after : Entities} {call : Call} {calls : List Call} {reply : Reply} {file : File}
      {replies : List (Reply × File)} : IsStep entities call reply after → Shows file after →
        IsRun after calls replies → IsRun entities (call :: calls) ((reply, file) :: replies)

/-- A missing or blank file holds no entities, any other those of its object. -/
inductive Holds : File → Entities → Prop
  | absent : Holds .absent fun _ => none
  | blank {written : String} : (∀ c ∈ written.toList, Text.isBlank c) →
      Holds (.text written) fun _ => none
  | object {written : String} {members : List (String × Json)} :
      Json.read written = .ok (.object members) →
        Holds (.text written) fun id => lookupEntry id members

theorem Holds.shows {file : File} {entities : Entities} (h : Holds file entities) :
    Shows file entities := by
  cases h with
  | absent => exact ⟨.empty, readConfig_absent, rfl⟩
  | blank hblank => exact ⟨.empty, readConfig_blank hblank, rfl⟩
  | object hread =>
    obtain ⟨config, rfl⟩ := exists_entries_of_read hread
    exact ⟨config, readConfig_of_read hread, rfl⟩

theorem Holds.eq {file : File} {entities others : Entities} (h : Holds file entities)
    (h' : Holds file others) : entities = others := by
  obtain ⟨config, hread, rfl⟩ := h.shows
  obtain ⟨config', hread', rfl⟩ := h'.shows
  rw [Except.ok.inj (hread.symm.trans hread')]

/-- All that a call may store is read back from what is written for it. -/
def Call.IsExact : Call → Prop
  | .get _ => True
  | .update id body => ∀ posted, IsAccepted id body posted → ∀ o ∈ posted, o.2.IsExact

section

variable {id : String} {body : ByteArray}

theorem Call.isExact_update_of_ok {options : Options} (h : readUpdate id body = .ok options)
    (hexact : (Json.object options.entries).IsExact) : (Call.update id body).IsExact := by
  intro posted hposted
  obtain ⟨options', rfl, hok⟩ := hposted.exists_readUpdate
  obtain rfl := Except.ok.inj (h.symm.trans hok)
  exact Json.isExact_object.mp hexact

theorem not_isAccepted_of_error {fault : DeviceFault} (h : readUpdate id body = .error fault)
    (posted : List (String × Json)) : ¬IsAccepted id body posted := by
  intro hposted
  obtain ⟨options, -, hok⟩ := hposted.exists_readUpdate
  cases h.symm.trans hok

end

/-- A file that can be written, with a config that is read back once it is written. -/
structure IsBacked (file : File) (config : Config) : Prop where
  read : readConfig file = .ok config
  writable : ∀ written, file.write written = .ok (.text written)
  storable : IsStorable config

theorem isBacked_of_isStorable {config : Config} (h : IsStorable config) :
    IsBacked (.text (configText config)) config :=
  ⟨h.readConfig_configText, fun _ => rfl, h⟩

theorem IsBacked.holds {file : File} {config : Config} (h : IsBacked file config) :
    Holds file config.get? := by
  have hread := h.read
  cases file with
  | absent =>
    obtain rfl := Except.ok.inj (readConfig_absent.symm.trans hread)
    exact .absent
  | text written =>
    by_cases hblank : ∀ c ∈ written.toList, Text.isBlank c
    · obtain rfl := Except.ok.inj ((readConfig_blank hblank).symm.trans hread)
      exact .blank hblank
    · exact .object (read_of_readConfig hread hblank)
  | binary _ | directory => cases hread
  | unreachable _ _ => cases h.writable ""

theorem Holds.exists_isBacked {file : File} {entities : Entities} (h : Holds file entities)
    (hexact : ∀ id value, entities id = some value → value.IsExact) :
    ∃ config : Config, config.get? = entities ∧ IsBacked file config := by
  have hempty : IsStorable .empty :=
    ⟨⟨List.Pairwise.nil, fun _ hm => absurd hm List.not_mem_nil⟩,
      Json.isExact_object.mpr fun _ hm => absurd hm List.not_mem_nil⟩
  cases h with
  | absent => exact ⟨.empty, rfl, readConfig_absent, fun _ => rfl, hempty⟩
  | blank hblank => exact ⟨.empty, rfl, readConfig_blank hblank, fun _ => rfl, hempty⟩
  | object hread =>
    obtain ⟨config, rfl⟩ := exists_entries_of_read hread
    refine ⟨config, rfl, readConfig_of_read hread, fun _ => rfl, Json.isReadable_of_read hread, ?_⟩
    exact Json.isExact_object.mpr fun m hm => hexact m.1 m.2 (SortedMap.mem_entries.mp hm)

section

variable {file : File} {config : Config} {id : String}

theorem get_of_isEntityId (h : IsBacked file config) (hid : isEntityId id) :
    Device.get file id = .ok ((config.get? id).getD (.object [])) := by
  simp [Device.get, hid, h.read, bind, Except.bind]

theorem get_of_not_isEntityId (hid : ¬isEntityId id) :
    Device.get file id = .error (.invalidId id) := by
  simp [Device.get, hid]

theorem update_of_error {body : ByteArray} {fault : DeviceFault}
    (hupdate : readUpdate id body = .error fault) : Device.update file id body = .error fault := by
  simp [Device.update, hupdate, bind, Except.bind]

theorem update_of_ok (h : IsBacked file config) {body : ByteArray} {options : Options}
    (hupdate : readUpdate id body = .ok options) :
    Device.update file id body = .ok (.text (configText (merge config id options))) := by
  simp [Device.update, hupdate, h.read, writeConfig, h.writable, bind, Except.bind, Except.mapError]

theorem get?_optionsOf (h : IsOrdered (config.get? id)) (name : String) :
    (optionsOf config id).get? name = memberOf? (config.get? id) name := by
  unfold optionsOf
  cases hget : config.get? id with
  | none => rfl
  | some value =>
    cases value with
    | object members => exact SortedMap.get?_ofList (h members hget) name
    | null | boolean _ | number _ | text _ | array _ => rfl

theorem isOverlay_merge (h : IsOrdered (config.get? id)) (options : Options) :
    IsOverlay options.entries (config.get? id)
      (.object (overrideWith (optionsOf config id) options).entries) := by
  refine ⟨_, rfl, SortedMap.inOrder _, fun name => ?_⟩
  have hname := get?_overrideWith (optionsOf config id) options name
  rwa [get?_optionsOf h] at hname

theorem IsBacked.merge (h : IsBacked file config) {body : ByteArray} {options : Options}
    (hupdate : IsAccepted id body options.entries) (hexact : (Call.update id body).IsExact) :
    IsBacked (.text (configText (merge config id options))) (merge config id options) := by
  obtain ⟨written, -, hread⟩ := hupdate.read
  refine isBacked_of_isStorable (h.storable.merge fun o ho => ?_)
  exact ⟨hupdate.options o ho, ⟨_, (Json.isReadable_of_read hread).2 o ho⟩, hexact _ hupdate o ho⟩

/-- One call is one step of the entities, and the file backs what they have become. -/
theorem IsBacked.perform (h : IsBacked file config) (call : Call) (hexact : call.IsExact) :
    ∃ config' : Config, IsStep config.get? call (call.perform file).1 config'.get? ∧
      IsBacked (call.perform file).2 config' := by
  cases call with
  | get id =>
    by_cases hid : isEntityId id
    · simp only [Call.perform, get_of_isEntityId h hid]
      exact ⟨config, .found hid, h⟩
    · simp only [Call.perform, get_of_not_isEntityId hid]
      exact ⟨config, .malformed hid, h⟩
  | update id body =>
    cases hupdate : readUpdate id body with
    | error fault =>
      simp only [Call.perform, update_of_error hupdate]
      have hrefused := not_isAccepted_of_error hupdate
      exact ⟨config, .refused hrefused (isClientFault_of_readUpdate hupdate), h⟩
    | ok options =>
      have haccepted := readUpdate_eq_ok_iff.mp hupdate
      have hget : (Device.merge config id options).get? = Function.update config.get? id
          (some (.object (overrideWith (optionsOf config id) options).entries)) := by
        funext other
        rw [get?_merge, Function.update_apply]
      simp only [Call.perform, update_of_ok h hupdate]
      refine ⟨Device.merge config id options, ?_, h.merge haccepted hexact⟩
      rw [hget]
      exact .updated haccepted (isOverlay_merge (fun _ => h.storable.inKeyOrder) options)

theorem IsBacked.isRun (h : IsBacked file config) {calls : List Call}
    (hexact : ∀ call ∈ calls, call.IsExact) : IsRun config.get? calls (performAll file calls) := by
  induction calls generalizing file config with
  | nil => exact .done
  | cons call calls ih =>
    obtain ⟨hcall, hcalls⟩ := List.forall_mem_cons.mp hexact
    obtain ⟨config', hstep, hbacked⟩ := h.perform call hcall
    exact .call hstep ⟨config', hbacked.read, rfl⟩ (ih hbacked hcalls)

end

/-- Calls on a file are steps of the entities that it holds, and after each call a fresh reading of the
file shows them. -/
theorem performAll_refines {file : File} {entities : Entities} (h : Holds file entities)
    (hstored : ∀ id value, entities id = some value → value.IsExact) {calls : List Call}
    (hposted : ∀ call ∈ calls, call.IsExact) :
    Shows file entities ∧ IsRun entities calls (performAll file calls) := by
  obtain ⟨config, rfl, hbacked⟩ := h.exists_isBacked hstored
  exact ⟨⟨config, hbacked.read, rfl⟩, hbacked.isRun hposted⟩

/-- The options of a light and something else that is no object. -/
def hallText : String :=
  "\x7b\"fan.b\":7,\"light.a\":\x7b\"polling_intensity\":2.5,\"room\":\"hall\"\x7d\x7d"

def hallMembers : List (String × Json) :=
  [("fan.b", .ofNat 7), ("light.a", .object
    [("polling_intensity", .number (.real (.ofRatio false 5 2))), ("room", .text "hall")])]

def lightBody : ByteArray := "\x7b\"ignored\":true,\"polling_intensity\":1\x7d".toUTF8

def fanBody : ByteArray := "\x7b\"polling_intensity\":0.5\x7d".toUTF8

def colourBody : ByteArray := "\x7b\"colour\":1\x7d".toUTF8

def hallCalls : List Call :=
  [.update "light.a" lightBody, .get "light.a", .update "fan.b" fanBody, .update "fan.b" colourBody,
    .get "fan.b", .get "Fan"]

theorem read_hallText : Json.read hallText = .ok (.object hallMembers) := by decide +kernel

theorem isExact_hallMembers (id : String) (value : Json)
    (h : lookupEntry id hallMembers = some value) : value.IsExact := by
  have hexact : (Json.object hallMembers).IsExact := by
    unfold Json.IsExact
    decide +kernel
  have horder : InKeyOrder hallMembers := (Json.isReadable_of_read read_hallText).1
  exact Json.isExact_object.mp hexact _ ((mem_iff_lookupEntry horder).mpr h)

theorem isExact_hallCalls : ∀ call ∈ hallCalls, call.IsExact := by
  have hlight : readUpdate "light.a" lightBody =
      .ok (.ofList [("ignored", .boolean true), ("polling_intensity", .ofNat 1)]) := by decide +kernel
  have hfan : readUpdate "fan.b" fanBody =
      .ok (.ofList [("polling_intensity", .number (.real (.ofRatio false 1 2)))]) := by decide +kernel
  have hcolour : readUpdate "fan.b" colourBody =
      .error (.invalidData (.unknownOption "colour")) := by decide +kernel
  have hlightExact := Call.isExact_update_of_ok hlight (by unfold Json.IsExact; decide +kernel)
  have hfanExact := Call.isExact_update_of_ok hfan (by unfold Json.IsExact; decide +kernel)
  have hcolourExact : (Call.update "fan.b" colourBody).IsExact := fun posted hposted =>
    absurd hposted (not_isAccepted_of_error hcolour posted)
  simp only [hallCalls, List.forall_mem_cons]
  exact ⟨hlightExact, trivial, hfanExact, hcolourExact, trivial, trivial,
    fun _ h => absurd h List.not_mem_nil⟩

/-- A light and a fan are updated, and two calls are refused. -/
theorem hallCalls_refined :
    Holds (.text hallText) (fun id => lookupEntry id hallMembers) ∧
      (performAll (.text hallText) hallCalls).map Prod.fst =
        [.updated, .found (.object [("ignored", .boolean true), ("polling_intensity", .ofNat 1),
            ("room", .text "hall")]), .updated,
          .failed (.invalidData (.unknownOption "colour")),
          .found (.object [("polling_intensity", .number (.real (.ofRatio false 1 2)))]),
          .failed (.invalidId "Fan")] ∧
      Shows (.text hallText) (fun id => lookupEntry id hallMembers) ∧
      IsRun (fun id => lookupEntry id hallMembers) hallCalls
        (performAll (.text hallText) hallCalls) :=
  ⟨.object read_hallText, by decide +kernel,
    performAll_refines (.object read_hallText) isExact_hallMembers isExact_hallCalls⟩

end HomeHub.Device
