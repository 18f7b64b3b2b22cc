import HomeHub.Proofs.Device.Editor

/-!
# Stores that stay well formed

Entities are well formed when they could have been posted one by one. Updates keep them so, since
accepted options over accepted options are accepted, and take neither an entity nor an option away.
-/
namespace HomeHub.Device

/-- Every id is in order and every value is accepted as options. -/
def IsWellFormed (entities : Entities) : Prop :=
  ∀ id value, entities id = some value → isEntityId id ∧ ∃ options, readOptions value = .ok options

/-- No entity and no option of an entity is lost. -/
structure Keeps (before after : Entities) : Prop where
  entities : ∀ id, (before id).isSome → (after id).isSome
  options : ∀ id name, (memberOf? (before id) name).isSome → (memberOf? (after id) name).isSome

/-- What the second file holds keeps what the first one holds. -/
def Grows (file file' : File) : Prop :=
  ∃ before after, Holds file before ∧ Holds file' after ∧ Keeps before after

/-- Each value that a call may store is read back from what is written for it. -/
def Call.IsRestored : Call → Prop
  | .get _ => True
  | .update id body => ∀ posted, IsAccepted id body posted → ∀ o ∈ posted, o.2.IsRestored

/-- Options are no arrays or objects, so their numbers are all that can be lost. -/
theorem Call.isRestored_iff {call : Call} : call.IsRestored ↔ call.IsExact := by
  cases call with
  | get id => exact Iff.rfl
  | update id body =>
    refine forall₂_congr fun posted hposted => forall₂_congr fun o ho => ?_
    obtain ⟨written, -, hread⟩ := hposted.read
    have hreadable := (hposted.options o ho).isReadable ((Json.isReadable_of_read hread).2 o ho)
    exact Json.isRestored_iff.trans (and_iff_right (hreadable _))

theorem Keeps.refl (entities : Entities) : Keeps entities entities :=
  ⟨fun _ h => h, fun _ _ h => h⟩

theorem Keeps.trans {before middle after : Entities} (h : Keeps before middle)
    (h' : Keeps middle after) : Keeps before after where
  entities id hid := h'.entities id (h.entities id hid)
  options id name hname := h'.options id name (h.options id name hname)

theorem Grows.trans {file file' file'' : File} (h : Grows file file') (h' : Grows file' file'') :
    Grows file file'' := by
  obtain ⟨before, middle, hbefore, hmiddle, hkeeps⟩ := h
  obtain ⟨middle', after, hmiddle', hafter, hkeeps'⟩ := h'
  obtain rfl := hmiddle.eq hmiddle'
  exact ⟨before, after, hbefore, hafter, hkeeps.trans hkeeps'⟩

theorem exists_readOptions_iff {members : List (String × Json)} (h : InKeyOrder members) :
    (∃ options, readOptions (.object members) = .ok options) ↔ ∀ m ∈ members, IsOption m := by
  obtain ⟨options, rfl⟩ : ∃ options : Options, options.entries = members := ⟨⟨members, h⟩, rfl⟩
  simp only [readOptions_entries_eq_ok_iff, exists_eq_left']

section

variable {entities after : Entities} {call : Call} {reply : Reply}

theorem IsStep.keeps (h : IsStep entities call reply after) : Keeps entities after := by
  cases h with
  | found _ | malformed _ | refused _ _ => exact .refl entities
  | @updated id _ _ _ _ hoverlay =>
    obtain ⟨members, rfl, -, hmembers⟩ := hoverlay
    refine ⟨fun other hother => ?_, fun other name hname => ?_⟩
    · by_cases hid : other = id
      · simp [hid]
      · simpa [hid] using hother
    · by_cases hid : other = id
      · subst hid
        simp [hmembers, hname]
      · simpa [hid] using hname

/-- The members of an overlay are posted or were accepted before. -/
theorem IsOverlay.exists_readOptions {posted : List (String × Json)} {before : Option Json}
    {value : Json} (h : IsOverlay posted before value) (hposted : ∀ m ∈ posted, IsOption m)
    (hbefore : ∀ members, before = some (.object members) → ∀ m ∈ members, IsOption m) :
    ∃ options, readOptions value = .ok options := by
  obtain ⟨members, rfl, horder, hmembers⟩ := h
  refine (exists_readOptions_iff horder).mpr fun m hm => ?_
  have hlookup := hmembers m.1
  rw [(mem_iff_lookupEntry horder).mp hm] at hlookup
  rcases Option.or_eq_some_iff.mp hlookup.symm with hnew | ⟨-, hold⟩
  · exact hposted m (mem_of_lookupEntry hnew)
  · obtain ⟨old, rfl, hvalue⟩ := memberOf?_eq_some_iff.mp hold
    exact hbefore old rfl m (mem_of_lookupEntry hvalue)

theorem IsStep.isWellFormed (h : IsStep entities call reply after)
    (horder : ∀ id, IsOrdered (entities id)) (hwell : IsWellFormed entities) :
    IsWellFormed after := by
  cases h with
  | found _ | malformed _ | refused _ _ => exact hwell
  | @updated id _ _ _ haccepted hoverlay =>
    intro other value hvalue
    by_cases hother : other = id
    · subst hother
      rw [Function.update_self] at hvalue
      obtain rfl := Option.some.inj hvalue
      refine ⟨haccepted.named, hoverlay.exists_readOptions haccepted.options fun members hold => ?_⟩
      exact (exists_readOptions_iff (horder _ _ hold)).mp (hwell _ _ hold).2
    · rw [Function.update_of_ne hother] at hvalue
      exact hwell other value hvalue

end

section

variable {file : File} {config : Config}

structure IsKept (file : File) (config : Config) : Prop extends IsBacked file config where
  wellFormed : IsWellFormed config.get?

theorem IsKept.perform (h : IsKept file config) (call : Call) (hposted : call.IsRestored) :
    ∃ config', IsKept (call.perform file).2 config' ∧ Keeps config.get? config'.get? := by
  obtain ⟨config', hstep, hbacked⟩ := h.toIsBacked.perform call (Call.isRestored_iff.mp hposted)
  have hwell := hstep.isWellFormed (fun _ _ => h.storable.inKeyOrder) h.wellFormed
  exact ⟨config', ⟨hbacked, hwell⟩, hstep.keeps⟩

theorem IsKept.grows {file' : File} {config' : Config} (h : IsKept file config)
    (h' : IsKept file' config') (hkeeps : Keeps config.get? config'.get?) : Grows file file' :=
  ⟨config.get?, config'.get?, h.holds, h'.holds, hkeeps⟩

/-- Whatever calls come, the file keeps a well-formed config and only gains entities and options. -/
theorem IsKept.performAll (h : IsKept file config) {calls : List Call}
    (hposted : ∀ call ∈ calls, call.IsRestored) :
    (∀ after ∈ (performAll file calls).map Prod.snd, (∃ config', IsKept after config') ∧
      Grows file after) ∧
      ((performAll file calls).map Prod.snd).Pairwise Grows := by
  induction calls generalizing file config with
  | nil => exact ⟨fun _ hm => absurd hm List.not_mem_nil, List.Pairwise.nil⟩
  | cons call calls ih =>
    obtain ⟨hcall, hcalls⟩ := List.forall_mem_cons.mp hposted
    obtain ⟨config', hkept, hkeeps⟩ := h.perform call hcall
    obtain ⟨hafter, hpairs⟩ := ih hkept hcalls
    have hfirst : Grows file (call.perform file).2 := h.grows hkept hkeeps
    refine ⟨List.forall_mem_cons.mpr ⟨⟨⟨config', hkept⟩, hfirst⟩, fun after hmem => ?_⟩,
      List.pairwise_cons.mpr ⟨fun after hmem => (hafter after hmem).2, hpairs⟩⟩
    exact ⟨(hafter after hmem).1, hfirst.trans (hafter after hmem).2⟩

end

/-- A file that is missing, blank or holds well-formed entities is so after every call, and reading it
gives what it holds. No entity and no option of an entity is ever lost from one of the files to a later
one. What is stored has to be read back from what is written for it. -/
theorem performAll_wellFormed {file : File} {entities : Entities} (h : Holds file entities)
    (hwell : IsWellFormed entities)
    (hstored : ∀ id value, entities id = some value → value.IsRestored) {calls : List Call}
    (hposted : ∀ call ∈ calls, call.IsRestored) :
    (∀ after ∈ (performAll file calls).map Prod.snd, ∃ entities', Holds after entities' ∧
      IsWellFormed entities' ∧ Shows after entities') ∧
      (file :: (performAll file calls).map Prod.snd).Pairwise Grows := by
  obtain ⟨config, rfl, hbacked⟩ := h.exists_isBacked fun id value hvalue =>
    (hstored id value hvalue).isExact
  obtain ⟨hafter, hpairs⟩ := IsKept.performAll ⟨hbacked, hwell⟩ hposted
  refine ⟨fun after hmem => ?_, List.pairwise_cons.mpr ⟨fun after hmem => (hafter after hmem).2, hpairs⟩⟩
  obtain ⟨config', hkept⟩ := (hafter after hmem).1
  exact ⟨config'.get?, hkept.holds, hkept.wellFormed, hkept.holds.shows⟩

/-- Options in other forms than the program itself would write them. -/
def porchText : String :=
  "\x7b\"light.a\":\x7b\"ignored\":\"Yes\",\"polling_intensity\":\" +3 \"\x7d,\"lock.c\":\x7b\x7d\x7d"

def porchConfig : Config := .ofList [
  ("light.a", .object [("ignored", .text "Yes"), ("polling_intensity", .text " +3 ")]),
  ("lock.c", .object [])]

theorem read_porchText : Json.read porchText = .ok (.object porchConfig.entries) := by decide +kernel

theorem holds_porchText : Holds (.text porchText) porchConfig.get? := .object read_porchText

theorem isWellFormed_porchConfig : IsWellFormed porchConfig.get? := by
  have hentries : ∀ m ∈ porchConfig.entries, isEntityId m.1 ∧ (readOptions m.2).toOption.isSome := by
    decide +kernel
  intro id value hvalue
  obtain ⟨hid, hoptions⟩ := hentries _ (SortedMap.mem_entries.mpr hvalue)
  refine ⟨hid, ?_⟩
  cases hread : readOptions value with
  | ok options => exact ⟨options, rfl⟩
  | error fault => simp [hread, Except.toOption] at hoptions

theorem isRestored_porchConfig (id : String) (value : Json)
    (h : porchConfig.get? id = some value) : value.IsRestored := by
  have hentries : ∀ m ∈ porchConfig.entries, m.2.IsRestored := by decide +kernel
  exact hentries (id, value) (SortedMap.mem_entries.mpr h)

theorem isRestored_hallCalls : ∀ call ∈ hallCalls, call.IsRestored := fun call hcall =>
  Call.isRestored_iff.mpr (isExact_hallCalls call hcall)

/-- A light and a fan are updated in a store that has no fan yet. -/
theorem porch_staysWellFormed :
    Holds (.text porchText) porchConfig.get? ∧ IsWellFormed porchConfig.get? ∧
      (∀ id value, porchConfig.get? id = some value → value.IsRestored) ∧
      (∀ call ∈ hallCalls, call.IsRestored) ∧
      (∀ after ∈ (performAll (.text porchText) hallCalls).map Prod.snd, ∃ entities,
        Holds after entities ∧ IsWellFormed entities ∧ Shows after entities) ∧
      (.text porchText :: (performAll (.text porchText) hallCalls).map Prod.snd).Pairwise Grows :=
  ⟨holds_porchText, isWellFormed_porchConfig, isRestored_porchConfig, isRestored_hallCalls,
    performAll_wellFormed holds_porchText isWellFormed_porchConfig isRestored_porchConfig
      isRestored_hallCalls⟩

end HomeHub.Device
