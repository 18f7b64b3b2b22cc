import HomeHub.Device.Store
import HomeHub.Proofs.SortedMap

/-!
# Laws of merging

A merge overrides the options of one entity by those of the same name and leaves all else as it is, so
merges that do not contradict each other may be made in any order. The last merge into an entity wins:
merges into it one after the other are one merge of what the last leaves of those before it.
-/
namespace HomeHub.Device

theorem get?_overrideWith (options others : Options) (name : String) :
    (overrideWith options others).get? name = (others.get? name).or (options.get? name) :=
  SortedMap.get?_foldl_insert others.inOrder options name

@[simp] theorem storedOptions_object (options : Options) :
    storedOptions (.object options.entries) = options :=
  SortedMap.ofList_entries options

/-- The options that are stored for an entity, none for an unknown one or anything but an object. -/
def optionsOf (config : Config) (id : String) : Options :=
  ((config.get? id).map storedOptions).getD .empty

theorem get?_merge (config : Config) (id other : String) (options : Options) :
    (merge config id options).get? other =
      if other = id then some (.object (overrideWith (optionsOf config id) options).entries)
      else config.get? other :=
  SortedMap.get?_insert config id other _

theorem optionsOf_merge (config : Config) (id other : String) (options : Options) :
    optionsOf (merge config id options) other =
      if other = id then overrideWith (optionsOf config id) options else optionsOf config other := by
  rw [optionsOf, get?_merge]
  by_cases h : other = id
  · simp [h]
  · simp [h, optionsOf]

/-- Options that give each name they share the same value. -/
def Agree (options others : Options) : Prop :=
  ∀ name v w, options.get? name = some v → others.get? name = some w → v = w

theorem overrideWith_comm {options others : Options} (h : Agree options others) (before : Options) :
    overrideWith (overrideWith before options) others =
      overrideWith (overrideWith before others) options := by
  refine SortedMap.ext_get? fun name => ?_
  simp only [get?_overrideWith]
  cases hv : options.get? name with
  | none => simp
  | some v =>
    cases hw : others.get? name with
    | none => simp
    | some w => simp [h name v w hv hw]

/-- Merges into different entities commute, and so do merges into one entity that agree. -/
theorem merge_comm {id id' : String} {options options' : Options}
    (h : id = id' → Agree options options') (config : Config) :
    merge (merge config id options) id' options' =
      merge (merge config id' options') id options := by
  refine SortedMap.ext_get? fun other => ?_
  simp only [get?_merge, optionsOf_merge]
  by_cases hid : id = id'
  · subst hid
    by_cases hother : other = id
    · simp [hother, overrideWith_comm (h rfl)]
    · simp [hother]
  · by_cases hother : other = id
    · subst hother
      simp [hid]
    · by_cases hother' : other = id'
      · subst hother'
        simp [Ne.symm hid]
      · simp [hother, hother']

theorem overrideWith_assoc (before options others : Options) :
    overrideWith (overrideWith before options) others =
      overrideWith before (overrideWith options others) := by
  refine SortedMap.ext_get? fun name => ?_
  simp only [get?_overrideWith, Option.or_assoc]

theorem overrideWith_self (options : Options) : overrideWith options options = options := by
  refine SortedMap.ext_get? fun name => ?_
  rw [get?_overrideWith, Option.or_self]

theorem optionsOf_object {config : Config} {id : String} {before : Options}
    (h : config.get? id = some (.object before.entries)) : optionsOf config id = before := by
  rw [optionsOf, h, Option.map_some, storedOptions_object, Option.getD_some]

theorem optionsOf_of_not_object {config : Config} {id : String}
    (h : ∀ members, config.get? id ≠ some (.object members)) : optionsOf config id = .empty := by
  unfold optionsOf
  cases hget : config.get? id with
  | none => rfl
  | some value =>
    cases value with
    | object members => exact absurd hget (h members)
    | null | boolean _ | number _ | text _ | array _ => rfl

theorem merge_merge (config : Config) (id : String) (options others : Options) :
    merge (merge config id options) id others = merge config id (overrideWith options others) := by
  refine SortedMap.ext_get? fun other => ?_
  simp only [get?_merge, optionsOf_merge]
  by_cases h : other = id
  · simp [h, overrideWith_assoc]
  · simp [h]

/-- What is stored for an entity after a merge: the merged options, and those of an object before it
that have no merged one of their name. Anything but an object is replaced. -/
theorem exists_get?_merge (config : Config) (id : String) (options : Options) :
    ∃ after : Options, (merge config id options).get? id = some (.object after.entries) ∧
      (∀ before : Options, config.get? id = some (.object before.entries) →
        ∀ name, after.get? name = (options.get? name).or (before.get? name)) ∧
      ((∀ members, config.get? id ≠ some (.object members)) → after = options) := by
  refine ⟨overrideWith (optionsOf config id) options, ?_, fun before hbefore name => ?_, fun hnot => ?_⟩
  · rw [get?_merge, if_pos rfl]
  · rw [get?_overrideWith, optionsOf_object hbefore]
  · refine SortedMap.ext_get? fun name => ?_
    rw [get?_overrideWith, optionsOf_of_not_object hnot, SortedMap.get?_empty, Option.or_none]

/-- Merging is an override per entity in which the last writer wins. Two merges into an entity are one
merge of the first options overridden by the second, a merge counts once however often it is made,
merges commute if they are into different entities or agree, and a merge leaves every other entity and
every option of another name as it is. -/
theorem merge_overrides (config : Config) (id : String) (options others : Options) :
    (∃ both : Options, (∀ name, both.get? name = (others.get? name).or (options.get? name)) ∧
      merge (merge config id options) id others = merge config id both) ∧
    merge (merge config id options) id options = merge config id options ∧
    (∀ id', id ≠ id' → merge (merge config id options) id' others =
      merge (merge config id' others) id options) ∧
    (Agree options others → merge (merge config id options) id others =
      merge (merge config id others) id options) ∧
    (∀ other, other ≠ id → (merge config id options).get? other = config.get? other) ∧
    ∃ after : Options, (merge config id options).get? id = some (.object after.entries) ∧
      (∀ before : Options, config.get? id = some (.object before.entries) →
        ∀ name, after.get? name = (options.get? name).or (before.get? name)) ∧
      ((∀ members, config.get? id ≠ some (.object members)) → after = options) := by
  refine ⟨⟨overrideWith options others, get?_overrideWith options others,
    merge_merge config id options others⟩, ?_, fun id' hne => ?_, fun hagree => ?_,
    fun other hne => ?_, exists_get?_merge config id options⟩
  · rw [merge_merge, overrideWith_self]
  · exact merge_comm (fun heq => absurd heq hne) config
  · exact merge_comm (fun _ => hagree) config
  · rw [get?_merge, if_neg hne]

/-- A light with two options, and a fan with something that is no object. -/
def cellarConfig : Config := .ofList [
  ("light.a", .object [("ignored", .text "no"), ("polling_intensity", .ofNat 2)]),
  ("fan.b", .array [.ofNat 1])]

def polledOptions : Options := .ofList [("polling_intensity", .ofNat 5)]

def hiddenOptions : Options := .ofList [("polling_intensity", .ofNat 5), ("ignored", .boolean true)]

theorem agree_polled_hidden : Agree polledOptions hiddenOptions := by
  have hentries : ∀ m ∈ polledOptions.entries, ∀ n ∈ hiddenOptions.entries, m.1 = n.1 → m.2 = n.2 := by
    decide +kernel
  intro name v w hv hw
  exact hentries _ (SortedMap.mem_entries.mpr hv) _ (SortedMap.mem_entries.mpr hw) rfl

/-- The light keeps the option that is not merged, and the fan gets an object. -/
theorem cellar_overridden :
    (Agree polledOptions hiddenOptions ∧
      merge (merge cellarConfig "light.a" polledOptions) "light.a" hiddenOptions =
        merge (merge cellarConfig "light.a" hiddenOptions) "light.a" polledOptions) ∧
    ("light.a" ≠ "fan.b" ∧
      merge (merge cellarConfig "light.a" polledOptions) "fan.b" hiddenOptions =
        merge (merge cellarConfig "fan.b" hiddenOptions) "light.a" polledOptions) ∧
    ("fan.b" ≠ "light.a" ∧ (merge cellarConfig "light.a" polledOptions).get? "fan.b" =
      some (.array [.ofNat 1])) ∧
    (∃ after : Options,
      (merge cellarConfig "light.a" polledOptions).get? "light.a" = some (.object after.entries) ∧
        after.get? "ignored" = some (.text "no") ∧
        after.get? "polling_intensity" = some (.ofNat 5)) ∧
    (merge cellarConfig "fan.b" polledOptions).get? "fan.b" = some (.object polledOptions.entries) := by
  obtain ⟨-, -, hother, hagree, hkept, after, hafter, hobject, -⟩ :=
    merge_overrides cellarConfig "light.a" polledOptions hiddenOptions
  obtain ⟨-, -, -, -, -, afterFan, hfan, -, hreplaced⟩ :=
    merge_overrides cellarConfig "fan.b" polledOptions hiddenOptions
  have hlight : cellarConfig.get? "light.a" = some (.object
      (SortedMap.ofList [("ignored", Json.text "no"), ("polling_intensity", .ofNat 2)]).entries) := by
    decide +kernel
  have harray : cellarConfig.get? "fan.b" = some (.array [.ofNat 1]) := by decide +kernel
  refine ⟨⟨agree_polled_hidden, hagree agree_polled_hidden⟩, ⟨by decide, hother _ (by decide)⟩,
    ⟨by decide, (hkept _ (by decide)).trans harray⟩, ⟨after, hafter, ?_, ?_⟩, ?_⟩
  · rw [hobject _ hlight]
    decide +kernel
  · rw [hobject _ hlight]
    decide +kernel
  · obtain rfl : afterFan = polledOptions := hreplaced fun members h => by cases harray.symm.trans h
    exact hfan

end HomeHub.Device
