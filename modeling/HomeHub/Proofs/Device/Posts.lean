import HomeHub.Proofs.Device.Editor

/-!
# Posts merged one after the other

Each option has the value of the last post that sets it, or else the one that it had before. Posts that
do not contradict each other may be merged in any order.
-/
namespace HomeHub.Device

structure Post where
  id : String
  body : ByteArray

namespace Post

/-- The merge that a post asks for, none if it is refused. -/
def mergeInto (post : Post) (config : Config) : Config :=
  match readUpdate post.id post.body with
  | .ok options => merge config post.id options
  | .error _ => config

def IsAccepted (post : Post) : Prop := ∃ posted, Device.IsAccepted post.id post.body posted

/-- A post is accepted and has this value for an option of an entity. -/
def Sets (post : Post) (id name : String) (value : Json) : Prop :=
  post.id = id ∧ ∃ posted, Device.IsAccepted id post.body posted ∧ lookupEntry name posted = some value

/-- Two posts do not set one option of one entity to different values. -/
def IsCompatible (post other : Post) : Prop :=
  ∀ id name v w, post.Sets id name v → other.Sets id name w → v = w

section

variable {post : Post} {config : Config} {options : Options} {id name : String} {value : Json}

theorem sets_iff (h : readUpdate post.id post.body = .ok options) :
    post.Sets id name value ↔ post.id = id ∧ options.get? name = some value := by
  constructor
  · rintro ⟨rfl, posted, haccepted, hvalue⟩
    obtain ⟨options', rfl, hread⟩ := haccepted.exists_readUpdate
    obtain rfl := Except.ok.inj (h.symm.trans hread)
    exact ⟨rfl, hvalue⟩
  · rintro ⟨rfl, hvalue⟩
    exact ⟨rfl, options.entries, readUpdate_eq_ok_iff.mp h, hvalue⟩

theorem mergeInto_of_ok (h : readUpdate post.id post.body = .ok options) (config : Config) :
    post.mergeInto config = merge config post.id options := by
  rw [mergeInto, h]

theorem mergeInto_of_error {fault : DeviceFault} (h : readUpdate post.id post.body = .error fault)
    (config : Config) : post.mergeInto config = config := by
  rw [mergeInto, h]

theorem mergeInto_comm {other : Post} (h : post.IsCompatible other) (config : Config) :
    other.mergeInto (post.mergeInto config) = post.mergeInto (other.mergeInto config) := by
  cases hp : readUpdate post.id post.body with
  | error fault => simp only [mergeInto_of_error hp]
  | ok options =>
    cases ho : readUpdate other.id other.body with
    | error fault => simp only [mergeInto_of_error ho]
    | ok options' =>
      simp only [mergeInto_of_ok hp, mergeInto_of_ok ho]
      refine merge_comm (fun hid name v w hv hw => ?_) config
      exact h post.id name v w ((sets_iff hp).mpr ⟨rfl, hv⟩) ((sets_iff ho).mpr ⟨hid.symm, hw⟩)

theorem get?_mergeInto_of_ne (h : post.id ≠ id) (config : Config) :
    (post.mergeInto config).get? id = config.get? id := by
  cases hread : readUpdate post.id post.body with
  | error fault => rw [mergeInto_of_error hread]
  | ok options => rw [mergeInto_of_ok hread, get?_merge, if_neg (Ne.symm h)]

theorem exists_get?_mergeInto (h : post.IsAccepted) (config : Config) :
    ∃ after : Options, (post.mergeInto config).get? post.id = some (.object after.entries) := by
  obtain ⟨posted, haccepted⟩ := h
  obtain ⟨options, -, hread⟩ := haccepted.exists_readUpdate
  exact ⟨_, by rw [mergeInto_of_ok hread, get?_merge, if_pos rfl]⟩

/-- No merge makes anything else of an object. -/
theorem exists_get?_mergeInto_of_object
    (h : ∃ before : Options, config.get? id = some (.object before.entries)) (post : Post) :
    ∃ after : Options, (post.mergeInto config).get? id = some (.object after.entries) := by
  cases hread : readUpdate post.id post.body with
  | error fault =>
    rw [mergeInto_of_error hread]
    exact h
  | ok options =>
    by_cases hid : post.id = id
    · subst hid
      exact exists_get?_mergeInto ⟨_, readUpdate_eq_ok_iff.mp hread⟩ config
    · rw [get?_mergeInto_of_ne hid]
      exact h

theorem isOrdered_mergeInto (h : IsOrdered (config.get? id)) (post : Post) :
    IsOrdered ((post.mergeInto config).get? id) := by
  cases hread : readUpdate post.id post.body with
  | error fault => rwa [mergeInto_of_error hread]
  | ok options =>
    rw [mergeInto_of_ok hread, get?_merge]
    split_ifs
    · exact isOrdered_object _
    · exact h

theorem Sets.memberOf?_mergeInto (h : post.Sets id name value) (config : Config) :
    memberOf? ((post.mergeInto config).get? id) name = some value := by
  obtain ⟨rfl, posted, haccepted, hvalue⟩ := h
  obtain ⟨options, rfl, hread⟩ := haccepted.exists_readUpdate
  have hoptions : options.get? name = some value := hvalue
  rw [mergeInto_of_ok hread, get?_merge, if_pos rfl]
  exact (get?_overrideWith _ options name).trans (by rw [hoptions, Option.some_or])

theorem memberOf?_mergeInto_of_not_sets (h : ∀ value, ¬post.Sets id name value)
    (horder : IsOrdered (config.get? id)) :
    memberOf? ((post.mergeInto config).get? id) name = memberOf? (config.get? id) name := by
  cases hread : readUpdate post.id post.body with
  | error fault => rw [mergeInto_of_error hread]
  | ok options =>
    by_cases hid : post.id = id
    · subst hid
      have hnone : options.get? name = none := Option.eq_none_iff_forall_ne_some.mpr
        fun value hvalue => h value ((sets_iff hread).mpr ⟨rfl, hvalue⟩)
      rw [mergeInto_of_ok hread, get?_merge, if_pos rfl, ← get?_optionsOf horder]
      exact (get?_overrideWith _ options name).trans (by rw [hnone, Option.none_or])
    · rw [get?_mergeInto_of_ne hid]

end

end Post

def mergeAll (config : Config) (posts : List Post) : Config :=
  posts.foldl (fun c post => post.mergeInto c) config

/-- What posts make of the entities. The last post that sets an option of an entity decides its value, and
an option that none sets has the value that it had, members being in key order as reading leaves them. An
entity with a post is an object, whatever it was before, and one without is as it was. -/
structure LastWins (posts : List Post) (before after : Entities) : Prop where
  set : ∀ earlier post later, posts = earlier ++ post :: later → ∀ id name value,
    post.Sets id name value → (∀ p ∈ later, ∀ w, ¬p.Sets id name w) →
      memberOf? (after id) name = some value
  unset : ∀ id name, (∀ post ∈ posts, ∀ value, ¬post.Sets id name value) → IsOrdered (before id) →
    memberOf? (after id) name = memberOf? (before id) name
  object : ∀ post ∈ posts, ∃ options : Options, after post.id = some (.object options.entries)
  untouched : ∀ id, (∀ post ∈ posts, post.id ≠ id) → after id = before id

section

variable {posts : List Post} {config : Config} {id name : String}

theorem mergeAll_append_cons (config : Config) (earlier later : List Post) (post : Post) :
    mergeAll config (earlier ++ post :: later) =
      mergeAll (post.mergeInto (mergeAll config earlier)) later := by
  simp [mergeAll]

theorem get?_mergeAll_of_ne (h : ∀ post ∈ posts, post.id ≠ id) :
    (mergeAll config posts).get? id = config.get? id :=
  List.foldlRecOn posts _ (motive := fun (c : Config) => c.get? id = config.get? id) rfl
    fun c hc post hpost => (Post.get?_mergeInto_of_ne (h post hpost) c).trans hc

theorem exists_get?_mergeAll_of_object
    (h : ∃ before : Options, config.get? id = some (.object before.entries)) (posts : List Post) :
    ∃ after : Options, (mergeAll config posts).get? id = some (.object after.entries) :=
  List.foldlRecOn posts _
    (motive := fun (c : Config) => ∃ after : Options, c.get? id = some (.object after.entries)) h
    fun _ hc post _ => Post.exists_get?_mergeInto_of_object hc post

theorem memberOf?_mergeAll_of_not_sets (h : ∀ post ∈ posts, ∀ value, ¬post.Sets id name value)
    (horder : IsOrdered (config.get? id)) :
    memberOf? ((mergeAll config posts).get? id) name = memberOf? (config.get? id) name := by
  induction posts generalizing config with
  | nil => rfl
  | cons post posts ih =>
    obtain ⟨hpost, hposts⟩ := List.forall_mem_cons.mp h
    calc memberOf? ((mergeAll config (post :: posts)).get? id) name
        = memberOf? ((post.mergeInto config).get? id) name :=
          ih hposts (Post.isOrdered_mergeInto horder post)
      _ = memberOf? (config.get? id) name := Post.memberOf?_mergeInto_of_not_sets hpost horder

theorem lastWins_mergeAll (h : ∀ post ∈ posts, post.IsAccepted) (config : Config) :
    LastWins posts config.get? (mergeAll config posts).get? where
  set := by
    rintro earlier post later rfl id name value hsets hlater
    obtain rfl := hsets.1
    obtain ⟨options, hobject⟩ :=
      Post.exists_get?_mergeInto (h post (by simp)) (mergeAll config earlier)
    have horder : IsOrdered ((post.mergeInto (mergeAll config earlier)).get? post.id) :=
      hobject ▸ isOrdered_object options
    rw [mergeAll_append_cons, memberOf?_mergeAll_of_not_sets hlater horder]
    exact hsets.memberOf?_mergeInto _
  unset id name hnone horder := memberOf?_mergeAll_of_not_sets hnone horder
  object post hpost := by
    obtain ⟨earlier, later, rfl⟩ := List.append_of_mem hpost
    rw [mergeAll_append_cons]
    exact exists_get?_mergeAll_of_object (Post.exists_get?_mergeInto (h post hpost) _) later
  untouched id hne := get?_mergeAll_of_ne hne

end

end HomeHub.Device
