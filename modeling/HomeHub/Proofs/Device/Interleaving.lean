import HomeHub.Proofs.Device.Posts
import Mathlib.Data.List.Perm.Basic

/-!
# Updates that run at the same time

Each call checks what was posted, takes the lock, reads the store, merges, writes the store and releases
the lock; calls may take their steps in any order, and reading and writing may fail. As what a call has
read stays stored until it writes, the calls that end well are merged one after the other.
-/
namespace HomeHub.Device

inductive Phase where
  | started
  /-- Its options are in order. -/
  | waiting (options : Options)
  | locked (options : Options)
  | fetched (options : Options) (config : Config)
  | merged (config : Config)
  /-- It still holds the lock. -/
  | leaving (result : Except DeviceFault Unit)
  | returned (result : Except DeviceFault Unit)

namespace Phase

def holdsLock : Phase → Bool
  | locked _ | fetched .. | merged _ | leaving _ => true
  | started | waiting _ | returned _ => false

/-- Whether the lock is not needed any more or has been taken. -/
def isPast : Phase → Bool
  | started | waiting _ => false
  | _ => true

def isCommitted : Phase → Bool
  | leaving (.ok ()) | returned (.ok ()) => true
  | _ => false

/-- What a call has in hand comes from what was posted and from what is stored. -/
def IsCurrent (post : Post) (stored : Config) : Phase → Prop
  | started => True
  | waiting options | locked options => readUpdate post.id post.body = .ok options
  | fetched options config => readUpdate post.id post.body = .ok options ∧ config = stored
  | merged config => post.IsAccepted ∧ config = post.mergeInto stored
  | leaving result | returned result => result = .ok () → post.IsAccepted

theorem IsCurrent.of_not_holdsLock {post : Post} {stored : Config} {phase : Phase}
    (h : phase.IsCurrent post stored) (hlock : ¬phase.holdsLock) (config : Config) :
    phase.IsCurrent post config := by
  cases phase with
  | started => trivial
  | waiting options => exact h
  | locked options => exact absurd rfl hlock
  | fetched options config' => exact absurd rfl hlock
  | merged config' => exact absurd rfl hlock
  | leaving result => exact h
  | returned result => exact h

end Phase

universe u

variable {ι : Type u} [DecidableEq ι]

structure Editing (ι : Type u) where
  stored : Config
  lock : Option ι
  /-- The calls that have taken the lock, in order. -/
  order : List ι
  phase : ι → Phase

namespace Editing

def start (config : Config) : Editing ι := ⟨config, none, [], fun _ => .started⟩

def enter (e : Editing ι) (i : ι) (phase : Phase) : Editing ι :=
  { e with phase := Function.update e.phase i phase }

inductive Step (posts : ι → Post) : Editing ι → Editing ι → Prop
  | accept {e : Editing ι} {i : ι} {options : Options} :
    e.phase i = .started → readUpdate (posts i).id (posts i).body = .ok options →
      Step posts e (e.enter i (.waiting options))
  | refuse {e : Editing ι} {i : ι} {fault : DeviceFault} :
    e.phase i = .started → readUpdate (posts i).id (posts i).body = .error fault →
      Step posts e (e.enter i (.returned (.error fault)))
  | acquire {e : Editing ι} {i : ι} {options : Options} :
    e.phase i = .waiting options → e.lock = none →
      Step posts e { e.enter i (.locked options) with lock := some i, order := e.order ++ [i] }
  | read {e : Editing ι} {i : ι} {options : Options} :
    e.phase i = .locked options → Step posts e (e.enter i (.fetched options e.stored))
  | readFails {e : Editing ι} {i : ι} {options : Options} (fault : DeviceFault) :
    e.phase i = .locked options → Step posts e (e.enter i (.leaving (.error fault)))
  | merge {e : Editing ι} {i : ι} {options : Options} {config : Config} :
    e.phase i = .fetched options config →
      Step posts e (e.enter i (.merged (merge config (posts i).id options)))
  | write {e : Editing ι} {i : ι} {config : Config} :
    e.phase i = .merged config →
      Step posts e { e.enter i (.leaving (.ok ())) with stored := config }
  | writeFails {e : Editing ι} {i : ι} {config : Config} (fault : DeviceFault) :
    e.phase i = .merged config → Step posts e (e.enter i (.leaving (.error fault)))
  | release {e : Editing ι} {i : ι} {result : Except DeviceFault Unit} :
    e.phase i = .leaving result →
      Step posts e { e.enter i (.returned result) with lock := none }

inductive Reaches (posts : ι → Post) (config : Config) : Editing ι → Prop
  | start : Reaches posts config (start config)
  | step {e e' : Editing ι} : Reaches posts config e → Step posts e e' → Reaches posts config e'

/-- The calls that have written the store, in the order in which they took the lock. -/
def committed (e : Editing ι) : List ι := e.order.filter fun i => (e.phase i).isCommitted

/-- A call in a phase, beside what all calls share. -/
structure CallIsSound (post : Post) (stored : Config) (lock : Option ι) (order : List ι) (i : ι)
    (phase : Phase) : Prop where
  current : phase.IsCurrent post stored
  holds : lock = some i ↔ phase.holdsLock
  past : i ∈ order → phase.isPast
  mem_order : phase.isCommitted → i ∈ order

/-- Only the call that took the lock last can hold it, and what is stored are the merges of the calls
that have written. -/
structure IsSound (posts : ι → Post) (config : Config) (e : Editing ι) : Prop where
  calls : ∀ i, CallIsSound (posts i) e.stored e.lock e.order i (e.phase i)
  last : ∀ i, e.lock = some i → ∃ before, e.order = before ++ [i]
  nodup : e.order.Nodup
  stored : e.stored = e.committed.foldl (fun c i => (posts i).mergeInto c) config

variable {posts : ι → Post} {config : Config} {e : Editing ι} {i : ι}

omit [DecidableEq ι] in
theorem isSound_start : (start config : Editing ι).IsSound posts config where
  calls i := ⟨trivial, by simp [start, Phase.holdsLock], by simp [start], by simp [start, Phase.isCommitted]⟩
  last i := by simp [start]
  nodup := List.nodup_nil
  stored := rfl

/-- To show something of all calls after one has moved on, it is shown of that one and the others. -/
theorem calls_enter {phase : Phase} {stored : Config} {lock : Option ι} {order : List ι}
    (hself : CallIsSound (posts i) stored lock order i phase)
    (hothers : ∀ j, j ≠ i → CallIsSound (posts j) stored lock order j (e.phase j)) (j : ι) :
    CallIsSound (posts j) stored lock order j ((e.enter i phase).phase j) :=
  (Function.forall_update_iff e.phase fun j => CallIsSound (posts j) stored lock order j).mpr
    ⟨hself, hothers⟩ j

theorem filter_isCommitted_enter {phase : Phase} {calls : List ι}
    (h : i ∈ calls → phase.isCommitted = (e.phase i).isCommitted) :
    calls.filter (fun j => ((e.enter i phase).phase j).isCommitted) =
      calls.filter fun j => (e.phase j).isCommitted := by
  refine List.filter_congr fun j hmem => ?_
  by_cases hj : j = i
  · subst hj
    simp [enter, h hmem]
  · simp [enter, hj]

theorem IsSound.enter (h : e.IsSound posts config) {phase : Phase}
    (hcurrent : phase.IsCurrent (posts i) e.stored)
    (hlock : phase.holdsLock = (e.phase i).holdsLock)
    (hpast : (e.phase i).isPast → phase.isPast)
    (hcommitted : phase.isCommitted = (e.phase i).isCommitted) :
    (e.enter i phase).IsSound posts config where
  calls := calls_enter ⟨hcurrent, by rw [hlock]; exact (h.calls i).holds,
    fun hmem => hpast ((h.calls i).past hmem), by rw [hcommitted]; exact (h.calls i).mem_order⟩
    fun j _ => h.calls j
  last := h.last
  nodup := h.nodup
  stored := by
    rw [committed, filter_isCommitted_enter fun _ => hcommitted]
    exact h.stored

/-- A call that takes the lock has not had it before. -/
theorem IsSound.acquire (h : e.IsSound posts config) {options : Options}
    (hphase : e.phase i = .waiting options) (hfree : e.lock = none) :
    IsSound posts config
      { e.enter i (.locked options) with lock := some i, order := e.order ++ [i] } := by
  have hcurrent : (Phase.waiting options).IsCurrent (posts i) e.stored := hphase ▸ (h.calls i).current
  have hnot : i ∉ e.order := by
    intro hmem
    have hpast := (h.calls i).past hmem
    simp [hphase, Phase.isPast] at hpast
  constructor
  case calls =>
    refine calls_enter ⟨hcurrent, by simp [Phase.holdsLock], fun _ => rfl, by simp⟩ fun j hj => ?_
    have hcall := h.calls j
    have hfree' : ¬(e.phase j).holdsLock := by simp [← hcall.holds, hfree]
    refine ⟨hcall.current, iff_of_false (by simpa using Ne.symm hj) hfree', fun hmem => ?_,
      fun hcommitted => List.mem_append_left _ (hcall.mem_order hcommitted)⟩
    exact hcall.past (by simpa [hj] using hmem)
  case last =>
    intro j hj
    exact ⟨e.order, by rw [Option.some.inj hj]⟩
  case nodup =>
    refine List.nodup_append.mpr ⟨h.nodup, by simp, fun j hj k hk => ?_⟩
    obtain rfl := List.mem_singleton.mp hk
    exact fun heq => hnot (heq ▸ hj)
  case stored =>
    rw [committed, List.filter_append, filter_isCommitted_enter fun hmem => absurd hmem hnot]
    have hself : [i].filter (fun j => ((e.enter i (.locked options)).phase j).isCommitted) = [] := by
      simp [Editing.enter, Phase.isCommitted]
    rw [hself, List.append_nil]
    exact h.stored

omit [DecidableEq ι] in
theorem IsSound.not_holdsLock (h : e.IsSound posts config) (hlock : e.lock = some i) {j : ι}
    (hj : j ≠ i) : ¬(e.phase j).holdsLock := by
  rw [← (h.calls j).holds, hlock]
  simpa using Ne.symm hj

/-- What the lock holder writes is what is stored with its own merge, and it took the lock last. -/
theorem IsSound.write (h : e.IsSound posts config) {config' : Config}
    (hphase : e.phase i = .merged config') :
    IsSound posts config { e.enter i (.leaving (.ok ())) with stored := config' } := by
  obtain ⟨haccepted, hcurrent⟩ : (Phase.merged config').IsCurrent (posts i) e.stored :=
    hphase ▸ (h.calls i).current
  have hlock : e.lock = some i := (h.calls i).holds.mpr (by simp [hphase, Phase.holdsLock])
  obtain ⟨before, horder⟩ := h.last i hlock
  have hnodup := h.nodup
  rw [horder] at hnodup
  have hnot : i ∉ before := fun hmem =>
    (List.nodup_append.mp hnodup).2.2 i hmem i (List.mem_singleton_self i) rfl
  constructor
  case calls =>
    refine calls_enter ⟨fun _ => haccepted, iff_of_true hlock rfl, fun _ => rfl,
      fun _ => by simp [Editing.enter, horder]⟩ fun j hj => ?_
    have hcall := h.calls j
    have hfree := h.not_holdsLock hlock hj
    exact ⟨hcall.current.of_not_holdsLock hfree config', hcall.holds, hcall.past, hcall.mem_order⟩
  case last => exact h.last
  case nodup => exact h.nodup
  case stored =>
    have hbefore : e.committed = before.filter fun j => (e.phase j).isCommitted := by
      simp [committed, horder, hphase, Phase.isCommitted]
    have hafter : before.filter (fun j => ((e.enter i (.leaving (.ok ()))).phase j).isCommitted) =
        e.committed := by
      rw [hbefore, filter_isCommitted_enter fun hmem => absurd hmem hnot]
    have hself : [i].filter (fun j => ((e.enter i (.leaving (.ok ()))).phase j).isCommitted) = [i] := by
      simp [Editing.enter, Phase.isCommitted]
    have hcommitted : committed { e.enter i (.leaving (.ok ())) with stored := config' } =
        e.committed ++ [i] := by
      change e.order.filter _ = _
      rw [horder, List.filter_append, hafter, hself]
    rw [hcommitted, List.foldl_append, ← h.stored]
    exact hcurrent

theorem IsSound.release (h : e.IsSound posts config) {result : Except DeviceFault Unit}
    (hphase : e.phase i = .leaving result) :
    IsSound posts config { e.enter i (.returned result) with lock := none } := by
  have hlock : e.lock = some i := (h.calls i).holds.mpr (by simp [hphase, Phase.holdsLock])
  have haccepted : (Phase.leaving result).IsCurrent (posts i) e.stored :=
    hphase ▸ (h.calls i).current
  have hcommitted : (Phase.returned result).isCommitted = (e.phase i).isCommitted := by
    rw [hphase]
    cases result <;> rfl
  constructor
  case calls =>
    refine calls_enter ⟨haccepted, by simp [Phase.holdsLock], fun _ => rfl, ?_⟩ fun j hj => ?_
    · rw [hcommitted]
      exact (h.calls i).mem_order
    · have hcall := h.calls j
      have hfree := h.not_holdsLock hlock hj
      exact ⟨hcall.current, iff_of_false (by simp) hfree, hcall.past, hcall.mem_order⟩
  case last => simp
  case nodup => exact h.nodup
  case stored =>
    rw [committed, filter_isCommitted_enter fun _ => hcommitted]
    exact h.stored

theorem IsSound.step (h : e.IsSound posts config) {e' : Editing ι} (hstep : Step posts e e') :
    e'.IsSound posts config := by
  cases hstep with
  | accept hphase hread =>
    exact h.enter hread (by rw [hphase]; rfl) (by simp [hphase, Phase.isPast]) (by rw [hphase]; rfl)
  | refuse hphase hread =>
    exact h.enter (fun hok => by cases hok) (by rw [hphase]; rfl) (by simp [hphase, Phase.isPast])
      (by rw [hphase]; rfl)
  | acquire hphase hfree => exact h.acquire hphase hfree
  | @read i options hphase =>
    have hcurrent : (Phase.locked options).IsCurrent (posts i) e.stored := hphase ▸ (h.calls i).current
    exact h.enter ⟨hcurrent, rfl⟩ (by rw [hphase]; rfl) (fun _ => rfl) (by rw [hphase]; rfl)
  | readFails fault hphase =>
    exact h.enter (fun hok => by cases hok) (by rw [hphase]; rfl) (fun _ => rfl) (by rw [hphase]; rfl)
  | @merge i options read hphase =>
    obtain ⟨hread, rfl⟩ : (Phase.fetched options read).IsCurrent (posts i) e.stored :=
      hphase ▸ (h.calls i).current
    have haccepted : (posts i).IsAccepted := ⟨_, readUpdate_eq_ok_iff.mp hread⟩
    exact h.enter ⟨haccepted, (Post.mergeInto_of_ok hread e.stored).symm⟩ (by rw [hphase]; rfl) (fun _ => rfl)
      (by rw [hphase]; rfl)
  | write hphase => exact h.write hphase
  | writeFails fault hphase =>
    exact h.enter (fun hok => by cases hok) (by rw [hphase]; rfl) (fun _ => rfl) (by rw [hphase]; rfl)
  | release hphase => exact h.release hphase

theorem Reaches.isSound (h : Reaches posts config e) : e.IsSound posts config := by
  induction h with
  | start => exact isSound_start
  | step _ hstep ih => exact ih.step hstep

def succeeded (e : Editing ι) (i : ι) : Bool :=
  match e.phase i with
  | .returned (.ok ()) => true
  | _ => false

omit [DecidableEq ι] in
theorem succeeded_iff : e.succeeded i ↔ e.phase i = .returned (.ok ()) := by
  unfold succeeded
  split <;> simp_all

omit [DecidableEq ι] in
theorem committed_of_returned (hdone : ∀ i, ∃ result, e.phase i = .returned result) :
    e.committed = e.order.filter e.succeeded := by
  refine List.filter_congr fun i _ => ?_
  obtain ⟨result, hresult⟩ := hdone i
  cases result <;> simp [succeeded, hresult, Phase.isCommitted]

omit [DecidableEq ι] in
theorem IsSound.mem_filter_succeeded (h : e.IsSound posts config) :
    i ∈ e.order.filter e.succeeded ↔ e.phase i = .returned (.ok ()) := by
  rw [List.mem_filter, succeeded_iff, and_iff_right_iff_imp]
  intro hphase
  exact (h.calls i).mem_order (by rw [hphase]; rfl)

/-- Once all calls have returned, what is stored are the merges of those that ended well, one after the
other as they took the lock: of those that set an option the last one decides it, and no other call has
any part in it. If the calls that ended well do not contradict each other, what is stored is the same for
all orders of steps in which the same calls end well. -/
theorem stored_eq_merges (h : Reaches posts config e)
    (hdone : ∀ i, ∃ result, e.phase i = .returned result) :
    let successes := e.order.filter e.succeeded
    e.stored = successes.foldl (fun c i => (posts i).mergeInto c) config ∧
    LastWins (successes.map posts) config.get? e.stored.get? ∧
    successes.Nodup ∧
    (∀ i, i ∈ successes ↔ e.phase i = .returned (.ok ())) ∧
    (∀ i ∈ successes, ∃ posted, IsAccepted (posts i).id (posts i).body posted) ∧
    ((∀ i ∈ successes, ∀ j ∈ successes, (posts i).IsCompatible (posts j)) →
      ∀ e' : Editing ι, Reaches posts config e' → (∀ i, ∃ result, e'.phase i = .returned result) →
        (∀ i, e'.phase i = .returned (.ok ()) ↔ e.phase i = .returned (.ok ())) →
          e'.stored = e.stored) := by
  intro successes
  have hsound := h.isSound
  have hnodup : successes.Nodup := hsound.nodup.filter _
  have hstored : e.stored = successes.foldl (fun c i => (posts i).mergeInto c) config := by
    rw [hsound.stored, committed_of_returned hdone]
  have haccepted : ∀ i ∈ successes, (posts i).IsAccepted := by
    intro i hi
    have hphase := hsound.mem_filter_succeeded.mp hi
    have hcurrent := (hsound.calls i).current
    rw [hphase] at hcurrent
    exact hcurrent rfl
  refine ⟨hstored, ?_, hnodup, fun i => hsound.mem_filter_succeeded, haccepted, ?_⟩
  · have hmerged : e.stored = mergeAll config (successes.map posts) := by
      rw [hstored, mergeAll, List.foldl_map]
    rw [hmerged]
    exact lastWins_mergeAll (List.forall_mem_map.mpr haccepted) config
  · intro hcompatible e' h' hdone' hsame
    have hsound' := h'.isSound
    have hperm : successes.Perm (e'.order.filter e'.succeeded) := by
      refine (List.perm_ext_iff_of_nodup hnodup (hsound'.nodup.filter _)).mpr fun i => ?_
      rw [hsound.mem_filter_succeeded, hsound'.mem_filter_succeeded, hsame]
    rw [hstored, hsound'.stored, committed_of_returned hdone']
    refine (hperm.foldl_eq' (fun i hi j hj c => ?_) config).symm
    exact Post.mergeInto_comm (hcompatible i hi j hj) c

/-- A light with two options, and a fan with something that is no object. -/
def lightConfig : Config := .ofList [
  ("fan.b", .ofNat 7), ("light.a", .object [("ignored", .text "no"), ("room", .text "hall")])]

/-- Three posts for the light; the last contradicts the first. -/
def lightPosts : Fin 3 → Post := fun i =>
  ⟨"light.a", ["\x7b\"ignored\":true\x7d".toUTF8, "\x7b\"polling_intensity\":2\x7d".toUTF8,
    "\x7b\"ignored\":false\x7d".toUTF8][i]⟩

def lightOptions : Fin 3 → Options := fun i =>
  [.ofList [("ignored", .boolean true)], .ofList [("polling_intensity", .ofNat 2)],
    .ofList [("ignored", .boolean false)]][i]

theorem readUpdate_lightPosts (i : Fin 3) :
    readUpdate (lightPosts i).id (lightPosts i).body = .ok (lightOptions i) := by
  revert i
  decide +kernel

theorem sets_lightPosts {i : Fin 3} {name : String} {value : Json} :
    (lightPosts i).Sets "light.a" name value ↔ (lightOptions i).get? name = some value :=
  (Post.sets_iff (readUpdate_lightPosts i)).trans (and_iff_right rfl)

theorem not_sets_lightPosts {i : Fin 3} {name : String} (h : (lightOptions i).get? name = none)
    (value : Json) : ¬(lightPosts i).Sets "light.a" name value := by
  simp [sets_lightPosts, h]

theorem isCompatible_lightPosts {i j : Fin 3} (hi : i ∈ [1, 0]) (hj : j ∈ [1, 0]) :
    (lightPosts i).IsCompatible (lightPosts j) := by
  rintro id name v w hv hw
  obtain rfl : "light.a" = id := hv.1
  have hv' := SortedMap.mem_entries.mpr (sets_lightPosts.mp hv)
  have hw' := SortedMap.mem_entries.mpr (sets_lightPosts.mp hw)
  simp only [List.mem_cons, List.not_mem_nil, or_false] at hi hj
  rcases hi with rfl | rfl <;> rcases hj with rfl | rfl <;>
    simp_all [lightOptions, SortedMap.ofList, SortedMap.insert, SortedMap.empty, insertEntry]

/-- The contradicting call takes the lock first and fails to write, and the other two are merged, which
may take any order. -/
theorem lightPosts_merged : ∃ e : Editing (Fin 3), Reaches lightPosts lightConfig e ∧
    (∀ i, ∃ result, e.phase i = .returned result) ∧ e.order.filter e.succeeded = [1, 0] ∧
    e.stored = (e.order.filter e.succeeded).foldl (fun c i => (lightPosts i).mergeInto c) lightConfig ∧
    (memberOf? (e.stored.get? "light.a") "ignored" = some (.boolean true) ∧
      memberOf? (e.stored.get? "light.a") "polling_intensity" = some (.ofNat 2) ∧
      memberOf? (e.stored.get? "light.a") "room" = some (.text "hall") ∧
      e.stored.get? "fan.b" = some (.ofNat 7)) ∧
    ∀ e' : Editing (Fin 3), Reaches lightPosts lightConfig e' →
      (∀ i, ∃ result, e'.phase i = .returned result) →
        (∀ i, e'.phase i = .returned (.ok ()) ↔ e.phase i = .returned (.ok ())) →
          e'.stored = e.stored := by
  have hread := readUpdate_lightPosts
  have hfails := ((((((((Reaches.start : Reaches lightPosts lightConfig _
    ).step (.accept (i := 0) rfl (hread 0))
    ).step (.accept (i := 2) rfl (hread 2))
    ).step (.acquire (i := 2) rfl rfl)
    ).step (.read (i := 2) rfl)
    ).step (.accept (i := 1) rfl (hread 1))
    ).step (.merge (i := 2) rfl)
    ).step (.writeFails (i := 2) (.storage .isDirectory) rfl)
    ).step (.release (i := 2) rfl)
  have hrun := ((((((((((hfails
    ).step (.acquire (i := 1) rfl rfl)
    ).step (.read (i := 1) rfl)
    ).step (.merge (i := 1) rfl)
    ).step (.write (i := 1) rfl)
    ).step (.release (i := 1) rfl)
    ).step (.acquire (i := 0) rfl rfl)
    ).step (.read (i := 0) rfl)
    ).step (.merge (i := 0) rfl)
    ).step (.write (i := 0) rfl)
    ).step (.release (i := 0) rfl)
  have hsettings : LastWins [lightPosts 1, lightPosts 0] lightConfig.get? _ :=
    (stored_eq_merges hrun ?done).2.1
  have hlight : lightConfig.get? "light.a" = some (.object (SortedMap.ofList
      [("ignored", Json.text "no"), ("room", .text "hall")]).entries) := by decide +kernel
  have hfan : lightConfig.get? "fan.b" = some (.ofNat 7) := by decide +kernel
  refine ⟨_, hrun, ?done, rfl, (stored_eq_merges hrun ?done).1, ⟨?_, ?_, ?_, ?_⟩,
    (stored_eq_merges hrun ?done).2.2.2.2.2 fun i hi j hj => isCompatible_lightPosts hi hj⟩
  case done =>
    intro i
    match i with
    | 0 => exact ⟨.ok (), rfl⟩
    | 1 => exact ⟨.ok (), rfl⟩
    | 2 => exact ⟨.error (.storage .isDirectory), rfl⟩
  · refine hsettings.set [lightPosts 1] (lightPosts 0) [] rfl _ _ _ (sets_lightPosts.mpr ?_) (by simp)
    decide +kernel
  · refine hsettings.set [] (lightPosts 1) [lightPosts 0] rfl _ _ _ (sets_lightPosts.mpr ?_) ?_
    · decide +kernel
    · exact List.forall_mem_singleton.mpr (not_sets_lightPosts (by decide +kernel))
  · have hnone : ∀ post ∈ [lightPosts 1, lightPosts 0], ∀ value, ¬post.Sets "light.a" "room" value :=
      List.forall_mem_cons.mpr ⟨not_sets_lightPosts (by decide +kernel),
        List.forall_mem_singleton.mpr (not_sets_lightPosts (by decide +kernel))⟩
    rw [hsettings.unset _ _ hnone (hlight ▸ isOrdered_object _), hlight]
    decide +kernel
  · exact (hsettings.untouched _ (by decide)).trans hfan

end Editing

end HomeHub.Device
