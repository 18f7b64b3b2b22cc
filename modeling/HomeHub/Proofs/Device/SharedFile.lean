import HomeHub.Proofs.Device.Editor
import HomeHub.Proofs.Device.Interleaving
import HomeHub.Proofs.Storage.Tree
import Mathlib.Logic.Relation

/-!
# Look-ups while a store is written

A write first empties the file and then fills it, and a look-up takes no lock. A look-up between the two
steps finds a blank file, which stands for a store without entities. Any other finds what the updates
that have filled the file make of it, one after the other.
-/
namespace HomeHub.Device

inductive Stage where
  | started
  | waiting (options : Options)
  | locked (options : Options)
  /-- It has the text to write. -/
  | composed (written : String)
  /-- The file is empty. -/
  | emptied (written : String)
  /-- It still holds the lock. -/
  | leaving (result : Except DeviceFault Unit)
  | returned (result : Except DeviceFault Unit)

namespace Stage

def holdsLock : Stage → Bool
  | locked _ | composed _ | emptied _ | leaving _ => true
  | started | waiting _ | returned _ => false

def isEmptied : Stage → Bool
  | emptied _ => true
  | _ => false

def isDone : Stage → Bool
  | leaving (.ok ()) | returned (.ok ()) => true
  | _ => false

/-- What an update has in hand is what it would have if it ran alone on a file. -/
def IsDue (post : Post) (file : File) : Stage → Prop
  | waiting options | locked options => readUpdate post.id post.body = .ok options
  | composed written => update file post.id post.body = (file.write written).mapError .storage
  | emptied written => update file post.id post.body = .ok (.text written)
  | started | leaving _ | returned _ => True

theorem IsDue.of_not_holdsLock {post : Post} {file : File} {stage : Stage}
    (h : stage.IsDue post file) (hlock : ¬stage.holdsLock) (other : File) :
    stage.IsDue post other := by
  cases stage with
  | waiting options => exact h
  | started | returned result => trivial
  | locked options | composed written | emptied written | leaving result => exact absurd rfl hlock

end Stage

def Post.call (post : Post) : Call := .update post.id post.body

def Post.applyTo (post : Post) (file : File) : File := (post.call.perform file).2

theorem Post.applyTo_of_update {post : Post} {file after : File}
    (h : update file post.id post.body = .ok after) : post.applyTo file = after := by
  simp [applyTo, call, Call.perform, h]

universe u v

variable {ι : Type u} {ρ : Type v}

/-- The file after whole updates, one after the other. -/
def afterUpdates (posts : ι → Post) (file : File) (updates : List ι) : File :=
  updates.foldl (fun file i => (posts i).applyTo file) file

theorem afterUpdates_append_singleton (posts : ι → Post) (file : File) (updates : List ι) (i : ι) :
    afterUpdates posts file (updates ++ [i]) = (posts i).applyTo (afterUpdates posts file updates) := by
  simp [afterUpdates]

theorem get_blank {id : String} (hid : isEntityId id) : get (.text "") id = .ok (.object []) := by
  have hread : readConfig (.text "") = .ok .empty := readConfig_blank (by simp)
  simp only [get, hid, hread, bind, Except.bind]
  rfl

theorem IsBacked.applyTo {file : File} {config : Config} (h : IsBacked file config) {post : Post}
    (hexact : post.call.IsExact) : IsBacked (post.applyTo file) (post.mergeInto config) := by
  unfold Post.applyTo Post.mergeInto Post.call
  cases hupdate : readUpdate post.id post.body with
  | error fault => simpa [Call.perform, update_of_error hupdate] using h
  | ok options =>
    simp only [Call.perform, update_of_ok h hupdate]
    exact h.merge (readUpdate_eq_ok_iff.mp hupdate) hexact

theorem IsBacked.afterUpdates {posts : ι → Post} {file : File} {config : Config}
    (h : IsBacked file config) (hexact : ∀ i, (posts i).call.IsExact) (updates : List ι) :
    IsBacked (afterUpdates posts file updates)
      (updates.foldl (fun c i => (posts i).mergeInto c) config) := by
  induction updates generalizing file config with
  | nil => exact h
  | cons i rest ih => exact ih (h.applyTo (hexact i))

structure SharedFile (ι : Type u) (ρ : Type v) where
  file : File
  lock : Option ι
  /-- The updates that have filled the file, in order. -/
  filled : List ι
  stage : ι → Stage
  found : ρ → Option (Except DeviceFault Json)

namespace SharedFile

def start (file : File) : SharedFile ι ρ := ⟨file, none, [], fun _ => .started, fun _ => none⟩

/-- Whether the update with the lock has emptied the file and not filled it yet. -/
def isHalfWritten (e : SharedFile ι ρ) : Bool :=
  match e.lock with
  | some i => (e.stage i).isEmptied
  | none => false

/-- The file as whole updates leave it. -/
def whole (posts : ι → Post) (file : File) (e : SharedFile ι ρ) : File :=
  afterUpdates posts file e.filled

/-- An update in a stage, beside what all updates share. -/
structure UpdateIsSound (post : Post) (whole : File) (lock : Option ι) (filled : List ι) (i : ι)
    (stage : Stage) : Prop where
  holds : lock = some i ↔ stage.holdsLock
  due : stage.IsDue post whole
  mem_filled : i ∈ filled ↔ stage.isDone

/-- Only the lock holder changes the file, which is empty while it is half written and else as whole
updates leave it. -/
structure IsSound (posts : ι → Post) (file : File) (e : SharedFile ι ρ) : Prop where
  updates : ∀ i, UpdateIsSound (posts i) (e.whole posts file) e.lock e.filled i (e.stage i)
  content : e.file = if e.isHalfWritten then .text "" else e.whole posts file
  nodup : e.filled.Nodup

section

variable {posts : ι → Post} {file : File} {e : SharedFile ι ρ} {i j : ι}

theorem isSound_start : (start file : SharedFile ι ρ).IsSound posts file where
  updates i := ⟨by simp [start, Stage.holdsLock], trivial, by simp [start, Stage.isDone]⟩
  content := rfl
  nodup := List.nodup_nil

theorem isHalfWritten_of_lock (h : e.lock = some i) : e.isHalfWritten = (e.stage i).isEmptied := by
  simp [isHalfWritten, h]

theorem IsSound.file_of_free (h : e.IsSound posts file) (hfree : e.lock = none) :
    e.file = e.whole posts file := by
  have hcontent := h.content
  simpa [isHalfWritten, hfree] using hcontent

theorem IsSound.lock_eq (h : e.IsSound posts file) (hlock : (e.stage i).holdsLock) :
    e.lock = some i :=
  (h.updates i).holds.mpr hlock

theorem IsSound.file_of_holdsLock (h : e.IsSound posts file) (hlock : (e.stage i).holdsLock)
    (hfull : ¬(e.stage i).isEmptied) : e.file = e.whole posts file := by
  have hcontent := h.content
  rw [isHalfWritten_of_lock (h.lock_eq hlock), if_neg hfull] at hcontent
  exact hcontent

theorem IsSound.not_holdsLock (h : e.IsSound posts file) (hlock : (e.stage i).holdsLock)
    (hj : j ≠ i) : ¬(e.stage j).holdsLock := by
  rw [← (h.updates j).holds, h.lock_eq hlock]
  intro heq
  exact hj (Option.some.inj heq).symm

end

section

variable [DecidableEq ι]

def enter (e : SharedFile ι ρ) (i : ι) (stage : Stage) : SharedFile ι ρ :=
  { e with stage := Function.update e.stage i stage }

variable {posts : ι → Post} {file : File} {e : SharedFile ι ρ} {i j : ι}

theorem content_enter (e : SharedFile ι ρ) {stage : Stage} {lock : Option ι} {filled : List ι}
    {content : File} (hlock : lock = some i)
    (hcontent : content = if stage.isEmptied then .text "" else afterUpdates posts file filled) :
    content = if isHalfWritten ⟨content, lock, filled, (e.enter i stage).stage, e.found⟩
      then .text "" else afterUpdates posts file filled := by
  have hhalf : isHalfWritten ⟨content, lock, filled, (e.enter i stage).stage, e.found⟩ =
      stage.isEmptied := by
    simp [isHalfWritten, enter, hlock]
  rw [hhalf]
  exact hcontent

theorem updates_enter {whole : File} {lock : Option ι} {filled : List ι} {stage : Stage}
    (hself : UpdateIsSound (posts i) whole lock filled i stage)
    (hothers : ∀ j, j ≠ i → UpdateIsSound (posts j) whole lock filled j (e.stage j)) (j : ι) :
    UpdateIsSound (posts j) whole lock filled j ((e.enter i stage).stage j) :=
  (Function.forall_update_iff e.stage fun j => UpdateIsSound (posts j) whole lock filled j).mpr
    ⟨hself, hothers⟩ j

theorem IsSound.enter (h : e.IsSound posts file) {old stage : Stage} (hstage : e.stage i = old)
    (hdue : stage.IsDue (posts i) (e.whole posts file)) (hlock : stage.holdsLock = old.holdsLock)
    (hemptied : stage.isEmptied = old.isEmptied) (hdone : stage.isDone = old.isDone) :
    (e.enter i stage).IsSound posts file := by
  subst hstage
  have hhalf : (e.enter i stage).isHalfWritten = e.isHalfWritten := by
    have hstage (j : ι) : ((e.enter i stage).stage j).isEmptied = (e.stage j).isEmptied := by
      by_cases hj : j = i
      · subst hj
        simp [SharedFile.enter, hemptied]
      · simp [SharedFile.enter, hj]
    simp only [isHalfWritten, hstage]
    rfl
  constructor
  case updates =>
    refine updates_enter ⟨?_, hdue, ?_⟩ fun j _ => h.updates j
    · rw [hlock]
      exact (h.updates i).holds
    · rw [hdone]
      exact (h.updates i).mem_filled
  case content =>
    rw [hhalf]
    exact h.content
  case nodup => exact h.nodup

theorem IsSound.acquire (h : e.IsSound posts file) {options : Options}
    (hstage : e.stage i = .waiting options) (hfree : e.lock = none) :
    IsSound posts file { e.enter i (.locked options) with lock := some i } := by
  have hself := h.updates i
  rw [hstage] at hself
  constructor
  case updates =>
    refine updates_enter ⟨by simp [Stage.holdsLock], hself.due, hself.mem_filled⟩ fun j hj => ?_
    have hupdate := h.updates j
    have hnot : ¬(e.stage j).holdsLock := by simp [← hupdate.holds, hfree]
    exact ⟨iff_of_false (fun heq => hj (Option.some.inj heq).symm) hnot, hupdate.due,
      hupdate.mem_filled⟩
  case content => exact content_enter e rfl (h.file_of_free hfree)
  case nodup => exact h.nodup

theorem IsSound.empty (h : e.IsSound posts file) {written : String} {blank : File}
    (hstage : e.stage i = .composed written) (hwrite : e.file.write "" = .ok blank) :
    IsSound posts file { e.enter i (.emptied written) with file := blank } := by
  have hself := h.updates i
  rw [hstage] at hself
  have hlock : (e.stage i).holdsLock := by rw [hstage]; rfl
  have hholder := h.lock_eq hlock
  have hfile := h.file_of_holdsLock hlock (by simp [hstage, Stage.isEmptied])
  obtain ⟨hwritable, rfl⟩ := File.write_eq_ok_iff.mp hwrite
  -- what was due to the whole file is still due to it, though the file itself is blank now
  have hdue : update (e.whole posts file) (posts i).id (posts i).body = .ok (.text written) := by
    have hcomposed : update (e.whole posts file) (posts i).id (posts i).body =
        ((e.whole posts file).write written).mapError .storage := hself.due
    rw [hfile] at hwritable
    rw [hcomposed, File.write_of_isWritable hwritable]
    rfl
  constructor
  case updates =>
    exact updates_enter ⟨iff_of_true hholder rfl, hdue, hself.mem_filled⟩ fun j _ => h.updates j
  case content => exact content_enter e hholder rfl
  case nodup => exact h.nodup

/-- Filling makes of the file what the update makes of the whole file if it runs alone. -/
theorem IsSound.fill (h : e.IsSound posts file) {written : String} {after : File}
    (hstage : e.stage i = .emptied written) (hwrite : e.file.write written = .ok after) :
    IsSound posts file
      { e.enter i (.leaving (.ok ())) with file := after, filled := e.filled ++ [i] } := by
  have hself := h.updates i
  rw [hstage] at hself
  have hlock : (e.stage i).holdsLock := by rw [hstage]; rfl
  have hholder := h.lock_eq hlock
  have hnot : i ∉ e.filled := by simp [hself.mem_filled, Stage.isDone]
  obtain ⟨-, rfl⟩ := File.write_eq_ok_iff.mp hwrite
  -- the text was composed from the whole file, so one more whole update leaves just that text
  have hwhole : afterUpdates posts file (e.filled ++ [i]) = .text written := by
    rw [afterUpdates_append_singleton]
    exact Post.applyTo_of_update hself.due
  constructor
  case updates =>
    refine updates_enter ⟨iff_of_true hholder rfl, trivial, by simp [Stage.isDone]⟩ fun j hj => ?_
    have hupdate := h.updates j
    have hfree := h.not_holdsLock hlock hj
    exact ⟨hupdate.holds, hupdate.due.of_not_holdsLock hfree _, by simp [hj, hupdate.mem_filled]⟩
  case content => exact content_enter e hholder hwhole.symm
  case nodup =>
    refine List.nodup_append.mpr ⟨h.nodup, by simp, fun j hj k hk => ?_⟩
    obtain rfl := List.mem_singleton.mp hk
    exact fun heq => hnot (heq ▸ hj)

theorem IsSound.release (h : e.IsSound posts file) {result : Except DeviceFault Unit}
    (hstage : e.stage i = .leaving result) :
    IsSound posts file { e.enter i (.returned result) with lock := none } := by
  have hself := h.updates i
  rw [hstage] at hself
  have hlock : (e.stage i).holdsLock := by rw [hstage]; rfl
  have hdone : (Stage.returned result).isDone = (Stage.leaving result).isDone := by
    cases result <;> rfl
  constructor
  case updates =>
    refine updates_enter ⟨by simp [Stage.holdsLock], trivial, hdone ▸ hself.mem_filled⟩ fun j hj => ?_
    have hupdate := h.updates j
    exact ⟨iff_of_false (by simp) (h.not_holdsLock hlock hj), hupdate.due, hupdate.mem_filled⟩
  case content => exact h.file_of_holdsLock hlock (by simp [hstage, Stage.isEmptied])
  case nodup => exact h.nodup

theorem IsSound.compose (h : e.IsSound posts file) {options : Options} {config : Config}
    (hstage : e.stage i = .locked options) (hread : readConfig e.file = .ok config) :
    (e.enter i (.composed (configText (merge config (posts i).id options)))).IsSound posts file := by
  have hself := h.updates i
  rw [hstage] at hself
  have hupdate : readUpdate (posts i).id (posts i).body = .ok options := hself.due
  have hfile := h.file_of_holdsLock (i := i) (by rw [hstage]; rfl) (by simp [hstage, Stage.isEmptied])
  rw [hfile] at hread
  refine h.enter hstage ?_ rfl rfl rfl
  simp [Stage.IsDue, update, hupdate, hread, writeConfig, bind, Except.bind]

variable [DecidableEq ρ]

inductive Step (posts : ι → Post) (ids : ρ → String) : SharedFile ι ρ → SharedFile ι ρ → Prop
  | lookUp {e : SharedFile ι ρ} {r : ρ} : e.found r = none →
      Step posts ids e { e with found := Function.update e.found r (some (get e.file (ids r))) }
  | accept {e : SharedFile ι ρ} {i : ι} {options : Options} :
    e.stage i = .started → readUpdate (posts i).id (posts i).body = .ok options →
      Step posts ids e (e.enter i (.waiting options))
  | refuse {e : SharedFile ι ρ} {i : ι} {fault : DeviceFault} :
    e.stage i = .started → readUpdate (posts i).id (posts i).body = .error fault →
      Step posts ids e (e.enter i (.returned (.error fault)))
  | acquire {e : SharedFile ι ρ} {i : ι} {options : Options} :
    e.stage i = .waiting options → e.lock = none →
      Step posts ids e { e.enter i (.locked options) with lock := some i }
  | compose {e : SharedFile ι ρ} {i : ι} {options : Options} {config : Config} :
    e.stage i = .locked options → readConfig e.file = .ok config →
      Step posts ids e (e.enter i (.composed (configText (merge config (posts i).id options))))
  | readFails {e : SharedFile ι ρ} {i : ι} {options : Options} {fault : DeviceFault} :
    e.stage i = .locked options → readConfig e.file = .error fault →
      Step posts ids e (e.enter i (.leaving (.error fault)))
  | empty {e : SharedFile ι ρ} {i : ι} {written : String} {blank : File} :
    e.stage i = .composed written → e.file.write "" = .ok blank →
      Step posts ids e { e.enter i (.emptied written) with file := blank }
  | emptyFails {e : SharedFile ι ρ} {i : ι} {written : String} {fault : StorageFault} :
    e.stage i = .composed written → e.file.write "" = .error fault →
      Step posts ids e (e.enter i (.leaving (.error (.storage fault))))
  | fill {e : SharedFile ι ρ} {i : ι} {written : String} {after : File} :
    e.stage i = .emptied written → e.file.write written = .ok after →
      Step posts ids e
        { e.enter i (.leaving (.ok ())) with file := after, filled := e.filled ++ [i] }
  | release {e : SharedFile ι ρ} {i : ι} {result : Except DeviceFault Unit} :
    e.stage i = .leaving result →
      Step posts ids e { e.enter i (.returned result) with lock := none }

abbrev Leads (posts : ι → Post) (ids : ρ → String) : SharedFile ι ρ → SharedFile ι ρ → Prop :=
  Relation.ReflTransGen (Step posts ids)

variable {ids : ρ → String} {e' : SharedFile ι ρ}

theorem IsSound.step (h : e.IsSound posts file) (hstep : Step posts ids e e') :
    e'.IsSound posts file := by
  cases hstep with
  | lookUp _ => exact ⟨h.updates, h.content, h.nodup⟩
  | accept hstage hread => exact h.enter hstage hread rfl rfl rfl
  | refuse hstage _ => exact h.enter hstage trivial rfl rfl rfl
  | acquire hstage hfree => exact h.acquire hstage hfree
  | compose hstage hread => exact h.compose hstage hread
  | readFails hstage _ => exact h.enter hstage trivial rfl rfl rfl
  | empty hstage hwrite => exact h.empty hstage hwrite
  | emptyFails hstage _ => exact h.enter hstage trivial rfl rfl rfl
  | fill hstage hwrite => exact h.fill hstage hwrite
  | release hstage => exact h.release hstage

theorem Leads.isSound (h : Leads posts ids (start file) e) : e.IsSound posts file := by
  induction h with
  | refl => exact isSound_start
  | tail _ hstep ih => exact ih.step hstep

theorem Step.filled_prefix (h : Step posts ids e e') : e.filled <+: e'.filled := by
  cases h with
  | fill _ _ => exact List.prefix_append _ _
  | lookUp _ | accept _ _ | refuse _ _ | acquire _ _ | compose _ _ | readFails _ _ | empty _ _
  | emptyFails _ _ | release _ => exact List.prefix_rfl

theorem Leads.filled_prefix (h : Leads posts ids e e') : e.filled <+: e'.filled := by
  induction h with
  | refl => exact List.prefix_rfl
  | tail _ hstep ih => exact ih.trans hstep.filled_prefix

/-- A result that is there after a step was there before or is found in the file by this step. -/
theorem Step.found_eq (h : Step posts ids e e') {r : ρ} {result : Except DeviceFault Json}
    (hfound : e'.found r = some result) :
    e.found r = some result ∨ (e.found r = none ∧ result = get e.file (ids r)) := by
  cases h with
  | @lookUp r' hnone =>
    by_cases hr : r = r'
    · subst hr
      have hresult : some (get e.file (ids r)) = some result := by simpa using hfound
      exact Or.inr ⟨hnone, (Option.some.inj hresult).symm⟩
    · exact Or.inl (by simpa [hr] using hfound)
  | accept _ _ | refuse _ _ | acquire _ _ | compose _ _ | readFails _ _ | empty _ _
  | emptyFails _ _ | fill _ _ | release _ => exact Or.inl hfound

theorem Leads.exists_lookUp (h : Leads posts ids (start file) e) {r : ρ}
    {result : Except DeviceFault Json} (hfound : e.found r = some result) :
    ∃ before, Leads posts ids (start file) before ∧ Leads posts ids before e ∧
      before.found r = none ∧ result = get before.file (ids r) := by
  induction h with
  | refl => cases hfound
  | @tail m e hrun hstep ih =>
    rcases hstep.found_eq hfound with hm | ⟨hnone, hresult⟩
    · obtain ⟨before, hbefore, hafter, hrest⟩ := ih hm
      exact ⟨before, hbefore, hafter.tail hstep, hrest⟩
    · exact ⟨m, hrun, .single hstep, hnone, hresult⟩

/-- Each look-up was made at some moment of the run. Unless the file was half written then, it found what
is there after the updates that had filled the file by then, one after the other; of a file whose values
are read back as they are written these are the merges of those updates. In a half-written file every
entity was found to have no options. -/
theorem found_whole_or_blank (h : Leads posts ids (start file) e) {r : ρ}
    {result : Except DeviceFault Json} (hfound : e.found r = some result) :
    ∃ before, Leads posts ids (start file) before ∧ Leads posts ids before e ∧
      before.found r = none ∧ before.filled <+: e.filled ∧ before.filled.Nodup ∧
      (¬before.isHalfWritten → result = get (afterUpdates posts file before.filled) (ids r)) ∧
      (¬before.isHalfWritten → isEntityId (ids r) → ∀ config, IsBacked file config →
        (∀ i, (posts i).call.IsExact) →
        result = .ok (((before.filled.foldl (fun c i => (posts i).mergeInto c) config).get?
          (ids r)).getD (.object []))) ∧
      (before.isHalfWritten → isEntityId (ids r) → result = .ok (.object [])) ∧
      (¬isEntityId (ids r) → result = .error (.invalidId (ids r))) := by
  obtain ⟨before, hbefore, hafter, hnone, hresult⟩ := Leads.exists_lookUp h hfound
  have hsound : before.IsSound posts file := Leads.isSound hbefore
  have hwhole (hfull : ¬before.isHalfWritten) : before.file = afterUpdates posts file before.filled := by
    have hcontent := hsound.content
    rw [if_neg hfull] at hcontent
    exact hcontent
  refine ⟨before, hbefore, hafter, hnone, Leads.filled_prefix hafter, hsound.nodup, ?_, ?_, ?_, ?_⟩
  · intro hfull
    rw [hresult, hwhole hfull]
  · intro hfull hid config hbacked hexact
    rw [hresult, hwhole hfull]
    exact get_of_isEntityId (hbacked.afterUpdates hexact before.filled) hid
  · intro hhalf hid
    have hcontent := hsound.content
    rw [if_pos hhalf] at hcontent
    rw [hresult, hcontent]
    exact get_blank hid
  · intro hid
    rw [hresult]
    exact get_of_not_isEntityId hid

end

/-- A fan is updated, a light looked up while that is written, and the fan when it is done. -/
def hallPosts : Unit → Post := fun _ => ⟨"fan.b", fanBody⟩

def hallIds : Bool → String
  | true => "light.a"
  | false => "fan.b"

def fanOptions : Options := .ofList [("polling_intensity", .number (.real (.ofRatio false 1 2)))]

def hallConfig : Config := .ofList hallMembers

def lightOfHall : Json :=
  .object [("polling_intensity", .number (.real (.ofRatio false 5 2))), ("room", .text "hall")]

theorem exists_hallRun : ∃ e : SharedFile Unit Bool,
    Leads hallPosts hallIds (start (.text hallText)) e ∧ e.found true = some (.ok (.object [])) ∧
      e.found false = some (.ok (.object fanOptions.entries)) ∧ e.filled = [()] ∧
      e.stage () = .returned (.ok ()) := by
  have hread : readUpdate (hallPosts ()).id (hallPosts ()).body = .ok fanOptions := by decide +kernel
  have hconfig : readConfig (.text hallText) = .ok hallConfig := by decide +kernel
  have hrun := (((((((((Relation.ReflTransGen.refl :
      Leads hallPosts hallIds (start (.text hallText)) (start (.text hallText))
    ).tail (.accept (i := ()) rfl hread)
    ).tail (.acquire (i := ()) rfl rfl)
    ).tail (.compose (i := ()) rfl hconfig)
    ).tail (.empty (i := ()) rfl rfl)
    ).tail (.lookUp (r := true) rfl)
    ).tail (.fill (i := ()) rfl rfl)
    ).tail (.lookUp (r := false) rfl)
    ).tail (.release (i := ()) rfl))
  refine ⟨_, hrun, ?_, ?_, rfl, rfl⟩
  · decide +kernel
  · decide +kernel

theorem hallRun_found : ∃ e : SharedFile Unit Bool,
    Leads hallPosts hallIds (start (.text hallText)) e ∧
      e.found false = some (.ok (.object fanOptions.entries)) ∧
      ∃ before, Leads hallPosts hallIds (start (.text hallText)) before ∧
        Leads hallPosts hallIds before e ∧ before.filled <+: [()] ∧
        (¬before.isHalfWritten → Except.ok (.object fanOptions.entries) =
          get (afterUpdates hallPosts (.text hallText) before.filled) "fan.b") := by
  obtain ⟨e, hrun, -, hfound, hfilled, -⟩ := exists_hallRun
  obtain ⟨before, hbefore, hafter, -, hprefix, -, hwhole, -⟩ := found_whole_or_blank hrun hfound
  exact ⟨e, hrun, hfound, before, hbefore, hafter, hfilled ▸ hprefix, hwhole⟩

/-- The light has options before and after the only update, and none while that is written. -/
theorem light_found_blank : Holds (.text hallText) (fun id => lookupEntry id hallMembers) ∧
    ∃ e : SharedFile Unit Bool, Leads hallPosts hallIds (start (.text hallText)) e ∧
      e.found true = some (.ok (.object [])) ∧ ∀ n,
        get (afterUpdates hallPosts (.text hallText) (e.filled.take n)) (hallIds true) =
          .ok lightOfHall := by
  obtain ⟨e, hrun, hfound, -, hfilled, -⟩ := exists_hallRun
  refine ⟨.object read_hallText, e, hrun, hfound, fun n => ?_⟩
  rw [hfilled]
  cases n with
  | zero => decide +kernel
  | succ n =>
    rw [List.take_succ_cons, List.take_nil]
    decide +kernel

end SharedFile

end HomeHub.Device
