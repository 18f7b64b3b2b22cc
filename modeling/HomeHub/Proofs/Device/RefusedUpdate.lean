import HomeHub.Proofs.Device.Refusal
import HomeHub.Proofs.Device.SharedFile

/-!
# Refused updates step by step

An update that fails never comes to empty the file, so it leaves the file alone at every moment, and it fails
as it does in one go. Look-ups change nothing either.
-/
namespace HomeHub.Device

namespace Stage

/-- The fault that an update returns or is going to return. -/
def failure? : Stage → Option DeviceFault
  | leaving (.error fault) | returned (.error fault) => some fault
  | _ => none

/-- Whether the update has changed the file. -/
def hasEmptied : Stage → Bool
  | emptied _ | leaving (.ok ()) | returned (.ok ()) => true
  | _ => false

theorem hasEmptied_of_isDone {stage : Stage} (h : stage.isDone) : stage.hasEmptied := by
  cases stage with
  | leaving result | returned result =>
    cases result with
    | ok _ => rfl
    | error fault => cases h
  | started | waiting _ | locked _ | composed _ | emptied _ => cases h

theorem not_hasEmptied_of_failure? {stage : Stage} {fault : DeviceFault}
    (h : stage.failure? = some fault) : ¬stage.hasEmptied := by
  cases stage with
  | leaving result | returned result =>
    cases result with
    | ok _ => cases h
    | error _ => exact Bool.false_ne_true
  | started | waiting _ | locked _ | composed _ | emptied _ => cases h

end Stage

namespace SharedFile

universe u v

variable {ι : Type u} {ρ : Type v} {posts : ι → Post} {file : File} {e e' : SharedFile ι ρ} {i j : ι}

theorem IsSound.file_eq (h : e.IsSound posts file) (hnone : ∀ i, ¬(e.stage i).hasEmptied) :
    e.filled = [] ∧ e.file = file := by
  have hfilled : e.filled = [] := List.eq_nil_iff_forall_not_mem.mpr fun i hi =>
    hnone i (Stage.hasEmptied_of_isDone ((h.updates i).mem_filled.mp hi))
  have hfull : ¬e.isHalfWritten := by
    unfold isHalfWritten
    split
    · rename_i i hlock
      intro hemptied
      refine hnone i ?_
      cases hstage : e.stage i with
      | emptied _ => rfl
      | started | waiting _ | locked _ | composed _ | leaving _ | returned _ =>
        rw [hstage] at hemptied
        cases hemptied
    · exact Bool.false_ne_true
  refine ⟨hfilled, ?_⟩
  rw [h.content, if_neg hfull, whole, hfilled]
  rfl

variable [DecidableEq ι]

theorem hasEmptied_enter {stage : Stage} (hstage : (e.stage i).hasEmptied → stage.hasEmptied)
    (h : (e.stage j).hasEmptied) : ((e.enter i stage).stage j).hasEmptied := by
  by_cases hj : j = i
  · subst hj
    simpa [enter] using hstage h
  · simpa [enter, hj] using h

theorem failure?_enter {stage : Stage} {fault : DeviceFault}
    (h : ((e.enter i stage).stage j).failure? = some fault) :
    (j = i ∧ stage.failure? = some fault) ∨ (e.stage j).failure? = some fault := by
  by_cases hj : j = i
  · subst hj
    exact Or.inl ⟨rfl, by simpa [enter] using h⟩
  · exact Or.inr (by simpa [enter, hj] using h)

variable [DecidableEq ρ] {ids : ρ → String}

theorem Step.hasEmptied (h : Step posts ids e e') (hemptied : (e.stage j).hasEmptied) :
    (e'.stage j).hasEmptied := by
  cases h with
  | lookUp _ => exact hemptied
  | accept hstage _ | refuse hstage _ | acquire hstage _ | compose hstage _ | readFails hstage _
  | emptyFails hstage _ =>
    exact hasEmptied_enter (fun h => by rw [hstage] at h; cases h) hemptied
  | empty _ _ | fill _ _ => exact hasEmptied_enter (fun _ => rfl) hemptied
  | @release i result hstage =>
    refine hasEmptied_enter (fun h => ?_) hemptied
    rw [hstage] at h
    cases result with
    | ok _ => rfl
    | error fault => cases h

theorem Leads.hasEmptied (h : Leads posts ids e e') (hemptied : (e.stage j).hasEmptied) :
    (e'.stage j).hasEmptied := by
  induction h with
  | refl => exact hemptied
  | tail _ hstep ih => exact hstep.hasEmptied ih

/-- An update that fails now fails as it does alone on what whole updates have left. -/
theorem Step.failure? (h : Step posts ids e e') (hsound : e.IsSound posts file) {fault : DeviceFault}
    (hfailure : (e'.stage j).failure? = some fault) :
    (e.stage j).failure? = some fault ∨
      update (e.whole posts file) (posts j).id (posts j).body = .error fault := by
  cases h with
  | lookUp _ => exact Or.inl hfailure
  | accept _ _ | acquire _ _ | compose _ _ | empty _ _ | fill _ _ =>
    rcases failure?_enter hfailure with ⟨-, hnone⟩ | hbefore
    · cases hnone
    · exact Or.inl hbefore
  | refuse _ hread =>
    rcases failure?_enter hfailure with ⟨rfl, hfault⟩ | hbefore
    · cases hfault
      exact Or.inr (update_of_error hread)
    · exact Or.inl hbefore
  | @readFails i options _ hstage hread =>
    rcases failure?_enter hfailure with ⟨rfl, hfault⟩ | hbefore
    · cases hfault
      have hself := (hsound.updates j).due
      rw [hstage] at hself
      rw [hsound.file_of_holdsLock (i := j) (by rw [hstage]; rfl) (by simp [hstage, Stage.isEmptied])]
        at hread
      exact Or.inr ((update_eq_error_of_readUpdate hself).mpr (isStoreRefusal_of_readConfig hread))
    · exact Or.inl hbefore
  | @emptyFails i written _ hstage hwrite =>
    rcases failure?_enter hfailure with ⟨rfl, hfault⟩ | hbefore
    · cases hfault
      have hself : update (e.whole posts file) (posts j).id (posts j).body =
          ((e.whole posts file).write written).mapError .storage := by
        have hdue := (hsound.updates j).due
        rwa [hstage] at hdue
      rw [hsound.file_of_holdsLock (i := j) (by rw [hstage]; rfl) (by simp [hstage, Stage.isEmptied])]
        at hwrite
      rw [hself, File.write_eq_error_iff.mpr hwrite]
      exact Or.inr rfl
    · exact Or.inl hbefore
  | @release i result hstage =>
    rcases failure?_enter hfailure with ⟨rfl, hfault⟩ | hbefore
    · refine Or.inl ?_
      rw [hstage]
      cases result with
      | ok _ => cases hfault
      | error _ => exact hfault
    · exact Or.inl hbefore

theorem Leads.exists_failure (h : Leads posts ids (start file) e) {fault : DeviceFault}
    (hfailure : (e.stage j).failure? = some fault) :
    ∃ before, Leads posts ids (start file) before ∧ Leads posts ids before e ∧
      update (before.whole posts file) (posts j).id (posts j).body = .error fault := by
  induction h with
  | refl => cases hfailure
  | @tail before e hrun hstep ih =>
    rcases hstep.failure? (Leads.isSound hrun) hfailure with hbefore | hfails
    · obtain ⟨earlier, hearlier, hlater, hfails⟩ := ih hbefore
      exact ⟨earlier, hearlier, hlater.tail hstep, hfails⟩
    · exact ⟨before, hrun, .single hstep, hfails⟩

/-- Updates that all fail leave the file alone at every moment, and each fails as it does alone. -/
theorem Leads.file_eq_of_failures (h : Leads posts ids (start file) e)
    (hall : ∀ i, ∃ fault, (e.stage i).failure? = some fault) :
    (∀ before, Leads posts ids (start file) before → Leads posts ids before e → before.file = file) ∧
      ∀ i fault, (e.stage i).failure? = some fault →
        update file (posts i).id (posts i).body = .error fault := by
  have hunchanged (before : SharedFile ι ρ) (hbefore : Leads posts ids (start file) before)
      (hafter : Leads posts ids before e) : before.filled = [] ∧ before.file = file := by
    refine (Leads.isSound hbefore).file_eq fun i hemptied => ?_
    obtain ⟨fault, hfailure⟩ := hall i
    exact Stage.not_hasEmptied_of_failure? hfailure (Leads.hasEmptied hafter hemptied)
  refine ⟨fun before hbefore hafter => (hunchanged before hbefore hafter).2, fun i fault hfailure => ?_⟩
  -- no update has filled the file by the moment of the failure, so what it failed on is the file itself
  obtain ⟨before, hbefore, hafter, hfails⟩ := Leads.exists_failure h hfailure
  rwa [whole, (hunchanged before hbefore hafter).1] at hfails

theorem exists_leads_of_update_error {id : String} {body : ByteArray} {fault : DeviceFault}
    (h : update file id body = .error fault) (ids : ρ → String) :
    ∃ e : SharedFile Unit ρ, Leads (fun _ => ⟨id, body⟩) ids (start file) e ∧
      e.stage () = .returned (.error fault) := by
  cases hread : readUpdate id body with
  | error clientFault =>
    cases h.symm.trans (update_of_error hread)
    exact ⟨_, .single (.refuse (i := ()) rfl hread), rfl⟩
  | ok options =>
    have hlocked := (Relation.ReflTransGen.single (.accept (i := ()) rfl hread) :
      Leads (fun _ => ⟨id, body⟩) ids (start file) _).tail (.acquire (i := ()) rfl rfl)
    cases hconfig : readConfig file with
    | error storeFault =>
      have hupdate : update file id body = .error storeFault :=
        (update_eq_error_of_readUpdate hread).mpr (isStoreRefusal_of_readConfig hconfig)
      cases h.symm.trans hupdate
      exact ⟨_, (hlocked.tail (.readFails (i := ()) rfl hconfig)).tail (.release (i := ()) rfl), rfl⟩
    | ok config =>
      obtain ⟨-, storageFault, rfl, hwrite⟩ :=
        ((update_eq_error_of_readUpdate hread).mp h).readConfig_or_write.resolve_left fun hfails => by
          cases hconfig.symm.trans hfails
      have hcomposed := hlocked.tail (.compose (i := ()) rfl hconfig)
      exact ⟨_, (hcomposed.tail (.emptyFails (i := ()) rfl hwrite)).tail (.release (i := ()) rfl), rfl⟩

end SharedFile

section

universe v

variable {ρ : Type v} [DecidableEq ρ]

/-- What is wrong with what is posted is told first, whatever the file holds: that the body is no JSON, then
that the id is none, then the first option that is not accepted. An update in order fails exactly if the
file stands for no map or cannot be written. Step by step, with look-ups at any moment, an update that fails
returns the same and leaves the file alone all along, and so do look-ups by themselves. -/
theorem update_refusals (file : File) (id : String) (body : ByteArray) (ids : ρ → String) :
    (∀ fault, update file id body = .error fault ↔
      IsClientRefusal id body fault ∨ PassesChecks id body ∧ IsStoreRefusal file fault) ∧
    ((∃ fault, IsClientRefusal id body fault) ↔ ¬PassesChecks id body) ∧
    ((∃ fault, IsStoreRefusal file fault) ↔ ¬(IsMapFile file ∧ file.isWritable)) ∧
    (∀ fault, update file id body = .error fault ↔ ∃ e : SharedFile Unit ρ,
      SharedFile.Leads (fun _ => ⟨id, body⟩) ids (.start file) e ∧
        e.stage () = .returned (.error fault)) ∧
    (∀ (e : SharedFile Unit ρ) (fault : DeviceFault),
      SharedFile.Leads (fun _ => ⟨id, body⟩) ids (.start file) e →
      e.stage () = .returned (.error fault) → ∀ before,
        SharedFile.Leads (fun _ => ⟨id, body⟩) ids (.start file) before →
        SharedFile.Leads (fun _ => ⟨id, body⟩) ids before e → before.file = file) ∧
    ∀ e : SharedFile Empty ρ, SharedFile.Leads nofun ids (.start file) e → e.file = file := by
  have hfailures {e : SharedFile Unit ρ} {fault : DeviceFault}
      (hstage : e.stage () = .returned (.error fault)) :
      (e.stage ()).failure? = some fault := by
    rw [hstage]
    rfl
  refine ⟨fun fault => update_eq_error_iff, ?_, exists_isStoreRefusal_iff, fun fault => ⟨fun h => ?_, ?_⟩,
    fun e fault hrun hstage before hbefore hafter => ?_, fun e hrun => ?_⟩
  · rw [passesChecks_iff]
    simp only [← readUpdate_eq_error_iff]
    cases readUpdate id body <;> simp
  · exact SharedFile.exists_leads_of_update_error h ids
  · rintro ⟨e, hrun, hstage⟩
    exact (hrun.file_eq_of_failures fun _ => ⟨fault, hfailures hstage⟩).2 () fault (hfailures hstage)
  · exact (hrun.file_eq_of_failures fun _ => ⟨fault, hfailures hstage⟩).1 before hbefore hafter
  · exact (hrun.file_eq_of_failures nofun).1 e hrun .refl

end

/-- A file that holds a list: an id without a point is told nevertheless, and an update in order comes to
its end without a change. -/
theorem listFile_kept :
    let fault : DeviceFault := .unreadable ⟨.fault (.wrongType .sequence "a map"), ⟨1, 0⟩⟩
    update (.text "[1]") "fan" fanBody = .error (.invalidId "fan") ∧
      ∃ e : SharedFile Unit Unit,
        SharedFile.Leads (fun _ => ⟨"fan.b", fanBody⟩) (fun _ => "fan.b") (.start (.text "[1]")) e ∧
          e.stage () = .returned (.error fault) ∧ e.file = .text "[1]" := by
  intro fault
  have hupdate : update (.text "[1]") "fan.b" fanBody = .error fault := by decide +kernel
  obtain ⟨-, -, -, hruns, hunchanged, -⟩ :=
    update_refusals (.text "[1]") "fan.b" fanBody (fun _ : Unit => "fan.b")
  obtain ⟨e, hrun, hstage⟩ := (hruns fault).mp hupdate
  exact ⟨by decide +kernel, e, hrun, hstage, hunchanged e fault hrun hstage e hrun .refl⟩

end HomeHub.Device
