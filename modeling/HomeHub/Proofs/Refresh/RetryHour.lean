import HomeHub.Proofs.Refresh.VigilRun

/-!
# Retries keep to the hour of their failure

A failure in the first 45 minutes of an hour is tried again in the same hour, behind the minutes in which
refreshes are due. A later failure waits for the next hour's refresh.
-/
namespace HomeHub

/-- Instants of one hour of one day. -/
structure Instant.SharesHour (a b : Instant) : Prop where
  hour : a.hourOfDay = b.hourOfDay
  date : a.date = b.date

section

variable {now retry : Instant}

theorem second_addMinutes_fifteen (now : Instant) :
    (now.addMinutes 15).second = now.second + 900 :=
  Instant.second_addSeconds_of_pos (by decide)

theorem fifteen_le_minuteOfHour_addMinutes_iff :
    15 ≤ (now.addMinutes 15).minuteOfHour ↔ now.minuteOfHour < 45 := by
  have hsecond := second_addMinutes_fifteen now
  simp only [Instant.minuteOfHour, secondsPerHour, secondsPerMinute]
  omega

theorem isSome_retryAt_iff : (retryAt now).isSome ↔ now.minuteOfHour < 45 := by
  rw [Option.isSome_iff_exists, ← fifteen_le_minuteOfHour_addMinutes_iff]
  simp only [retryAt_eq_some_iff]
  constructor
  · rintro ⟨_, rfl, hminute⟩
    exact hminute
  · intro hminute
    exact ⟨_, rfl, hminute⟩

theorem sharesHour_addMinutes (h : now.minuteOfHour < 45) : (now.addMinutes 15).SharesHour now := by
  have hsecond := second_addMinutes_fifteen now
  have hday : (now.addMinutes 15).days = now.days := by
    simp only [Instant.minuteOfHour, Instant.days, secondsPerDay, secondsPerHour,
      secondsPerMinute] at *
    omega
  refine ⟨?_, congrArg Date.ofDays hday⟩
  simp only [Instant.minuteOfHour, Instant.hourOfDay, Instant.secondOfDay, secondsPerDay,
    secondsPerHour, secondsPerMinute] at *
  omega

theorem sharesHour_of_retryAt (h : retryAt now = some retry) : retry.SharesHour now := by
  obtain ⟨rfl, hminute⟩ := retryAt_eq_some_iff.mp h
  exact sharesHour_addMinutes (fifteen_le_minuteOfHour_addMinutes_iff.mp hminute)

end

namespace VigilRun

variable {run : VigilRun}

theorem arms_of_lastArmed {m n : Nat} (h : run.lastArmed n = some m) : run.arms m := by
  induction n with
  | zero => cases h
  | succ n ih =>
    by_cases harms : run.arms n
    · rw [lastArmed_succ_of_arms harms] at h
      obtain rfl := Option.some.inj h
      exact harms
    · rw [lastArmed_succ_of_not_arms harms] at h
      exact ih h

theorem Fires.retryAt_eq {m n : Nat} (h : run.Fires m n) :
    retryAt (run.instant m) = some (run.instant n) := by
  have hretry := retry?_of_arms (arms_of_lastArmed h.2)
  rw [h.instant_eq]
  exact (run.possible m).retryAt_eq hretry

end VigilRun

/-- There is a retry exactly for failures before minute 45. It comes 15 minutes after the failure, in the
same hour of the same day and not in the first 15 minutes of it, and so does every retry that fires in the
run of a vigil. -/
theorem retryAt_keeps_hour (now : Instant) :
    ((retryAt now).isSome ↔ now.minuteOfHour < 45) ∧
    (∀ retry, retryAt now = some retry →
      retry = now.addMinutes 15 ∧
      (¬now.isLeap → retry.second = now.second + 15 * 60 ∧ retry.nano = now.nano) ∧
      retry.SharesHour now ∧ 15 ≤ retry.minuteOfHour) ∧
    ∀ (run : VigilRun) (n : Nat), run.isRetry n →
      ∃ m, run.Fires m n ∧ (run.instant n).SharesHour (run.instant m) ∧
        15 ≤ (run.instant n).minuteOfHour := by
  refine ⟨isSome_retryAt_iff, fun retry h => ?_, fun run n h => ?_⟩
  · obtain ⟨hretry, hminute⟩ := retryAt_eq_some_iff.mp h
    refine ⟨hretry, fun hleap => ?_, sharesHour_of_retryAt h, hminute⟩
    rw [hretry]
    exact ⟨second_addMinutes_fifteen now, Instant.nano_addSeconds hleap _⟩
  · obtain ⟨m, hfires⟩ := VigilRun.exists_fires h
    exact ⟨m, hfires, sharesHour_of_retryAt hfires.retryAt_eq, VigilRun.minuteOfHour_of_isRetry h⟩

/-- The last nanosecond of minute 44, in the last hour of 1969. -/
def lateFailure : Instant := ⟨-901, 999999999, by decide⟩

/-- The retry is in the last second of the year, and a nanosecond later there would be none. -/
theorem lateFailure_retried :
    retryAt lateFailure = some ⟨-1, 999999999, by decide⟩ ∧ ¬lateFailure.isLeap ∧
    ((⟨-1, 999999999, by decide⟩ : Instant).SharesHour lateFailure ∧
      lateFailure.date = ⟨1969, 12, 31⟩) ∧
    retryAt (.ofSecond (-900)) = none := by
  have hretry : retryAt lateFailure = some ⟨-1, 999999999, by decide⟩ := by decide
  obtain ⟨-, hretried, -⟩ := retryAt_keeps_hour lateFailure
  obtain ⟨-, -, hhour, -⟩ := hretried _ hretry
  have hnone : ¬(retryAt (.ofSecond (-900))).isSome := by
    rw [(retryAt_keeps_hour _).1]
    decide
  exact ⟨hretry, by decide, ⟨hhour, by decide⟩, Option.not_isSome_iff_eq_none.mp hnone⟩

end HomeHub
