import HomeHub.Proofs.Refresh.Schedule
import HomeHub.Refresh.Vigil

/-!
# The clock of a vigil

What holds of the clock between two refreshes: a pending retry lies ahead, and as it is due at minute 15
or later while ticks come before minute 10, no retry coincides with a tick.
-/
namespace HomeHub

/-- How a refresh at an instant may end: a failure asks for the retry that the instant has. -/
def RefreshOutcome.IsPossibleAt (now : Instant) : RefreshOutcome → Prop
  | updated _ => True
  | retryScheduled retry => retryAt now = some retry
  | retryDropped => retryAt now = none

theorem RefreshOutcome.IsPossibleAt.retryAt_eq {now retry : Instant} {outcome : RefreshOutcome}
    (h : outcome.IsPossibleAt now) (hretry : outcome.retry? = some retry) :
    retryAt now = some retry := by
  cases outcome with
  | updated changed => cases hretry
  | retryScheduled instant =>
    obtain rfl := Option.some.inj hretry
    exact h
  | retryDropped => cases hretry

namespace VigilClock

/-- A clock that shows no leap second, and whose pending retry lies ahead and not in the minutes of
ticks. -/
structure IsSettled (c : VigilClock) : Prop where
  notLeap : ¬c.now.isLeap
  retryNotLeap : ∀ retry, c.pendingRetry = some retry → ¬retry.isLeap
  retryMinute : ∀ retry, c.pendingRetry = some retry → 15 ≤ retry.minuteOfHour
  lt_retry : ∀ retry, c.pendingRetry = some retry → c.now < retry

/-- A retry that a refresh at an instant has just armed, or one that was pending and lies ahead. -/
theorem isSettled_of_armed {now : Instant} (hnow : ¬now.isLeap) {outcome : RefreshOutcome}
    (hpossible : outcome.IsPossibleAt now) {retry : Instant} (hretry : outcome.retry? = some retry) :
    IsSettled ⟨now, some retry⟩ := by
  obtain ⟨rfl, hminute⟩ := retryAt_eq_some_iff.mp (hpossible.retryAt_eq hretry)
  refine ⟨hnow, ?_, ?_, ?_⟩ <;> rintro _ ⟨⟩
  · exact Instant.not_isLeap_addSeconds hnow _
  · exact hminute
  · exact lt_addMinutes hnow

theorem isSettled_start {now : Instant} (hnow : ¬now.isLeap) {outcome : RefreshOutcome}
    (hpossible : outcome.IsPossibleAt now) : (start now outcome).IsSettled := by
  unfold start
  cases hretry : outcome.retry? with
  | none => exact ⟨hnow, by simp, by simp, by simp⟩
  | some retry => exact isSettled_of_armed hnow hpossible hretry

variable {c : VigilClock} {schedule : HourlySchedule}

/-- A settled clock wakes at its pending retry if that comes before the next tick, else at the tick; it
is never both. -/
theorem IsSettled.wake_cases (h : c.IsSettled) (hschedule : schedule.isUsual) :
    (∃ retry, c.pendingRetry = some retry ∧ retry < schedule.nextAfter c.now ∧
      c.wake schedule = (retry, true)) ∨
    ((∀ retry, c.pendingRetry = some retry → schedule.nextAfter c.now < retry) ∧
      c.wake schedule = (schedule.nextAfter c.now, false)) := by
  cases hpending : c.pendingRetry with
  | none => exact Or.inr ⟨by simp, by simp [wake, HourlySchedule.nextWake, hpending]⟩
  | some retry =>
    by_cases hlt : retry < schedule.nextAfter c.now
    · exact Or.inl ⟨retry, rfl, hlt, by simp [wake, HourlySchedule.nextWake, hpending, hlt]⟩
    · refine Or.inr ⟨?_, by simp [wake, HourlySchedule.nextWake, hpending, hlt]⟩
      rintro _ ⟨⟩
      have htick := schedule.isTick_nextAfter c.now
      have hne : schedule.nextAfter c.now ≠ retry := by
        rintro rfl
        have hbefore := schedule.minuteOfHour_lt_of_isTick hschedule htick
        have hbehind := h.retryMinute _ hpending
        omega
      exact (Instant.lt_or_eq_of_le (Instant.not_lt.mp hlt)).resolve_right hne

theorem IsSettled.lt_wake (h : c.IsSettled) (hschedule : schedule.isUsual) :
    c.now < (c.wake schedule).1 := by
  rcases h.wake_cases hschedule with ⟨retry, hpending, -, hwake⟩ | ⟨-, hwake⟩
  · rw [hwake]
    exact h.lt_retry retry hpending
  · rw [hwake]
    exact schedule.lt_nextAfter c.now

theorem IsSettled.wake_le_nextAfter (h : c.IsSettled) (hschedule : schedule.isUsual) :
    (c.wake schedule).1 ≤ schedule.nextAfter c.now := by
  rcases h.wake_cases hschedule with ⟨retry, -, hlt, hwake⟩ | ⟨-, hwake⟩
  · rw [hwake]
    exact Instant.le_of_lt hlt
  · rw [hwake]
    exact Instant.le_refl _

theorem IsSettled.not_isLeap_wake (h : c.IsSettled) (hschedule : schedule.isUsual) :
    ¬(c.wake schedule).1.isLeap := by
  rcases h.wake_cases hschedule with ⟨retry, hpending, -, hwake⟩ | ⟨-, hwake⟩
  · rw [hwake]
    exact h.retryNotLeap retry hpending
  · rw [hwake]
    exact HourlySchedule.not_isLeap_of_isTick (schedule.isTick_nextAfter c.now)

theorem IsSettled.wake_snd_iff (h : c.IsSettled) (hschedule : schedule.isUsual) :
    (c.wake schedule).2 ↔ ¬schedule.IsTick (c.wake schedule).1 := by
  rcases h.wake_cases hschedule with ⟨retry, hpending, -, hwake⟩ | ⟨-, hwake⟩
  · rw [hwake]
    refine iff_of_true rfl fun (htick : schedule.IsTick retry) => ?_
    have hbefore := schedule.minuteOfHour_lt_of_isTick hschedule htick
    have hbehind := h.retryMinute _ hpending
    omega
  · rw [hwake]
    exact iff_of_false (by simp) fun hnot => hnot (schedule.isTick_nextAfter c.now)

theorem pendingRetry_advance (c : VigilClock) (wake : Instant × Bool) (outcome : RefreshOutcome) :
    (c.advance wake outcome).pendingRetry =
      Option.or outcome.retry? (if wake.2 then none else c.pendingRetry) := by
  unfold VigilClock.advance
  cases outcome.retry? <;> rfl

theorem IsSettled.advance (h : c.IsSettled) (hschedule : schedule.isUsual) {outcome : RefreshOutcome}
    (hpossible : outcome.IsPossibleAt (c.wake schedule).1) :
    (c.advance (c.wake schedule) outcome).IsSettled := by
  have hnow := h.not_isLeap_wake hschedule
  unfold VigilClock.advance
  cases hretry : outcome.retry? with
  | some retry => exact isSettled_of_armed hnow hpossible hretry
  | none =>
    rcases h.wake_cases hschedule with ⟨retry, -, -, hwake⟩ | ⟨hbehind, hwake⟩
    · rw [hwake] at hnow ⊢
      exact ⟨hnow, by simp, by simp, by simp⟩
    · rw [hwake] at hnow ⊢
      exact ⟨hnow, h.retryNotLeap, h.retryMinute, hbehind⟩

/-- The clock of a vigil after each refresh; the first one is made at its start. -/
def after (schedule : HourlySchedule) (now : Instant) (outcomes : Nat → RefreshOutcome) :
    Nat → VigilClock
  | 0 => start now (outcomes 0)
  | n + 1 =>
    let before := after schedule now outcomes n
    before.advance (before.wake schedule) (outcomes (n + 1))

end VigilClock

end HomeHub
