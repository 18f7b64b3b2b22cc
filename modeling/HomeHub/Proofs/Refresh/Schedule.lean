import HomeHub.Proofs.Time.Instant
import HomeHub.Refresh.Schedule

/-!
# Ticks and retries

A schedule ticks at its minute and second of every hour. The instant it wakes at next is the first tick
after now or a retry before that tick.
-/
namespace HomeHub

/-- An instant is a tick of a schedule: the start of its second in its minute of some hour. -/
structure HourlySchedule.IsTick (s : HourlySchedule) (t : Instant) : Prop where
  minute : t.minuteOfHour = s.minute
  second : t.secondOfMinute = s.second
  nano : t.nano = 0

namespace HourlySchedule

variable {s : HourlySchedule} {now later t : Instant}

theorem isTick_iff : s.IsTick t ↔
    t.second % 3600 = s.minute * 60 + s.second ∧ t.nano = 0 := by
  have hm := s.minute_lt
  have hs := s.second_lt
  have hfields : s.IsTick t ↔
      t.minuteOfHour = s.minute ∧ t.secondOfMinute = s.second ∧ t.nano = 0 :=
    ⟨fun ⟨hminute, hsecond, hnano⟩ => ⟨hminute, hsecond, hnano⟩,
      fun ⟨hminute, hsecond, hnano⟩ => ⟨hminute, hsecond, hnano⟩⟩
  simp only [hfields, Instant.minuteOfHour, Instant.secondOfMinute, secondsPerHour, secondsPerMinute]
  omega

theorem second_tickOfHour (s : HourlySchedule) (now : Instant) :
    (s.tickOfHour now).second = now.second / 3600 * 3600 + s.minute * 60 + s.second := by
  simp [tickOfHour, Instant.ofSecond, Instant.hourStart, secondsPerHour, secondsPerMinute]

theorem not_isLeap_tickOfHour (s : HourlySchedule) (now : Instant) : ¬(s.tickOfHour now).isLeap := by
  simp [tickOfHour, Instant.ofSecond, Instant.isLeap, nanosPerSecond]

/-- The next tick in seconds: in this hour if it is still to come, else in the next one. -/
theorem nextAfter_cases (s : HourlySchedule) (now : Instant) :
    (s.nextAfter now).nano = 0 ∧
      ((now.second < now.second / 3600 * 3600 + s.minute * 60 + s.second ∧
        (s.nextAfter now).second = now.second / 3600 * 3600 + s.minute * 60 + s.second) ∨
      (now.second / 3600 * 3600 + s.minute * 60 + s.second ≤ now.second ∧
        (s.nextAfter now).second = now.second / 3600 * 3600 + s.minute * 60 + s.second + 3600)) := by
  have htick := s.second_tickOfHour now
  have hnano : (s.tickOfHour now).nano = 0 := rfl
  by_cases h : now < s.tickOfHour now
  · have hnext : s.nextAfter now = s.tickOfHour now := if_pos h
    rw [Instant.lt_def] at h
    rw [hnext]
    omega
  · have hnext : s.nextAfter now = (s.tickOfHour now).addHours 1 := if_neg h
    have hsecond := Instant.second_addSeconds (s.not_isLeap_tickOfHour now) (1 * secondsPerHour)
    have hnano' := Instant.nano_addSeconds (s.not_isLeap_tickOfHour now) (1 * secondsPerHour)
    rw [Instant.lt_def] at h
    rw [hnext, Instant.addHours, hsecond, hnano']
    simp only [secondsPerHour]
    omega

theorem isTick_nextAfter (s : HourlySchedule) (now : Instant) : s.IsTick (s.nextAfter now) := by
  have hm := s.minute_lt
  have hs := s.second_lt
  have hcases := s.nextAfter_cases now
  rw [isTick_iff]
  omega

theorem lt_nextAfter (s : HourlySchedule) (now : Instant) : now < s.nextAfter now := by
  have hm := s.minute_lt
  have hs := s.second_lt
  have hcases := s.nextAfter_cases now
  rw [Instant.lt_def]
  omega

theorem nextAfter_le (ht : s.IsTick t) (h : now < t) : s.nextAfter now ≤ t := by
  have hm := s.minute_lt
  have hs := s.second_lt
  have hcases := s.nextAfter_cases now
  obtain ⟨htick, hnano⟩ := isTick_iff.mp ht
  rw [Instant.lt_def] at h
  rw [Instant.le_def]
  omega

theorem nextAfter_le_addHours (s : HourlySchedule) (h : ¬now.isLeap) :
    s.nextAfter now ≤ now.addHours 1 := by
  have hm := s.minute_lt
  have hs := s.second_lt
  have hcases := s.nextAfter_cases now
  rw [Instant.le_def, Instant.addHours, Instant.second_addSeconds h, Instant.nano_addSeconds h]
  simp only [secondsPerHour]
  omega

theorem nextAfter_mono (s : HourlySchedule) (h : now ≤ later) : s.nextAfter now ≤ s.nextAfter later :=
  nextAfter_le (s.isTick_nextAfter later) (Instant.lt_of_le_of_lt h (s.lt_nextAfter later))

theorem not_isLeap_of_isTick (h : s.IsTick t) : ¬t.isLeap := by
  rw [Instant.not_isLeap_iff, h.nano]
  decide

/-- An instant that is a tick itself is followed by the tick of the next hour. -/
theorem nextAfter_of_isTick (ht : s.IsTick t) : s.nextAfter t = t.addHours 1 := by
  obtain ⟨htick, hnano⟩ := isTick_iff.mp ht
  have hcases := s.nextAfter_cases t
  have hleap := not_isLeap_of_isTick ht
  rw [Instant.eq_iff, Instant.addHours, Instant.second_addSeconds hleap,
    Instant.nano_addSeconds hleap]
  simp only [secondsPerHour]
  omega

theorem isRepresentable_nextAfter (s : HourlySchedule) (hleap : ¬now.isLeap)
    (hnow : now.isRepresentable) (hhour : (now.addHours 1).isRepresentable) :
    (s.nextAfter now).isRepresentable :=
  Instant.isRepresentable_of_le hnow hhour (Instant.le_of_lt (s.lt_nextAfter now))
    (s.nextAfter_le_addHours hleap)

/-- The ticks of a usual schedule lie before the minutes of retries. -/
theorem minuteOfHour_lt_of_isTick (hs : s.isUsual) (h : s.IsTick t) : t.minuteOfHour < 10 := by
  simp only [isUsual, Bool.and_eq_true, decide_eq_true_eq] at hs
  rw [h.minute]
  exact hs.1.2

/-- The next tick, for any minute and second, which count modulo 60: the only instant of that minute and
second from now until then, within the hour and in range if that is. Later instants have no earlier next
tick, and a tick is followed by the one an hour later. -/
theorem nextAfter_least (minute second : Nat) (hleap : ¬now.isLeap) (hnow : now.isRepresentable)
    (hhour : (now.addHours 1).isRepresentable) :
    let next := (ofFields minute second).nextAfter
    ((next now).minuteOfHour = minute % 60 ∧ (next now).secondOfMinute = second % 60 ∧
      (next now).nano = 0) ∧
    (next now).isRepresentable ∧ now < next now ∧ next now ≤ now.addHours 1 ∧
    (∀ t : Instant, t.minuteOfHour = minute % 60 → t.secondOfMinute = second % 60 → t.nano = 0 →
      ¬(now < t ∧ t < next now)) ∧
    (∀ later, now ≤ later → next now ≤ next later) ∧
    next (next now) = (next now).addHours 1 := by
  intro next
  have htick : (ofFields minute second).IsTick (next now) := isTick_nextAfter _ now
  refine ⟨⟨htick.minute, htick.second, htick.nano⟩, isRepresentable_nextAfter _ hleap hnow hhour,
    lt_nextAfter _ now, nextAfter_le_addHours _ hleap, ?_, fun later => nextAfter_mono _,
    nextAfter_of_isTick htick⟩
  rintro t hminute hsecond hnano ⟨hafter, hbefore⟩
  have hle : next now ≤ t := nextAfter_le ⟨hminute, hsecond, hnano⟩ hafter
  exact Instant.not_lt.mpr hle hbefore

/-- The last nanosecond of 1969. -/
def beforeEpoch : Instant := ⟨-1, 999999999, by decide⟩

/-- Minute 63 and second 125 are minute 3 and second 5; the next tick is in another hour, day and year. -/
theorem beforeEpoch_nextAfter : ¬beforeEpoch.isLeap ∧ beforeEpoch.isRepresentable ∧
    (beforeEpoch.addHours 1).isRepresentable ∧
    (ofFields 63 125).nextAfter beforeEpoch = .ofSecond 185 ∧
    beforeEpoch < (ofFields 63 125).nextAfter beforeEpoch ∧
    (ofFields 63 125).nextAfter (.ofSecond 185) = .ofSecond 3785 := by
  have hleap : ¬beforeEpoch.isLeap := by decide
  have hnow : beforeEpoch.isRepresentable := by decide
  have hhour : (beforeEpoch.addHours 1).isRepresentable := by decide
  have hnext : (ofFields 63 125).nextAfter beforeEpoch = .ofSecond 185 := by decide
  obtain ⟨-, -, hlt, -, -, -, hagain⟩ := nextAfter_least 63 125 hleap hnow hhour
  rw [hnext] at hagain
  exact ⟨hleap, hnow, hhour, hnext, hlt, hagain⟩

end HourlySchedule

variable {now retry : Instant}

theorem retryAt_eq_some_iff : retryAt now = some retry ↔
    retry = now.addMinutes 15 ∧ 15 ≤ retry.minuteOfHour := by
  have hretry : retryAt now =
      if 15 ≤ (now.addMinutes 15).minuteOfHour then some (now.addMinutes 15) else none := rfl
  rw [hretry, Option.ite_none_right_eq_some, Option.some.injEq]
  constructor
  · rintro ⟨hminute, rfl⟩
    exact ⟨rfl, hminute⟩
  · rintro ⟨rfl, hminute⟩
    exact ⟨hminute, rfl⟩

theorem lt_addMinutes (h : ¬now.isLeap) : now < now.addMinutes 15 := by
  rw [Instant.lt_def, Instant.addMinutes, Instant.second_addSeconds h]
  simp only [secondsPerMinute]
  omega

end HomeHub
