import HomeHub.Proofs.Refresh.Update
import HomeHub.Proofs.Refresh.VigilClock

/-!
# Runs of a vigil

However its refreshes end, a vigil misses no tick of its schedule, and a retry fires when it is due
unless a later failure replaces it.
-/
namespace HomeHub

/-- How the refreshes of a vigil with a usual schedule may end, one after the other. -/
structure VigilRun where
  schedule : HourlySchedule
  usual : schedule.isUsual
  start : Instant
  notLeap : ¬start.isLeap
  outcomes : Nat → RefreshOutcome
  possible : ∀ n, (outcomes n).IsPossibleAt (VigilClock.after schedule start outcomes n).now

theorem Refresher.isPossibleAt_selectHeld (r : Refresher) (now : Instant) :
    (r.selectHeld now).2.1.IsPossibleAt now := by
  unfold selectHeld
  split
  · exact trivial
  · unfold selectNow
    dsimp only
    split <;> exact trivial

theorem FedRefresher.Updates.isPossibleAt {r : FedRefresher} {now : Instant}
    {result : FedRefresher × RefreshOutcome × List SensorUpdate} (h : r.Updates now result) :
    result.2.1.IsPossibleAt now := by
  cases h with
  | held _ => exact r.refresher.isPossibleAt_selectHeld now
  | @fetched document _ _ => exact (r.refresher.takeOver document).isPossibleAt_selectHeld now
  | failed _ _ => cases hretry : retryAt now <;> simp [Refresher.fail, hretry,
      RefreshOutcome.IsPossibleAt]

namespace Vigil

def afterRounds (v : Vigil) : Nat → Vigil
  | 0 => v
  | n + 1 => (v.afterRounds n).next

def outcomes (schedule : HourlySchedule) (source : FedRefresher) (now : Instant) :
    Nat → RefreshOutcome
  | 0 => (source.update now).2.1
  | n + 1 =>
    let before := (start schedule source now).afterRounds n
    (before.source.update (before.clock.wake before.schedule).1).2.1

variable (schedule : HourlySchedule) (source : FedRefresher) (now : Instant)

theorem schedule_afterRounds (n : Nat) :
    ((start schedule source now).afterRounds n).schedule = schedule := by
  induction n with
  | zero => rfl
  | succ n ih => exact ih

theorem clock_afterRounds (n : Nat) : ((start schedule source now).afterRounds n).clock =
    .after schedule now (outcomes schedule source now) n := by
  induction n with
  | zero => rfl
  | succ n ih =>
    let before := (start schedule source now).afterRounds n
    have hnext : before.next.clock = before.clock.advance (before.clock.wake before.schedule)
        (outcomes schedule source now (n + 1)) := rfl
    rw [afterRounds, hnext, VigilClock.after, ← ih, schedule_afterRounds]

def run (hschedule : schedule.isUsual) (hnow : ¬now.isLeap) : VigilRun where
  schedule := schedule
  usual := hschedule
  start := now
  notLeap := hnow
  outcomes := outcomes schedule source now
  possible
    | 0 => (source.updates_update now).isPossibleAt
    | n + 1 => by
      have hclock := clock_afterRounds schedule source now (n + 1)
      rw [← hclock]
      exact (FedRefresher.updates_update _ _).isPossibleAt

end Vigil

namespace VigilRun

variable (run : VigilRun)

def clock (n : Nat) : VigilClock := .after run.schedule run.start run.outcomes n

def instant (n : Nat) : Instant := (run.clock n).now

def isRetry : Nat → Bool
  | 0 => false
  | n + 1 => ((run.clock n).wake run.schedule).2

/-- Whether a refresh fails and arms a retry. -/
def arms (n : Nat) : Bool :=
  match run.outcomes n with
  | .retryScheduled _ => true
  | .updated _ | .retryDropped => false

/-- When the retry is due that a refresh arms. -/
def retryTime (n : Nat) : Instant := (run.instant n).addMinutes 15

/-- The last refresh before another that armed a retry. -/
def lastArmed : Nat → Option Nat
  | 0 => none
  | n + 1 => if run.arms n then some n else lastArmed n

/-- A refresh is the retry that an earlier one armed. -/
def Fires (m n : Nat) : Prop := run.isRetry n ∧ run.lastArmed n = some m

variable {run}

/-- The refreshes of a vigil are made at the instants of its run. -/
theorem now_afterRounds (schedule : HourlySchedule) (source : FedRefresher) {now : Instant}
    (hschedule : schedule.isUsual) (hnow : ¬now.isLeap) (n : Nat) :
    ((Vigil.start schedule source now).afterRounds n).clock.now =
      (Vigil.run schedule source now hschedule hnow).instant n :=
  congrArg VigilClock.now (Vigil.clock_afterRounds schedule source now n)

theorem isSettled_clock (run : VigilRun) (n : Nat) : (run.clock n).IsSettled := by
  induction n with
  | zero => exact VigilClock.isSettled_start run.notLeap (run.possible 0)
  | succ n ih => exact ih.advance run.usual (run.possible (n + 1))

theorem refresh_cases (run : VigilRun) (n : Nat) :
    ((run.clock n).pendingRetry = some (run.instant (n + 1)) ∧ run.isRetry (n + 1)) ∨
    ((∀ retry, (run.clock n).pendingRetry = some retry → run.instant (n + 1) < retry) ∧
      ¬run.isRetry (n + 1)) := by
  rcases (run.isSettled_clock n).wake_cases run.usual with ⟨retry, hretry, -, hwake⟩ | ⟨hbehind, hwake⟩
  · have hinstant : run.instant (n + 1) = retry := congrArg Prod.fst hwake
    have hflag : run.isRetry (n + 1) = true := congrArg Prod.snd hwake
    exact Or.inl ⟨by rw [hinstant, hretry], hflag⟩
  · have hinstant : run.instant (n + 1) = run.schedule.nextAfter (run.instant n) :=
      congrArg Prod.fst hwake
    have hflag : run.isRetry (n + 1) = false := congrArg Prod.snd hwake
    exact Or.inr ⟨by rw [hinstant]; exact hbehind, by simp [hflag]⟩

theorem instant_lt_succ (run : VigilRun) (n : Nat) : run.instant n < run.instant (n + 1) :=
  (run.isSettled_clock n).lt_wake run.usual

theorem instant_lt (run : VigilRun) {m n : Nat} (h : m < n) : run.instant m < run.instant n :=
  Instant.lt_of_succ_lt run.instant_lt_succ h

theorem lt_of_instant_lt (run : VigilRun) {m n : Nat} (h : run.instant m < run.instant n) :
    m < n := by
  rcases Nat.lt_trichotomy m n with hlt | rfl | hlt
  · exact hlt
  · exact absurd h (Instant.lt_irrefl _)
  · exact absurd (Instant.lt_trans h (run.instant_lt hlt)) (Instant.lt_irrefl _)

theorem eq_of_instant_eq (run : VigilRun) {m n : Nat} (h : run.instant m = run.instant n) :
    m = n := by
  rcases Nat.lt_trichotomy m n with hlt | heq | hlt
  · exact absurd (h ▸ run.instant_lt hlt) (Instant.lt_irrefl _)
  · exact heq
  · exact absurd (h ▸ run.instant_lt hlt) (Instant.lt_irrefl _)

theorem lt_retryTime (run : VigilRun) (n : Nat) : run.instant n < run.retryTime n :=
  lt_addMinutes (run.isSettled_clock n).notLeap

theorem isRetry_iff (run : VigilRun) (n : Nat) :
    run.isRetry (n + 1) ↔ ¬run.schedule.IsTick (run.instant (n + 1)) :=
  (run.isSettled_clock n).wake_snd_iff run.usual

theorem arms_iff {n : Nat} : run.arms n ↔ ∃ retry, run.outcomes n = .retryScheduled retry := by
  unfold arms
  cases run.outcomes n <;> simp

theorem retry?_of_arms {n : Nat} (h : run.arms n) :
    RefreshOutcome.retry? (run.outcomes n) = some (run.retryTime n) := by
  obtain ⟨retry, houtcome⟩ := arms_iff.mp h
  have hretry : RefreshOutcome.retry? (run.outcomes n) = some retry := by
    rw [houtcome]
    rfl
  have hat := (run.possible n).retryAt_eq hretry
  rw [hretry, (retryAt_eq_some_iff.mp hat).1]
  rfl

theorem retry?_of_not_arms {n : Nat} (h : ¬run.arms n) :
    RefreshOutcome.retry? (run.outcomes n) = none := by
  cases houtcome : run.outcomes n with
  | retryScheduled retry => exact absurd (arms_iff.mpr ⟨retry, houtcome⟩) h
  | updated _ | retryDropped => rfl

theorem lastArmed_succ_of_arms {n : Nat} (h : run.arms n) : run.lastArmed (n + 1) = some n :=
  if_pos h

theorem lastArmed_succ_of_not_arms {n : Nat} (h : ¬run.arms n) :
    run.lastArmed (n + 1) = run.lastArmed n :=
  if_neg h

/-- What is pending after a refresh: the retry that was armed last, if it is still ahead. -/
theorem pendingRetry_clock (run : VigilRun) (n : Nat) :
    (run.clock n).pendingRetry = (run.lastArmed (n + 1)).bind fun m =>
      if run.instant n < run.retryTime m then some (run.retryTime m) else none := by
  induction n with
  | zero =>
    have hpending : (run.clock 0).pendingRetry = RefreshOutcome.retry? (run.outcomes 0) := rfl
    by_cases harms : run.arms 0
    · simp [hpending, lastArmed_succ_of_arms harms, retry?_of_arms harms, run.lt_retryTime 0]
    · simp only [hpending, retry?_of_not_arms harms, lastArmed_succ_of_not_arms harms]
      rfl
  | succ n ih =>
    have hpending : (run.clock (n + 1)).pendingRetry =
        Option.or (RefreshOutcome.retry? (run.outcomes (n + 1)))
          (if run.isRetry (n + 1) then none else (run.clock n).pendingRetry) :=
      VigilClock.pendingRetry_advance _ _ _
    by_cases harms : run.arms (n + 1)
    · simp [hpending, lastArmed_succ_of_arms harms, retry?_of_arms harms, run.lt_retryTime (n + 1)]
    rw [hpending, retry?_of_not_arms harms, lastArmed_succ_of_not_arms harms, Option.none_or]
    rcases run.refresh_cases n with ⟨hretry, hflag⟩ | ⟨hbehind, hflag⟩
    · obtain ⟨m, hlast, hm⟩ := Option.bind_eq_some_iff.mp (ih ▸ hretry)
      obtain ⟨-, hm⟩ := Option.ite_none_right_eq_some.mp hm
      have hdue : run.retryTime m = run.instant (n + 1) := Option.some.inj hm
      simp [hflag, hlast, hdue, Instant.lt_irrefl]
    · simp only [hflag, if_false, Bool.false_eq_true]
      cases hlast : run.lastArmed (n + 1) with
      | none => simp [ih, hlast]
      | some m =>
        by_cases hahead : run.instant n < run.retryTime m
        · have hretry : (run.clock n).pendingRetry = some (run.retryTime m) := by
            simp [ih, hlast, hahead]
          simp [hretry, hbehind _ hretry]
        · have hbefore : ¬run.instant (n + 1) < run.retryTime m := fun h =>
            hahead (Instant.lt_trans (run.instant_lt_succ n) h)
          simp [ih, hlast, hahead, hbefore]

/-- A retry comes 15 minutes after the last failure that armed one. -/
theorem Fires.instant_eq {m n : Nat} (h : run.Fires m n) : run.instant n = run.retryTime m := by
  obtain ⟨hflag, hlast⟩ := h
  cases n with
  | zero => cases hflag
  | succ n =>
    rcases run.refresh_cases n with ⟨hretry, -⟩ | ⟨-, hnot⟩
    · rw [run.pendingRetry_clock, hlast, Option.bind_some, Option.ite_none_right_eq_some] at hretry
      exact (Option.some.inj hretry.2).symm
    · exact absurd hflag hnot

theorem exists_fires {n : Nat} (h : run.isRetry n) : ∃ m, run.Fires m n := by
  cases n with
  | zero => cases h
  | succ n =>
    rcases run.refresh_cases n with ⟨hretry, -⟩ | ⟨-, hnot⟩
    · rw [run.pendingRetry_clock] at hretry
      obtain ⟨m, hlast, -⟩ := Option.bind_eq_some_iff.mp hretry
      exact ⟨m, h, hlast⟩
    · exact absurd h hnot

theorem minuteOfHour_of_isRetry {n : Nat} (h : run.isRetry n) :
    15 ≤ (run.instant n).minuteOfHour := by
  cases n with
  | zero => cases h
  | succ n =>
    rcases run.refresh_cases n with ⟨hretry, -⟩ | ⟨-, hnot⟩
    · exact (run.isSettled_clock n).retryMinute _ hretry
    · exact absurd h hnot

/-- An armed retry fires, if it is due before some refresh, unless a failure before that arms another. -/
theorem fires_or_rearmed {m n : Nat} (harms : run.arms m) (hmn : m ≤ n) :
    (run.instant n < run.retryTime m ∧ run.lastArmed (n + 1) = some m) ∨
    (∃ k, k ≤ n ∧ run.Fires m k) ∨
    ∃ k, m < k ∧ run.arms k ∧ run.instant k < run.retryTime m := by
  induction hmn with
  | refl => exact Or.inl ⟨run.lt_retryTime m, lastArmed_succ_of_arms harms⟩
  | @step n hmn ih =>
    rcases ih with ⟨hahead, hlast⟩ | ⟨k, hk, hfires⟩ | hrearmed
    · have hpending : (run.clock n).pendingRetry = some (run.retryTime m) := by
        simp [run.pendingRetry_clock, hlast, hahead]
      rcases run.refresh_cases n with ⟨hretry, hflag⟩ | ⟨hbehind, -⟩
      · exact Or.inr (Or.inl ⟨n + 1, Nat.le_refl _, hflag, hlast⟩)
      · have hahead' := hbehind _ hpending
        by_cases harms' : run.arms (n + 1)
        · exact Or.inr (Or.inr ⟨n + 1, Nat.lt_succ_of_le hmn, harms', hahead'⟩)
        · exact Or.inl ⟨hahead', by rw [lastArmed_succ_of_not_arms harms', hlast]⟩
    · exact Or.inr (Or.inl ⟨k, Nat.le_succ_of_le hk, hfires⟩)
    · exact Or.inr (Or.inr hrearmed)

/-- A vigil keeps its ticks and retries, however its refreshes end. Its refreshes come in strictly
ascending order, at most an hour apart, and none of its ticks lies between two of them. An armed retry
fires before any later refresh, unless a failure before it is due arms another. A refresh after the
first that is at no tick is a retry, made 15 minutes after the last failure that armed one and not in
the first 15 minutes of its hour, and no armed retry fires twice. -/
theorem keeps_ticks_and_retries (run : VigilRun) :
    (∀ n, run.instant n < run.instant (n + 1) ∧
      run.instant (n + 1) ≤ (run.instant n).addHours 1) ∧
    (∀ n t, run.schedule.IsTick t → ¬(run.instant n < t ∧ t < run.instant (n + 1))) ∧
    (∀ m n, run.arms m → (run.instant m).addMinutes 15 < run.instant n →
      (∃ k, k < n ∧ run.Fires m k ∧ run.instant k = (run.instant m).addMinutes 15) ∨
      ∃ k, run.arms k ∧ run.instant m < run.instant k ∧
        run.instant k < (run.instant m).addMinutes 15) ∧
    (∀ n, 0 < n → ¬run.schedule.IsTick (run.instant n) →
      ∃ m, run.Fires m n ∧ run.instant n = (run.instant m).addMinutes 15 ∧
        15 ≤ (run.instant n).minuteOfHour) ∧
    (∀ m n k, run.Fires m n → run.Fires m k → n = k) := by
  refine ⟨fun n => ⟨run.instant_lt_succ n, ?_⟩, ?_, ?_, ?_, ?_⟩
  · exact Instant.le_trans ((run.isSettled_clock n).wake_le_nextAfter run.usual)
      (run.schedule.nextAfter_le_addHours (run.isSettled_clock n).notLeap)
  · rintro n t htick ⟨hafter, hbefore⟩
    have hnext : run.schedule.nextAfter (run.instant n) ≤ t :=
      HourlySchedule.nextAfter_le htick hafter
    have hwake : run.instant (n + 1) ≤ run.schedule.nextAfter (run.instant n) :=
      (run.isSettled_clock n).wake_le_nextAfter run.usual
    exact Instant.not_lt.mpr (Instant.le_trans hwake hnext) hbefore
  · intro m n harms hdue
    have hmn : m < n := run.lt_of_instant_lt (Instant.lt_trans (run.lt_retryTime m) hdue)
    rcases fires_or_rearmed harms (Nat.le_of_lt hmn) with ⟨hahead, -⟩ | ⟨k, hk, hfires⟩ | ⟨k, hmk, hk⟩
    · exact absurd (Instant.lt_trans hahead hdue) (Instant.lt_irrefl _)
    · have hkn : k ≠ n := by
        rintro rfl
        rw [hfires.instant_eq] at hdue
        exact Instant.lt_irrefl _ hdue
      exact Or.inl ⟨k, by omega, hfires, hfires.instant_eq⟩
    · exact Or.inr ⟨k, hk.1, run.instant_lt hmk, hk.2⟩
  · intro n hn hnot
    obtain ⟨n, rfl⟩ := Nat.exists_eq_succ_of_ne_zero (Nat.ne_of_gt hn)
    have hretry : run.isRetry (n + 1) := (run.isRetry_iff n).mpr hnot
    obtain ⟨m, hfires⟩ := exists_fires hretry
    exact ⟨m, hfires, hfires.instant_eq, minuteOfHour_of_isRetry hretry⟩
  · intro m n k hn hk
    exact run.eq_of_instant_eq (hn.instant_eq.trans hk.instant_eq.symm)

/-- A vigil from minute 20 of an hour over a source that never answers. -/
def silentRun : VigilRun :=
  Vigil.run (.ofFields 5 0) (.ofSensors 0 [] []) (.ofSecond 1200) (by decide) (by decide)

/-- The retries at minutes 35 and 50 fire, each once, and no tick is missed before the next hour. -/
theorem silentRun_retried :
    (silentRun.arms 0 ∧ silentRun.arms 1 ∧ ¬silentRun.arms 2) ∧
    (¬silentRun.schedule.IsTick (.ofSecond 2100) ∧ silentRun.instant 1 = .ofSecond 2100 ∧
      silentRun.Fires 0 1 ∧ 15 ≤ (silentRun.instant 1).minuteOfHour) ∧
    (∀ n, silentRun.Fires 0 n → n = 1) ∧
    ((silentRun.instant 1).addMinutes 15 < silentRun.instant 3 ∧
      ∃ n, n < 3 ∧ silentRun.Fires 1 n ∧ silentRun.instant n = .ofSecond 3000) ∧
    (∀ t, silentRun.schedule.IsTick t → ¬(.ofSecond 3000 < t ∧ t < .ofSecond 3900)) := by
  obtain ⟨-, hticks, hfires, hretries, honce⟩ := keeps_ticks_and_retries silentRun
  have hfirst : silentRun.instant 1 = .ofSecond 2100 := by decide
  have hsecond : silentRun.instant 2 = .ofSecond 3000 := by decide
  have hthird : silentRun.instant 3 = .ofSecond 3900 := by decide
  have hdue : (silentRun.instant 1).addMinutes 15 = .ofSecond 3000 := by decide
  have hnot : ¬silentRun.schedule.IsTick (silentRun.instant 1) :=
    (silentRun.isRetry_iff 0).mp (by decide)
  obtain ⟨m, hm, -, hminute⟩ := hretries 1 (by decide) hnot
  have hlast : silentRun.lastArmed 1 = some 0 := by decide
  obtain rfl : 0 = m := Option.some.inj (hlast.symm.trans hm.2)
  refine ⟨by decide, ⟨hfirst ▸ hnot, hfirst, hm, hminute⟩, fun n hn => honce 0 n 1 hn hm,
    ⟨by decide, ?_⟩, fun t ht => ?_⟩
  · rcases hfires 1 3 (by decide) (by decide) with ⟨n, hn, hagain, hinstant⟩ | ⟨n, -, hafter, hbefore⟩
    · exact ⟨n, hn, hagain, hinstant.trans hdue⟩
    · have hlower := silentRun.lt_of_instant_lt hafter
      have hupper := silentRun.lt_of_instant_lt (hsecond ▸ hdue ▸ hbefore)
      omega
  · have htick := hticks 2 t ht
    rwa [hsecond, hthird] at htick

end VigilRun

end HomeHub
