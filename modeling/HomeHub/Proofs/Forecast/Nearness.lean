import HomeHub.Proofs.Forecast.Nearest
import HomeHub.Proofs.Time.Instant
import Mathlib.Tactic.SplitIfs

/-!
# Nearness in whole milliseconds

A score leaves out what either end of an entry is away beyond whole milliseconds. As entries begin and
end at whole seconds, that never puts a farther entry in front of a nearer one.
-/
namespace HomeHub.Forecast

/-- Both ends are starts of seconds. -/
structure Entry.IsOnSeconds (entry : Entry) : Prop where
  validFrom : entry.validFrom.nano = 0
  validTo : entry.validTo.nano = 0

/-- The distances of an entry's ends from a target in nanoseconds, added up. -/
def exactDistance (entry : Entry) (target : Instant) : Nat :=
  (entry.validTo.nanosSince target).natAbs + (entry.validFrom.nanosSince target).natAbs

/-- From one end of an entry to the other, whichever comes first. -/
def Entry.length (entry : Entry) : Nat := (entry.validTo.nanosSince entry.validFrom).natAbs

/-- How far a target is from the time between the ends of an entry, both included. -/
def Entry.distanceTo (entry : Entry) (target : Instant) : Nat :=
  if (target < entry.validFrom ∧ target < entry.validTo) ∨
      (entry.validFrom < target ∧ entry.validTo < target) then
    min (entry.validTo.nanosSince target).natAbs (entry.validFrom.nanosSince target).natAbs
  else 0

/-- Seen from a target, a second starts a whole number of seconds away but for the target's own
fraction, be it in a leap second or not. -/
theorem exists_nanosSince_eq {t : Instant} (h : t.nano = 0) (target : Instant) :
    ∃ seconds : Int, t.nanosSince target = seconds * 1000000000 - (target.nano % 1000000000 : Nat) := by
  unfold Instant.nanosSince
  generalize (if target.secondOfDay < t.secondOfDay ∧ target.isLeap then (1 : Int)
    else if t.secondOfDay < target.secondOfDay ∧ t.isLeap then -1 else 0) = leap
  refine ⟨t.second - target.second + leap - (target.nano / 1000000000 : Nat), ?_⟩
  simp only [h, nanosPerSecond]
  omega

/-- What a score in milliseconds leaves out of the exact sum, for a target so many milliseconds and
nanoseconds into its second. It depends on where the target is, and the score is then known up to whole
seconds. -/
inductive LeavesOut (millis nanos score exact : Nat) : Prop
  | nothing : nanos = 0 → exact = score * 1000000 → LeavesOut millis nanos score exact
  | behindBoth : 0 < nanos → exact = score * 1000000 + 2 * nanos →
      score % 1000 = 2 * millis % 1000 → LeavesOut millis nanos score exact
  | between : 0 < nanos → exact = (score + 1) * 1000000 → (score + 1) % 1000 = 0 →
      LeavesOut millis nanos score exact
  | beforeBoth : 0 < nanos → exact + 2 * nanos = (score + 2) * 1000000 →
      (score + 2 + 2 * millis) % 1000 = 0 → LeavesOut millis nanos score exact

section

variable {millis nanos : Nat}

/-- One end: behind it the nanoseconds are left out, before it what they lack to a millisecond. -/
theorem distance_cases (seconds : Int) (hnanos : nanos < 1000000) {distance : Nat}
    (h : distance = (seconds * 1000000000 - (millis * 1000000 + nanos : Nat)).natAbs) :
    (nanos = 0 ∧ distance = distance / 1000000 * 1000000) ∨
    (0 < nanos ∧ distance = distance / 1000000 * 1000000 + nanos ∧
      distance / 1000000 % 1000 = millis % 1000) ∨
    (0 < nanos ∧ distance + nanos = (distance / 1000000 + 1) * 1000000 ∧
      (distance / 1000000 + 1 + millis) % 1000 = 0) := by
  omega

theorem leavesOut (hnanos : nanos < 1000000) {i j : Int} {a b : Nat}
    (ha : a = (i * 1000000000 - (millis * 1000000 + nanos : Nat)).natAbs)
    (hb : b = (j * 1000000000 - (millis * 1000000 + nanos : Nat)).natAbs) :
    LeavesOut millis nanos (a / 1000000 + b / 1000000) (a + b) := by
  have ha := distance_cases i hnanos ha
  have hb := distance_cases j hnanos hb
  by_cases hzero : nanos = 0
  · exact .nothing hzero (by omega)
  have hpos : 0 < nanos := Nat.pos_of_ne_zero hzero
  rcases ha.resolve_left (fun h => hzero h.1) with ⟨-, ha, ha'⟩ | ⟨-, ha, ha'⟩ <;>
  rcases hb.resolve_left (fun h => hzero h.1) with ⟨-, hb, hb'⟩ | ⟨-, hb, hb'⟩
  · exact .behindBoth hpos (by omega) (by omega)
  · exact .between hpos (by omega) (by omega)
  · exact .between hpos (by omega) (by omega)
  · exact .beforeBoth hpos (by omega) (by omega)

/-- Two scores that leave out different amounts differ by more than that, as whole seconds are multiples
of four milliseconds. -/
theorem LeavesOut.lt (hnanos : nanos < 1000000) {score score' exact exact' : Nat}
    (h : LeavesOut millis nanos score exact) (h' : LeavesOut millis nanos score' exact')
    (hlt : score < score') : exact < exact' := by
  cases h <;> cases h' <;> omega

end

theorem Entry.IsOnSeconds.leavesOut {entry : Entry} (h : entry.IsOnSeconds) (target : Instant) :
    LeavesOut (target.nano % 1000000000 / 1000000) (target.nano % 1000000)
      (endDistance entry target) (exactDistance entry target) := by
  obtain ⟨i, hi⟩ := exists_nanosSince_eq h.validTo target
  obtain ⟨j, hj⟩ := exists_nanosSince_eq h.validFrom target
  have hfraction : target.nano % 1000000000 =
      target.nano % 1000000000 / 1000000 * 1000000 + target.nano % 1000000 := by omega
  rw [hfraction] at hi hj
  exact Forecast.leavesOut (Nat.mod_lt _ (by decide)) (congrArg Int.natAbs hi)
    (congrArg Int.natAbs hj)

theorem exactDistance_lt_of_score_lt {a b : Entry} (ha : a.IsOnSeconds) (hb : b.IsOnSeconds)
    {target : Instant} (h : distanceScore a target < distanceScore b target) :
    exactDistance a target < exactDistance b target := by
  rw [distanceScore_eq_endDistance, distanceScore_eq_endDistance, Int.ofNat_lt] at h
  exact (ha.leavesOut target).lt (Nat.mod_lt _ (by decide)) (hb.leavesOut target) h

theorem exactDistance_eq {entry : Entry} (h : entry.IsOnSeconds) {target : Instant}
    (htarget : ¬target.isLeap) :
    exactDistance entry target = entry.length + 2 * entry.distanceTo target := by
  have hfrom : ¬entry.validFrom.isLeap := by
    rw [Instant.not_isLeap_iff, h.validFrom]
    decide
  have hto : ¬entry.validTo.isLeap := by
    rw [Instant.not_isLeap_iff, h.validTo]
    decide
  have hnano := Instant.not_isLeap_iff.mp htarget
  simp only [exactDistance, Entry.length, Entry.distanceTo, Instant.lt_def,
    Instant.nanosSince_of_not_isLeap hto htarget, Instant.nanosSince_of_not_isLeap hfrom htarget,
    Instant.nanosSince_of_not_isLeap hto hfrom, h.validFrom, h.validTo]
  split_ifs <;> omega

/-- Of two entries that begin and end at whole seconds the one with the smaller score is the nearer one,
by the exact distances of its ends: those add up to the length of the entry and twice what the target
is away from it. In a ranking a farther entry comes first only where the scores are the same. -/
theorem rank_nearer_first (target : Instant) :
    (∀ a b : Entry, a.IsOnSeconds → b.IsOnSeconds →
      distanceScore a target < distanceScore b target →
      exactDistance a target < exactDistance b target) ∧
    (∀ entry : Entry, entry.IsOnSeconds → ¬target.isLeap →
      exactDistance entry target = entry.length + 2 * entry.distanceTo target) ∧
    ∀ (document : Document) (now : Instant),
      (rank document now target).Pairwise fun first later =>
        first.entry.IsOnSeconds → later.entry.IsOnSeconds →
        exactDistance later.entry target < exactDistance first.entry target →
        first.score = later.score := by
  refine ⟨fun a b ha hb h => exactDistance_lt_of_score_lt ha hb h,
    fun entry h htarget => exactDistance_eq h htarget, fun document now => ?_⟩
  refine (pairwise_score_rank document now target).imp_of_mem ?_
  intro first later hfirst hlater hscore hfirstOn hlaterOn hfarther
  rw [(mem_rank.mp hfirst).2.2, (mem_rank.mp hlater).2.2] at *
  rcases Int.lt_or_eq_of_le hscore with hlt | heq
  · have hnearer := exactDistance_lt_of_score_lt hfirstOn hlaterOn hlt
    omega
  · exact heq

/-- An hour of 1970, and the next one without its last second, in the wrong order. -/
def wholeHour : Entry := ⟨.ofSecond 0, .ofSecond 3600, .empty⟩

def shortHour : Entry := ⟨.ofSecond 7199, .ofSecond 3600, .empty⟩

/-- The last nanosecond of the first of these hours. -/
def lateTarget : Instant := ⟨3599, 999999999, by decide⟩

/-- The target lies in the whole hour and a nanosecond before the short one, which is nearer by what it
lacks and therefore ranked first. -/
theorem shortHour_nearer :
    (wholeHour.IsOnSeconds ∧ shortHour.IsOnSeconds ∧ ¬lateTarget.isLeap) ∧
    distanceScore shortHour lateTarget = 3599000 ∧ distanceScore wholeHour lateTarget = 3599999 ∧
    exactDistance shortHour lateTarget < exactDistance wholeHour lateTarget ∧
    exactDistance shortHour lateTarget = shortHour.length + 2 * shortHour.distanceTo lateTarget ∧
    shortHour.length = 3599000000000 ∧ shortHour.distanceTo lateTarget = 1 ∧
    (rank ⟨.ofSecond 0, [wholeHour, shortHour]⟩ (.ofSecond 0) lateTarget).Pairwise fun first later =>
      first.entry.IsOnSeconds → later.entry.IsOnSeconds →
      exactDistance later.entry lateTarget < exactDistance first.entry lateTarget →
      first.score = later.score := by
  have hwhole : wholeHour.IsOnSeconds := ⟨rfl, rfl⟩
  have hshort : shortHour.IsOnSeconds := ⟨rfl, rfl⟩
  have htarget : ¬lateTarget.isLeap := by decide
  obtain ⟨hnearer, hsum, hranked⟩ := rank_nearer_first lateTarget
  exact ⟨⟨hwhole, hshort, htarget⟩, by decide, by decide, hnearer _ _ hshort hwhole (by decide),
    hsum _ hshort htarget, by decide, by decide, hranked _ _⟩

-- two entries of a few milliseconds: the first is ranked before the second, which is nearer
example :
    let target : Instant := ⟨0, 900000, by decide⟩
    let first : Entry := ⟨.ofSecond 0, .ofSecond 0, .empty⟩
    let second : Entry := ⟨⟨0, 1000000, by decide⟩, ⟨0, 2000000, by decide⟩, .empty⟩
    distanceScore first target < distanceScore second target ∧
      exactDistance second target < exactDistance first target := by decide

end HomeHub.Forecast
