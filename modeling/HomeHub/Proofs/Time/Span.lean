import HomeHub.Proofs.Number.Signed64
import HomeHub.Proofs.Time.Calendar
import HomeHub.Proofs.Time.Instant

/-!
# Spans of time

A span is the time from one instant to another, so long as its milliseconds fit in 64 bits. Instants in
the years that are kept always have one between them, and it is far shorter than spans can be.
-/
namespace HomeHub

/-- The milliseconds of the longest span. -/
def longestSpan : Nat := 9223372036854775807

/-- A time in nanoseconds, forward or back. -/
structure Span where
  nanos : Int
  nanos_le : nanos.natAbs ≤ longestSpan * 1000000
  deriving DecidableEq, Repr

namespace Span

def ofNanos? (nanos : Int) : Option Span :=
  if h : nanos.natAbs ≤ longestSpan * 1000000 then some ⟨nanos, h⟩ else none

/-- The span of so many hours. Already its seconds must fit in 64 bits. -/
def ofHours? (hours : Int64) : Option Span :=
  (checkedMul64 hours 3600).bind fun seconds => ofNanos? (seconds.toInt * nanosPerSecond)

/-- Whole seconds, cut toward zero. -/
def seconds (s : Span) : Int64 := .ofInt (s.nanos.tdiv nanosPerSecond)

/-- Whole milliseconds, cut toward zero. -/
def millis (s : Span) : Int64 := .ofInt (s.nanos.tdiv 1000000)

/-- A span has no more of a unit of at least a millisecond than fit in 64 bits. -/
theorem isSigned64_tdiv (s : Span) {unit : Nat} (h : 1000000 ≤ unit) :
    IsSigned64 (s.nanos.tdiv unit) := by
  have habs : (s.nanos.tdiv unit).natAbs ≤ longestSpan := by
    calc (s.nanos.tdiv unit).natAbs = s.nanos.natAbs / unit := Int.natAbs_tdiv s.nanos unit
      _ ≤ s.nanos.natAbs / 1000000 := Nat.div_le_div_left h (by decide)
      _ ≤ longestSpan := Nat.div_le_of_le_mul (Nat.mul_comm _ _ ▸ s.nanos_le)
  unfold longestSpan at habs
  unfold IsSigned64
  omega

theorem toInt_seconds (s : Span) : s.seconds.toInt = s.nanos.tdiv nanosPerSecond :=
  toInt_ofInt64 (s.isSigned64_tdiv (by decide))

theorem natAbs_toInt_seconds_le (s : Span) : s.seconds.toInt.natAbs ≤ 9223372036854775 := by
  calc s.seconds.toInt.natAbs = s.nanos.natAbs / nanosPerSecond := by
        rw [toInt_seconds, Int.natAbs_tdiv, Int.natAbs_natCast]
        rfl
    _ ≤ longestSpan * 1000000 / nanosPerSecond := Nat.div_le_div_right s.nanos_le
    _ = 9223372036854775 := by decide

theorem toInt_millis (s : Span) : s.millis.toInt = s.nanos.tdiv 1000000 :=
  toInt_ofInt64 (s.isSigned64_tdiv (Nat.le_refl 1000000))

/-- The seconds are out of range only where the span is. -/
theorem ofHours?_eq (hours : Int64) : ofHours? hours = ofNanos? (hours.toInt * 3600000000000) := by
  unfold ofHours?
  cases hseconds : checkedMul64 hours 3600 with
  | none =>
    have hrange : ¬IsSigned64 (hours.toInt * 3600) := checkedMul64_eq_none_iff.mp hseconds
    rw [Option.bind_none, ofNanos?, dif_neg]
    unfold IsSigned64 at hrange
    unfold longestSpan
    omega
  | some seconds =>
    have hvalue : seconds.toInt = hours.toInt * 3600 := checkedMul64_eq_some_iff.mp hseconds
    rw [Option.bind_some, hvalue, Int.mul_assoc]
    rfl

example : (ofHours? 2562047788015).isSome ∧ ofHours? 2562047788016 = none := by decide

end Span

namespace Instant

variable {a b t : Instant}

def spanSince? (t start : Instant) : Option Span := Span.ofNanos? (t.nanosSince start)

/-- Moves an instant by the whole seconds of a span, so long as the second that this leads to fits in 64
bits. -/
def addSpan64 (t : Instant) (span : Span) : Option Instant :=
  let moved := t.addSeconds span.seconds.toInt
  if IsSigned64 moved.second then some moved else none

/-- The instants that are kept are those of the years from the first to the last. -/
theorem isRepresentable_iff_year :
    t.isRepresentable ↔ firstYear ≤ t.date.year ∧ t.date.year ≤ lastYear := by
  have hfirst : firstSecond = (Date.mk firstYear 1 1).toDays * 86400 := rfl
  have hlast : lastSecond = (Date.mk (lastYear + 1) 1 1).toDays * 86400 - 1 := by decide
  have hdays : t.days = t.second / 86400 := rfl
  have hnext : t.date.year ≤ lastYear ↔ ¬lastYear + 1 ≤ t.date.year := by omega
  rw [hnext, date, Date.le_year_ofDays_iff, Date.le_year_ofDays_iff]
  simp only [isRepresentable, Bool.and_eq_true, decide_eq_true_eq]
  omega

theorem second_bounds (h : t.isRepresentable) :
    -8334601228800 ≤ t.second ∧ t.second ≤ 8210266876799 := by
  have hfirst : firstSecond = -8334601228800 := by decide
  have hlast : lastSecond = 8210266876799 := by decide
  simp only [isRepresentable, hfirst, hlast, Bool.and_eq_true, decide_eq_true_eq] at h
  exact h

/-- Instants are apart by their seconds and nanoseconds, and by a second more or less where one of them
lies in a leap second that is counted. -/
theorem exists_leap (a b : Instant) : ∃ leap : Int,
    a.nanosSince b = (a.second - b.second + leap) * 1000000000 + ((a.nano : Int) - b.nano) ∧
      (leap = 0 ∨ leap = 1 ∧ 1000000000 ≤ b.nano ∨ leap = -1 ∧ 1000000000 ≤ a.nano) := by
  refine ⟨_, rfl, ?_⟩
  split
  · next h => exact .inr (.inl ⟨rfl, of_decide_eq_true h.2⟩)
  · split
    · next h => exact .inr (.inr ⟨rfl, of_decide_eq_true h.2⟩)
    · exact .inl rfl

theorem natAbs_nanosSince_lt (a b : Instant) :
    (a.nanosSince b).natAbs < ((a.second - b.second).natAbs + 2) * 1000000000 := by
  obtain ⟨leap, heq, hleap⟩ := exists_leap a b
  have ha := a.nano_lt
  have hb := b.nano_lt
  omega

section

variable (ha : a.isRepresentable) (hb : b.isRepresentable)

include ha hb

/-- The years that are kept are some 2 ^ 74 nanoseconds. -/
theorem natAbs_nanosSince_lt_calendar :
    (a.nanosSince b).natAbs < 16544868105601000000000 := by
  have hnanos := natAbs_nanosSince_lt a b
  have ha := second_bounds ha
  have hb := second_bounds hb
  omega

theorem natAbs_millisSince_lt_calendar : (a.millisSince b).natAbs < 16544868105601000 := by
  have hmillis : (a.millisSince b).natAbs = (a.nanosSince b).natAbs / 1000000 := Int.natAbs_tdiv _ _
  have hnanos := natAbs_nanosSince_lt_calendar ha hb
  omega

theorem exists_spanSince? :
    ∃ span, a.spanSince? b = some span ∧ span.millis.toInt = a.millisSince b := by
  have hle : (a.nanosSince b).natAbs ≤ longestSpan * 1000000 :=
    (natAbs_nanosSince_lt_calendar ha hb).le.trans (by decide)
  exact ⟨⟨a.nanosSince b, hle⟩, dif_pos hle, Span.toInt_millis _⟩

end

/-- No span leads so far that the second overflows, though it may lead out of the years that are kept. -/
theorem addSpan64_eq (ht : t.isRepresentable) (span : Span) :
    t.addSpan64 span = some (t.addSeconds span.seconds.toInt) := by
  have ht := second_bounds ht
  have hspan := span.natAbs_toInt_seconds_le
  have hmoved := t.second_addSeconds_cases span.seconds.toInt
  refine if_pos ?_
  unfold IsSigned64
  omega

theorem addSpan64_hours (ht : t.isRepresentable) {hours : Int}
    (hspan : (hours * 3600000000000).natAbs ≤ longestSpan * 1000000) :
    t.addSpan64 ⟨hours * 3600000000000, hspan⟩ = some (t.addHours hours) := by
  have hseconds : (hours * 3600000000000).tdiv nanosPerSecond = hours * secondsPerHour :=
    Int.tdiv_eq_of_eq_mul_left (by decide) (Int.mul_assoc hours 3600 1000000000).symm
  rw [addSpan64_eq ht, Span.toInt_seconds, hseconds]
  rfl

end Instant

end HomeHub
