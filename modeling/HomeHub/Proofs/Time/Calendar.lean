import HomeHub.Time.Calendar
import Mathlib.Tactic.IntervalCases

/-!
# Days and dates

Every number of days has a date of the calendar, and that date has the number of days again. A day of
a cycle is told by its century, the four years in that, the year in those, and the day of the year. Its
year is the last one that has begun.
-/
namespace HomeHub

/-- A day of a cycle by its parts. A year has a day 365 only before a March of a leap year. -/
structure CycleParts (dayOfCycle century quad year day : Int) : Prop where
  century_bounds : 0 ≤ century ∧ century ≤ 3
  quad_bounds : 0 ≤ quad ∧ quad ≤ 24
  year_bounds : 0 ≤ year ∧ year ≤ 3
  day_bounds : 0 ≤ day ∧ day ≤ 365
  sum : dayOfCycle = 36524 * century + 1461 * quad + 365 * year + day
  leapDay : day = 365 → year = 3 ∧ (quad = 24 → century = 3)

theorem exists_cycleParts {d : Int} (h0 : 0 ≤ d) (h1 : d < daysPerCycle) :
    ∃ century quad year day, CycleParts d century quad year day := by
  unfold daysPerCycle at h1
  obtain ⟨century, hc⟩ : ∃ c, c = min 3 (d / 36524) := ⟨_, rfl⟩
  obtain ⟨r, hr⟩ : ∃ r, r = d - 36524 * century := ⟨_, rfl⟩
  have hrest : 0 ≤ r ∧ r ≤ 36524 ∧ (r = 36524 → century = 3) := by omega
  obtain ⟨quad, hq⟩ : ∃ q, q = r / 1461 := ⟨_, rfl⟩
  obtain ⟨s, hs⟩ : ∃ s, s = r - 1461 * quad := ⟨_, rfl⟩
  have hquad : 0 ≤ s ∧ s ≤ 1460 ∧ (quad = 24 → s = 1460 → century = 3) := by omega
  obtain ⟨year, hy⟩ : ∃ y, y = min 3 (s / 365) := ⟨_, rfl⟩
  exact ⟨century, quad, year, s - 365 * year, by omega, by omega, by omega, by omega, by omega,
    by omega⟩

namespace CycleParts

variable {d century quad year day : Int} (h : CycleParts d century quad year day)

include h

theorem yearOfCycle_eq : (d - d / 1460 + d / 36524 - d / 146096) / 365 =
    100 * century + 4 * quad + year := by
  obtain ⟨hc, hq, hy, hd, rfl, hleap⟩ := h
  -- 1460 days are a day less than four years: at most one such day is gathered in a cycle
  have hquad : ∃ extra : Int, (36524 * century + 1461 * quad + 365 * year + day) / 1460 =
      25 * century + quad + extra ∧ (extra = 0 ∨ extra = 1 ∧ 1095 < 365 * year + day) := by
    by_cases hlate : 1460 ≤ 24 * century + quad + 365 * year + day
    · exact ⟨1, by omega, by omega⟩
    · exact ⟨0, by omega, by omega⟩
  have hcentury : (36524 * century + 1461 * quad + 365 * year + day) / 36524 -
      (36524 * century + 1461 * quad + 365 * year + day) / 146096 = century := by
    obtain ⟨rest, hrest⟩ : ∃ rest, rest = 1461 * quad + 365 * year + day := ⟨_, rfl⟩
    have hlast : 0 ≤ rest ∧ (rest < 36524 ∨ rest = 36524 ∧ century = 3) := by omega
    rw [show 36524 * century + 1461 * quad + 365 * year + day = 36524 * century + rest by omega]
    omega
  obtain ⟨extra, hquad, hextra⟩ := hquad
  omega

theorem dayOfYear_eq (y : Int) (hy : y = 100 * century + 4 * quad + year) :
    d - (365 * y + y / 4 - y / 100) = day := by
  obtain ⟨hc, hq, hyear, hd, rfl, hleap⟩ := h
  omega

end CycleParts

/-- Months counted from March, with the days of the year before them. -/
theorem marchMonth_bounds {day month : Int} (hd : 0 ≤ day ∧ day ≤ 365)
    (hm : month = (5 * day + 2) / 153) :
    0 ≤ month ∧ month ≤ 11 ∧ (153 * month + 2) / 5 ≤ day ∧ day < (153 * (month + 1) + 2) / 5 := by
  omega

namespace Date

/-- The date of a day by its cycle and the parts of the day in it. -/
theorem ofDays_eq (days : Int) : ∃ era century quad year day march : Int,
    CycleParts (days + daysToEpoch - era * daysPerCycle) century quad year day ∧
      march = (5 * day + 2) / 153 ∧
      ofDays days =
        ⟨era * 400 + 100 * century + 4 * quad + year + (if march < 10 then 0 else 1),
          (if march < 10 then march + 3 else march - 9).toNat,
          (day - (153 * march + 2) / 5 + 1).toNat⟩ := by
  have hpositive : (0 : Int) < daysPerCycle := by decide
  have hcycle : days + daysToEpoch - (days + daysToEpoch) / daysPerCycle * daysPerCycle =
      (days + daysToEpoch) % daysPerCycle := by
    rw [Int.emod_def, mul_comm]
  obtain ⟨century, quad, year, day, hparts⟩ := exists_cycleParts
    (Int.emod_nonneg (days + daysToEpoch) hpositive.ne') (Int.emod_lt_of_pos _ hpositive)
  refine ⟨(days + daysToEpoch) / daysPerCycle, century, quad, year, day, _, ?_, rfl, ?_⟩
  · rw [hcycle]
    exact hparts
  · have hmarch := marchMonth_bounds hparts.day_bounds rfl
    simp only [ofDays, hparts.yearOfCycle_eq, hparts.dayOfYear_eq _ rfl, Date.mk.injEq, and_true]
    split <;> split <;> omega

theorem isValid_ofDays (days : Int) : (ofDays days).isValid := by
  obtain ⟨era, century, quad, year, day, march, hparts, hmarch, heq⟩ := ofDays_eq days
  obtain ⟨hlow, hhigh, hstart, hend⟩ := marchMonth_bounds hparts.day_bounds hmarch
  obtain ⟨hc, hq, hy, hd, -, hleap⟩ := hparts
  rw [heq]
  interval_cases march <;> simp [isValid, daysInMonth, isLeapYear] <;> omega

theorem toDays_ofDays (days : Int) : (ofDays days).toDays = days := by
  obtain ⟨era, century, quad, year, day, march, hparts, hmarch, heq⟩ := ofDays_eq days
  obtain ⟨hlow, hhigh, hstart, hend⟩ := marchMonth_bounds hparts.day_bounds hmarch
  obtain ⟨hc, hq, hy, hd, hsum, hleap⟩ := hparts
  rw [heq]
  simp only [toDays, daysToEpoch, daysPerCycle] at hsum ⊢
  interval_cases march <;> simp <;> omega

/-- The days before a year, with the leap days among them. -/
theorem toDays_newYear (year : Int) : (Date.mk year 1 1).toDays =
    365 * (year - 1) + (year - 1) / 4 - (year - 1) / 100 + (year - 1) / 400 - 719162 := by
  simp only [toDays, daysToEpoch, daysPerCycle]
  omega

theorem toDays_newYear_mono {a b : Int} (h : a ≤ b) :
    (Date.mk a 1 1).toDays ≤ (Date.mk b 1 1).toDays := by
  rw [toDays_newYear, toDays_newYear]
  omega

/-- A day lies between the first day of its year and that of the next one. -/
theorem newYear_bounds (days : Int) :
    (Date.mk (ofDays days).year 1 1).toDays ≤ days ∧
      days < (Date.mk ((ofDays days).year + 1) 1 1).toDays := by
  obtain ⟨era, century, quad, year, day, march, hparts, hmarch, heq⟩ := ofDays_eq days
  obtain ⟨hc, hq, hy, hd, hsum, hleap⟩ := hparts
  have hyear := congrArg Date.year heq
  rw [toDays_newYear, toDays_newYear, hyear]
  simp only [daysToEpoch, daysPerCycle] at hsum ⊢
  split <;> omega

theorem le_year_ofDays_iff {days year : Int} :
    year ≤ (ofDays days).year ↔ (Date.mk year 1 1).toDays ≤ days := by
  obtain ⟨hstart, hend⟩ := newYear_bounds days
  constructor
  · intro h
    exact (toDays_newYear_mono h).trans hstart
  · intro h
    by_contra hlt
    have hnext := toDays_newYear_mono (show (ofDays days).year + 1 ≤ year by omega)
    omega

end Date

end HomeHub
