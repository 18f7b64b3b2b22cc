import HomeHub.Proofs.Number.Digits
import HomeHub.Proofs.Time.Calendar
import HomeHub.Time.Timestamp
import Mathlib.Data.List.TakeDrop

/-!
# Timestamps that are read back

The timestamp of an instant in a year of four digits is read back to the instant. Each part is read
back in front of any text that may follow it.
-/
namespace HomeHub

namespace Timestamp

section

variable {width n : Nat} (hwidth : 0 < width) (hn : n < 10 ^ width)

include hwidth hn

theorem length_padded : (padded width n).length = width := by
  have := length_toDigits_le hwidth hn
  simp only [padded, List.length_append, List.length_replicate]
  omega

omit hwidth hn in
theorem isDigit_of_mem_padded {c : Char} (h : c ∈ padded width n) : c.isDigit := by
  rcases List.mem_append.mp h with h | h
  · rw [List.eq_of_mem_replicate h]
    decide
  · exact isDigit_of_mem_toDigits h

omit hwidth hn in
@[simp] theorem digitsValue_padded : digitsValue (padded width n) = n := by
  rw [padded, digitsValue_replicate_zero_append, digitsValue_toDigits]

omit hwidth hn in
theorem readDigits_append {digits : List Char} (h : ∀ c ∈ digits, c.isDigit) (rest : List Char) :
    readDigits digits.length (digits ++ rest) = .ok (digits, rest) := by
  induction digits with
  | nil => rfl
  | cons c digits ih =>
    have hc := h c List.mem_cons_self
    have hrest := ih fun d hd => h d (List.mem_cons_of_mem c hd)
    simp [readDigits, hc, hrest, bind, Except.bind]

theorem readNumber_padded (rest : List Char) :
    readNumber width (padded width n ++ rest) = .ok (n, rest) := by
  have hdigits : ∀ c ∈ padded width n, c.isDigit := fun c => isDigit_of_mem_padded
  have hread := readDigits_append hdigits rest
  rw [length_padded hwidth hn] at hread
  simp [readNumber, hread, bind, Except.bind]

end

theorem readOneOf_cons {choice : List Char} {c : Char} (h : choice.contains c) (rest : List Char) :
    readOneOf choice (c :: rest) = .ok rest := by
  rw [readOneOf, if_pos h]

theorem span_isDigit_append {digits : List Char} (h : ∀ c ∈ digits, c.isDigit) {c : Char}
    (hc : ¬c.isDigit) (rest : List Char) :
    (digits ++ c :: rest).span Char.isDigit = (digits, c :: rest) := by
  rw [List.span_eq_takeWhile_dropWhile, List.takeWhile_append_of_pos h,
    List.dropWhile_append_of_pos h, List.takeWhile_cons_of_neg hc, List.dropWhile_cons_of_neg hc,
    List.append_nil]

theorem readFraction_cons_padded {width n : Nat} (hwidth : 0 < width) (hwidth' : width ≤ 9)
    (hn : n < 10 ^ width) {c : Char} (hc : ¬c.isDigit) (rest : List Char) :
    readFraction ('.' :: (padded width n ++ c :: rest)) = .ok (n * 10 ^ (9 - width), c :: rest) := by
  have hlength := length_padded hwidth hn
  have hdigits : ∀ d ∈ padded width n, d.isDigit := fun d => isDigit_of_mem_padded
  have hspan := span_isDigit_append hdigits hc rest
  have hne : padded width n ≠ [] := List.ne_nil_of_length_pos (by omega)
  have hvalue : fractionNanos (padded width n) = n * 10 ^ (9 - width) := by
    rw [fractionNanos, List.take_of_length_le (by omega), hlength, digitsValue_padded]
    rfl
  simp only [readFraction, hspan]
  split
  · exact absurd (congrArg Prod.fst ‹_›) hne
  · exact absurd (congrArg Prod.fst ‹_›) hne
  · obtain ⟨rfl, rfl⟩ := Prod.mk.inj ‹_›
    rw [hvalue]

theorem readFraction_writeFraction {nano : Nat} (h : nano < nanosPerSecond) {c : Char}
    (hc : ¬c.isDigit) (hpoint : c ≠ '.') (rest : List Char) :
    readFraction (writeFraction nano ++ c :: rest) = .ok (nano, c :: rest) := by
  unfold nanosPerSecond at h
  unfold writeFraction
  split_ifs with hzero hmilli hmicro
  · simp [readFraction, hpoint, hzero]
  · have := readFraction_cons_padded (show 0 < 3 by decide) (by decide)
      (show nano / 1000000 < 10 ^ 3 by omega) hc rest
    rw [List.cons_append, this]
    exact congrArg (fun n => Except.ok (n, c :: rest)) (by omega)
  · have := readFraction_cons_padded (show 0 < 6 by decide) (by decide)
      (show nano / 1000 < 10 ^ 6 by omega) hc rest
    rw [List.cons_append, this]
    exact congrArg (fun n => Except.ok (n, c :: rest)) (by omega)
  · have := readFraction_cons_padded (show 0 < 9 by decide) (by decide)
      (show nano < 10 ^ 9 by omega) hc rest
    rw [List.cons_append, this]
    simp

/-- The instant lies in a year that four digits write. -/
def HasPlainYear (t : Instant) : Prop := 0 ≤ t.date.year ∧ t.date.year ≤ 9999

instance (t : Instant) : Decidable (HasPlainYear t) :=
  inferInstanceAs (Decidable (_ ∧ _))

theorem writeYear_of_le {year : Int} (h0 : 0 ≤ year) (h1 : year ≤ 9999) :
    writeYear year = padded 4 year.toNat := by
  rw [writeYear, if_neg (by omega), if_neg (by omega)]
  congr 1
  omega

theorem readDate_append {d : Date} (hvalid : d.isValid) (h0 : 0 ≤ d.year) (h1 : d.year ≤ 9999)
    (rest : List Char) :
    readDate (writeYear d.year ++ '-' :: padded 2 d.month ++ '-' :: padded 2 d.day ++ rest) =
      .ok (d.toDays, rest) := by
  obtain ⟨year, month, day⟩ := d
  obtain ⟨year, rfl⟩ := Int.eq_ofNat_of_zero_le h0
  have hmonth : month < 10 ^ 2 ∧ day < 10 ^ 2 := by
    have hmost : daysInMonth year month ≤ 31 := by
      unfold daysInMonth
      split_ifs <;> omega
    simp only [Date.isValid, Bool.and_eq_true, decide_eq_true_eq] at hvalid
    omega
  have hyear := readNumber_padded (n := year) (by decide : 0 < 4) (by simp at h1; omega)
  have hmonth' := readNumber_padded (by decide : 0 < 2) hmonth.1
  have hday := readNumber_padded (by decide : 0 < 2) hmonth.2
  simp [readDate, writeYear_of_le h0 h1, hyear, hmonth', hday, readOneOf_cons, hvalid, bind,
    Except.bind]

theorem readClock_append {hour minute second nano : Nat} (hhour : hour ≤ 23) (hminute : minute ≤ 59)
    (hsecond : second ≤ 60) (hnano : nano < nanosPerSecond) (rest : List Char) :
    readClock (padded 2 hour ++ ':' :: padded 2 minute ++ ':' :: padded 2 second ++
      writeFraction nano ++ 'Z' :: rest) = .ok ((hour, minute, second, nano), 'Z' :: rest) := by
  have hhour' := readNumber_padded (by decide : 0 < 2) (show hour < 10 ^ 2 by omega)
  have hminute' := readNumber_padded (by decide : 0 < 2) (show minute < 10 ^ 2 by omega)
  have hsecond' := readNumber_padded (by decide : 0 < 2) (show second < 10 ^ 2 by omega)
  have hfraction := readFraction_writeFraction hnano (c := 'Z') (by decide) (by decide) rest
  simp [readClock, hhour', hminute', hsecond', hfraction, readOneOf_cons, hhour, hminute, hsecond,
    bind, Except.bind]

theorem second_eq_clock (t : Instant) : t.days * secondsPerDay + t.hourOfDay * secondsPerHour +
    t.minuteOfHour * secondsPerMinute + t.secondOfMinute = t.second := by
  simp only [Instant.days, Instant.hourOfDay, Instant.minuteOfHour, Instant.secondOfMinute,
    Instant.secondOfDay, secondsPerDay, secondsPerHour, secondsPerMinute]
  omega

theorem clock_bounds (t : Instant) :
    t.hourOfDay ≤ 23 ∧ t.minuteOfHour ≤ 59 ∧ t.secondOfMinute ≤ 59 := by
  simp only [Instant.hourOfDay, Instant.minuteOfHour, Instant.secondOfMinute, Instant.secondOfDay,
    secondsPerDay, secondsPerHour, secondsPerMinute]
  omega

theorem instantOf_clock (t : Instant) {second nano leap : Nat}
    (hsecond : clockSecond second = (t.secondOfMinute, leap)) (hnano : leap + nano = t.nano) :
    instantOf t.days t.hourOfDay t.minuteOfHour second nano 0 = some t := by
  have htotal := second_eq_clock t
  obtain ⟨total, part, hpart⟩ := t
  simp only [instantOf, hsecond, htotal, hnano, Int.zero_mul, Int.sub_zero, dif_pos hpart]
  rw [if_neg (by decide)]

theorem exists_written (t : Instant) : ∃ second nano leap : Nat,
    (if t.isLeap then (t.secondOfMinute + 1, t.nano - nanosPerSecond)
      else (t.secondOfMinute, t.nano)) = (second, nano) ∧
    second ≤ 60 ∧ nano < nanosPerSecond ∧
    clockSecond second = (t.secondOfMinute, leap) ∧ leap + nano = t.nano := by
  have hnano := t.nano_lt
  have hbound := (clock_bounds t).2.2
  by_cases hleap : t.isLeap
  · have hleast : nanosPerSecond ≤ t.nano := of_decide_eq_true hleap
    unfold nanosPerSecond at hleast
    have hlast : t.secondOfMinute = 59 := by
      rw [Instant.secondOfMinute, secondsPerMinute, Nat.cast_ofNat]
      omega
    refine ⟨60, t.nano - nanosPerSecond, nanosPerSecond, ?_⟩
    rw [if_pos hleap, hlast]
    refine ⟨rfl, le_refl 60, ?_, rfl, ?_⟩ <;> unfold nanosPerSecond <;> omega
  · have hmost : t.nano < nanosPerSecond := by
      simpa [Instant.isLeap] using hleap
    refine ⟨t.secondOfMinute, t.nano, 0, ?_⟩
    rw [if_neg hleap, clockSecond, if_neg (by omega)]
    exact ⟨rfl, by omega, hmost, rfl, Nat.zero_add _⟩

theorem width_le_length_padded (width n : Nat) : width ≤ (padded width n).length := by
  simp only [padded, List.length_append, List.length_replicate]
  omega

theorem leastSize_le_byteSize_write {t : Instant} (h : HasPlainYear t) :
    leastSize ≤ Text.byteSize (write t) := by
  refine le_trans ?_ (Text.length_le_byteSize _)
  obtain ⟨second, nano, -, hwritten, -⟩ := exists_written t
  have hyear := width_le_length_padded 4 t.date.year.toNat
  have hmonth := width_le_length_padded 2 t.date.month
  have hday := width_le_length_padded 2 t.date.day
  have hhour := width_le_length_padded 2 t.hourOfDay
  have hminute := width_le_length_padded 2 t.minuteOfHour
  have hsecond := width_le_length_padded 2 second
  simp only [write, hwritten, writeYear_of_le h.1 h.2, List.length_append, List.length_cons,
    leastSize]
  omega

theorem read_write {t : Instant} (h : HasPlainYear t) : read (write t) = .ok t := by
  obtain ⟨second, nano, leap, hwritten, hsecond, hnano, hclock, hsum⟩ := exists_written t
  obtain ⟨hhour, hminute, -⟩ := clock_bounds t
  have hdate := readDate_append (Date.isValid_ofDays t.days) h.1 h.2
  rw [Date.toDays_ofDays] at hdate
  have hread := readClock_append hhour hminute hsecond hnano []
  have hinstant := instantOf_clock t hclock hsum
  rw [read, if_neg (not_lt.mpr (leastSize_le_byteSize_write h))]
  simp only [write, hwritten, Instant.date, List.append_assoc, List.cons_append] at hdate hread ⊢
  simp only [hdate, bind, Except.bind]
  simp [readOneOf_cons, hread, readOffset, hinstant]

end Timestamp

end HomeHub
