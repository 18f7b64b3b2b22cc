import HomeHub.Time.Instant

/-!
# Order and moves of instants

Instants are in a strict linear order, and outside of leap seconds a move by whole seconds keeps the
nanoseconds.
-/
namespace HomeHub.Instant

variable {a b c t : Instant}

theorem eq_iff : a = b ↔ a.second = b.second ∧ a.nano = b.nano := by
  cases a
  cases b
  simp

theorem lt_irrefl (t : Instant) : ¬t < t := by
  simp only [lt_def]
  omega

theorem lt_trans (hab : a < b) (hbc : b < c) : a < c := by
  simp only [lt_def] at *
  omega

theorem le_refl (t : Instant) : t ≤ t := Or.inr ⟨rfl, Nat.le_refl _⟩

theorem le_of_lt (h : a < b) : a ≤ b := by
  simp only [lt_def, le_def] at *
  omega

theorem le_trans (hab : a ≤ b) (hbc : b ≤ c) : a ≤ c := by
  simp only [le_def] at *
  omega

theorem lt_of_le_of_lt (hab : a ≤ b) (hbc : b < c) : a < c := by
  simp only [lt_def, le_def] at *
  omega

theorem lt_or_eq_of_le (h : a ≤ b) : a < b ∨ a = b := by
  simp only [lt_def, le_def, eq_iff] at *
  omega

theorem lt_of_succ_lt {instant : Nat → Instant} (h : ∀ n, instant n < instant (n + 1)) {m n : Nat}
    (hmn : m < n) : instant m < instant n := by
  induction n with
  | zero => omega
  | succ n ih =>
    rcases Nat.lt_succ_iff_lt_or_eq.mp hmn with hlt | rfl
    · exact lt_trans (ih hlt) (h n)
    · exact h m

theorem not_isLeap_iff : ¬t.isLeap ↔ t.nano < 1000000000 := by
  rw [isLeap, decide_eq_true_iff, Nat.not_le]
  rfl

theorem second_addSeconds (h : ¬t.isLeap) (seconds : Int) :
    (t.addSeconds seconds).second = t.second + seconds := by
  rw [addSeconds, dif_pos (not_isLeap_iff.mp h)]

theorem nano_addSeconds (h : ¬t.isLeap) (seconds : Int) : (t.addSeconds seconds).nano = t.nano := by
  rw [addSeconds, dif_pos (not_isLeap_iff.mp h)]

/-- A move forward counts the seconds of a leap second as well. -/
theorem second_addSeconds_of_pos {seconds : Int} (h : 0 < seconds) :
    (t.addSeconds seconds).second = t.second + seconds := by
  unfold addSeconds
  split <;> rfl

/-- A move leads past the second that is counted by one at most. -/
theorem second_addSeconds_cases (t : Instant) (seconds : Int) :
    (t.addSeconds seconds).second = t.second + seconds ∨
      (t.addSeconds seconds).second = t.second + 1 + seconds := by
  unfold addSeconds
  split
  · exact .inl rfl
  · split
    · exact .inl rfl
    · split
      · exact .inr rfl
      · next hforward hback => exact .inl (show t.second = t.second + seconds by omega)

theorem not_isLeap_addSeconds (h : ¬t.isLeap) (seconds : Int) : ¬(t.addSeconds seconds).isLeap := by
  rw [not_isLeap_iff, nano_addSeconds h]
  exact not_isLeap_iff.mp h

theorem nanosSince_of_not_isLeap (ha : ¬a.isLeap) (hb : ¬b.isLeap) :
    a.nanosSince b = (a.second - b.second) * 1000000000 + ((a.nano : Int) - b.nano) := by
  simp [nanosSince, ha, hb, nanosPerSecond]

theorem isRepresentable_addHours (h : ¬t.isLeap) {low hours high : Int} (hlow : low ≤ hours)
    (hhigh : hours ≤ high) (hfirst : (t.addHours low).isRepresentable)
    (hlast : (t.addHours high).isRepresentable) : (t.addHours hours).isRepresentable := by
  simp only [isRepresentable, addHours, second_addSeconds h, secondsPerHour, Bool.and_eq_true,
    decide_eq_true_eq] at *
  omega

/-- The instants that are kept form an interval. -/
theorem isRepresentable_of_le (ha : a.isRepresentable) (hb : b.isRepresentable) (hat : a ≤ t)
    (htb : t ≤ b) : t.isRepresentable := by
  simp only [isRepresentable, le_def, Bool.and_eq_true, decide_eq_true_eq] at *
  omega

end HomeHub.Instant
