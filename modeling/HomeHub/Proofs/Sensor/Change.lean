import HomeHub.Sensor.Basic

/-!
# When a sensor changes

A sensor tells of a change unless it holds what it is given. Two zeros count as one reading, so the held
zero stays, and a NaN counts as another reading than itself.
-/
namespace HomeHub

namespace Binary64

theorem sameNumber_iff {x y : Binary64} :
    x.sameNumber y ↔ ¬x.isNaN ∧ (x = y ∨ (x.isZero ∧ y.isZero)) := by
  obtain ⟨xneg, xplace⟩ := x
  obtain ⟨yneg, yplace⟩ := y
  simp only [sameNumber, isNaN, isZero, orderKey, Bool.and_eq_true, Bool.not_eq_true',
    decide_eq_true_eq, decide_eq_false_iff_not, Binary64.mk.injEq, Fin.ext_iff]
  have hinf : 0 < infinityPlace := by decide
  cases xneg <;> cases yneg <;> simp <;> omega

end Binary64

namespace Reading

def isNaN : Reading → Bool
  | text _ => false
  | number x => x.isNaN

def isZero : Reading → Bool
  | text _ => false
  | number x => x.isZero

theorem same_iff {a b : Reading} : a.same b ↔ ¬a.isNaN ∧ (a = b ∨ (a.isZero ∧ b.isZero)) := by
  cases a with
  | text s => cases b <;> simp [same, isNaN, isZero]
  | number x =>
    cases b with
    | text s => simp [same, isZero]
    | number y => simp [same, isNaN, isZero, Binary64.sameNumber_iff]

/-- The states that count as one reading though they may differ by a sign. -/
def AreZeros (a b : Option Reading) : Prop := a.any isZero ∧ b.any isZero

def IsNaN (state : Option Reading) : Prop := state.any isNaN

instance (a b : Option Reading) : Decidable (AreZeros a b) := inferInstanceAs (Decidable (_ ∧ _))

instance (state : Option Reading) : Decidable (IsNaN state) := inferInstanceAs (Decidable (_ = _))

theorem not_areZeros_of_isNaN {a b : Option Reading} (h : IsNaN a) : ¬AreZeros a b := by
  rintro ⟨hzero, -⟩
  cases a with
  | none => cases h
  | some reading =>
    cases reading with
    | text s => cases h
    | number x =>
      have hplace : x.place.val = 0 := by simpa [isZero, Binary64.isZero] using hzero
      have hinfinity : infinityPlace < x.place.val := by simpa [IsNaN, isNaN, Binary64.isNaN] using h
      omega

theorem sameState_iff {a b : Option Reading} :
    sameState a b ↔ ¬IsNaN a ∧ (a = b ∨ AreZeros a b) := by
  cases a with
  | none => cases b <;> simp [sameState, IsNaN, AreZeros]
  | some a =>
    cases b with
    | none => simp [sameState, AreZeros]
    | some b => simp [sameState, IsNaN, AreZeros, same_iff]

end Reading

namespace Sensor

open Reading

variable {s : Sensor} {state : Option Reading}

theorem changed_setState : (s.setState state).2 ↔ ¬sameState s.state state := by
  unfold setState
  split
  · rename_i hsame
    simp [hsame]
  · rename_i hdiffers
    simp [hdiffers]

/-- A sensor tells of a change when it held another reading, zeros apart, or is given a NaN. -/
theorem changed_setState_iff :
    (s.setState state).2 ↔ ¬AreZeros s.state state ∧ (s.state ≠ state ∨ IsNaN state) := by
  rw [changed_setState, sameState_iff]
  by_cases hnan : IsNaN s.state
  · have hzeros : ¬AreZeros s.state state := not_areZeros_of_isNaN hnan
    have hgiven : s.state ≠ state ∨ IsNaN state := by
      by_cases heq : s.state = state
      · exact Or.inr (heq ▸ hnan)
      · exact Or.inl heq
    simp [hnan, hzeros, hgiven]
  · by_cases heq : s.state = state
    · simp [hnan, ← heq]
    · simp [hnan, heq]

/-- A sensor holds what it was given, or it held a zero and was given one. -/
theorem state_setState (s : Sensor) (state : Option Reading) :
    (s.setState state).1.state = state ∨ ((s.setState state).1 = s ∧ AreZeros s.state state) := by
  unfold setState
  split
  · rename_i hsame
    obtain ⟨-, heq | hzeros⟩ := sameState_iff.mp hsame
    · exact Or.inl heq
    · exact Or.inr ⟨rfl, hzeros⟩
  · exact Or.inl rfl

/-- A sensor that is given the same once more stays as it is, and tells of a change if it holds a NaN. -/
theorem setState_again (s : Sensor) (state : Option Reading) :
    ((s.setState state).1.setState state).1 = (s.setState state).1 ∧
      (((s.setState state).1.setState state).2 ↔ IsNaN (s.setState state).1.state) := by
  generalize ht : (s.setState state).1 = t
  have hheld : t.state = state ∨ AreZeros t.state state := by
    rcases s.state_setState state with h | ⟨h, hzeros⟩
    · exact Or.inl (ht ▸ h)
    · exact Or.inr (by rw [← ht, h]; exact hzeros)
  constructor
  · rcases hheld with heq | hzeros
    · unfold setState
      split
      · rfl
      · rw [← heq]
    · have hnan : ¬IsNaN t.state := fun h => not_areZeros_of_isNaN h hzeros
      have hsame : sameState t.state state := sameState_iff.mpr ⟨hnan, Or.inr hzeros⟩
      rw [setState, if_pos hsame]
  · rw [changed_setState, sameState_iff]
    simp [hheld]

end Sensor

end HomeHub
