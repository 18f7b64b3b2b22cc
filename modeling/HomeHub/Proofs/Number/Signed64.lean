/-!
# Checked arithmetic in 64 bits

An operation on signed numbers of 64 bits whose result is out of range wraps around. A checked one gives
nothing then, so that what it gives is always the number that the unbounded operation has.
-/
namespace HomeHub

/-- The range of signed numbers of 64 bits. -/
def IsSigned64 (n : Int) : Prop := -9223372036854775808 ≤ n ∧ n ≤ 9223372036854775807

instance (n : Int) : Decidable (IsSigned64 n) := inferInstanceAs (Decidable (_ ∧ _))

/-- What an operation wraps to, if its unbounded result is in range. -/
def checked64 (result : Int) (wrapped : Int64) : Option Int64 :=
  if IsSigned64 result then some wrapped else none

def checkedAdd64 (a b : Int64) : Option Int64 := checked64 (a.toInt + b.toInt) (a + b)

def checkedMul64 (a b : Int64) : Option Int64 := checked64 (a.toInt * b.toInt) (a * b)

/-- The magnitude of a number. The least number has none. -/
def checkedAbs64 (a : Int64) : Option Int64 := checked64 a.toInt.natAbs a.abs

variable {n : Int} {a b c : Int64}

theorem isSigned64_toInt (a : Int64) : IsSigned64 a.toInt := by
  have hlow := a.le_toInt
  have hhigh := a.toInt_lt
  unfold IsSigned64
  omega

theorem bmod_of_isSigned64 (h : IsSigned64 n) : n.bmod Int64.size = n :=
  Int.bmod_eq_of_le h.1 (Int.lt_add_one_of_le h.2)

theorem toInt_ofInt64 (h : IsSigned64 n) : (Int64.ofInt n).toInt = n :=
  Int64.toInt_ofInt_of_le h.1 (Int.lt_add_one_of_le h.2)

theorem exists_toInt_eq (h : IsSigned64 n) : ∃ c : Int64, c.toInt = n :=
  ⟨.ofInt n, toInt_ofInt64 h⟩

/-- A number is given exactly if it is the unbounded result. -/
theorem checked64_eq_some_iff {wrapped : Int64} (hwrapped : wrapped.toInt = n.bmod Int64.size) :
    checked64 n wrapped = some c ↔ c.toInt = n := by
  unfold checked64
  constructor
  · intro h
    split at h
    · next hn => rw [← Option.some.inj h, hwrapped, bmod_of_isSigned64 hn]
    · cases h
  · rintro rfl
    have hc := isSigned64_toInt c
    rw [bmod_of_isSigned64 hc] at hwrapped
    rw [if_pos hc, Int64.toInt_inj.mp hwrapped]

theorem checked64_eq_none_iff {wrapped : Int64} : checked64 n wrapped = none ↔ ¬IsSigned64 n := by
  simp [checked64]

theorem checkedAdd64_eq_some_iff : checkedAdd64 a b = some c ↔ c.toInt = a.toInt + b.toInt :=
  checked64_eq_some_iff (Int64.toInt_add a b)

theorem checkedMul64_eq_some_iff : checkedMul64 a b = some c ↔ c.toInt = a.toInt * b.toInt :=
  checked64_eq_some_iff (Int64.toInt_mul a b)

theorem checkedMul64_eq_none_iff :
    checkedMul64 a b = none ↔ ¬IsSigned64 (a.toInt * b.toInt) := checked64_eq_none_iff

/-- The magnitude of the least number wraps to that number. -/
theorem toInt_abs64 (a : Int64) : a.abs.toInt = (a.toInt.natAbs : Int).bmod Int64.size := by
  have habs : a.abs.toInt = if a.toBitVec = BitVec.intMin 64 then (BitVec.intMin 64).toInt
      else a.toInt.natAbs := BitVec.toInt_abs_eq_natAbs
  by_cases hleast : a.toBitVec = BitVec.intMin 64
  · have hvalue : a.toInt = (BitVec.intMin 64).toInt := congrArg BitVec.toInt hleast
    rw [habs, if_pos hleast, hvalue]
    decide
  · have hvalue : a.toInt ≠ (BitVec.intMin 64).toInt := fun h => hleast (BitVec.eq_of_toInt_eq h)
    have hrange := isSigned64_toInt a
    have hmagnitude : IsSigned64 (a.toInt.natAbs : Int) := by
      rw [show (BitVec.intMin 64).toInt = -9223372036854775808 by decide] at hvalue
      unfold IsSigned64 at *
      omega
    rw [habs, if_neg hleast, bmod_of_isSigned64 hmagnitude]

theorem checkedAbs64_eq_some_iff : checkedAbs64 a = some c ↔ c.toInt = a.toInt.natAbs :=
  checked64_eq_some_iff (toInt_abs64 a)

end HomeHub
