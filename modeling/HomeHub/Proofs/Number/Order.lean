import HomeHub.Settings.Validity
import Mathlib.Algebra.Order.Field.Rat
import Mathlib.Algebra.Order.Field.Basic
import Mathlib.Order.Monotone.Odd
import Mathlib.Tactic.Positivity
import Mathlib.Tactic.Ring

/-!
# The order of double precision numbers

Magnitudes ascend with their places, so numbers are ordered as the rationals they stand for. A number
that passes a check of its range is therefore finite, and its value is in the range.
-/
namespace HomeHub.Binary64

def toRat (x : Binary64) : ℚ :=
  if x.negative then -((x.numerator : ℚ) / x.denominator) else (x.numerator : ℚ) / x.denominator

/-- How many times the least positive magnitude stands at a place. -/
def units (place : Nat) : Nat :=
  if place < binadeSize then place
  else (binadeSize + place % binadeSize) * 2 ^ (place / binadeSize - 1)

/-- One is this power of two times the least positive magnitude. -/
def unitExponent : Nat := 1074

theorem units_of_lt {place : Nat} (h : place < binadeSize) : units place = place := if_pos h

theorem units_of_binade (exponent : Nat) {fraction : Nat} (h : fraction < binadeSize) :
    units ((exponent + 1) * binadeSize + fraction) = (binadeSize + fraction) * 2 ^ exponent := by
  have hsize : 0 < binadeSize := by decide
  have hplace : ¬(exponent + 1) * binadeSize + fraction < binadeSize := by
    rw [Nat.succ_mul]
    omega
  have hmod : ((exponent + 1) * binadeSize + fraction) % binadeSize = fraction := by
    rw [Nat.mul_comm, Nat.mul_add_mod, Nat.mod_eq_of_lt h]
  have hdiv : ((exponent + 1) * binadeSize + fraction) / binadeSize = exponent + 1 := by
    rw [Nat.mul_comm, Nat.mul_add_div hsize, Nat.div_eq_of_lt h, Nat.add_zero]
  rw [units, if_neg hplace, hmod, hdiv, Nat.add_sub_cancel]

theorem exists_binade {place : Nat} (h : binadeSize ≤ place) : ∃ exponent fraction,
    fraction < binadeSize ∧ place = (exponent + 1) * binadeSize + fraction := by
  have hsize : 0 < binadeSize := by decide
  have hpos : 0 < place / binadeSize := Nat.div_pos h hsize
  refine ⟨place / binadeSize - 1, place % binadeSize, Nat.mod_lt _ hsize, ?_⟩
  rw [Nat.sub_add_cancel hpos, Nat.div_add_mod']

/-- Each magnitude is below the next, inside a binade and at its end. -/
theorem units_lt_succ (place : Nat) : units place < units (place + 1) := by
  have hsize : 0 < binadeSize := by decide
  by_cases hsmall : place + 1 < binadeSize
  · rw [units_of_lt hsmall, units_of_lt (by omega)]
    exact Nat.lt_succ_self place
  by_cases hlast : place + 1 = binadeSize
  · have hnext : units binadeSize = binadeSize := by
      simpa using units_of_binade 0 hsize
    rw [hlast, hnext, units_of_lt (by omega)]
    omega
  obtain ⟨exponent, fraction, hfraction, rfl⟩ := exists_binade (show binadeSize ≤ place by omega)
  have hpow : 0 < 2 ^ exponent := Nat.two_pow_pos exponent
  rw [units_of_binade exponent hfraction, Nat.add_assoc]
  by_cases hinside : fraction + 1 < binadeSize
  · rw [units_of_binade exponent hinside]
    exact Nat.mul_lt_mul_of_pos_right (by omega) hpow
  · have hnext : (exponent + 1) * binadeSize + (fraction + 1) = (exponent + 1 + 1) * binadeSize + 0 := by
      rw [Nat.succ_mul (exponent + 1)]
      omega
    rw [hnext, units_of_binade (exponent + 1) hsize]
    calc (binadeSize + fraction) * 2 ^ exponent
        < (binadeSize * 2) * 2 ^ exponent := Nat.mul_lt_mul_of_pos_right (by omega) hpow
      _ = (binadeSize + 0) * 2 ^ (exponent + 1) := by ring

theorem strictMono_units : StrictMono units := strictMono_nat_of_lt_succ units_lt_succ

/-- Signed units, by the key that numbers are ordered by. -/
def signedUnits (key : Int) : Int := key.sign * units key.natAbs

theorem signedUnits_natCast (place : Nat) : signedUnits place = units place := by
  cases place with
  | zero => rfl
  | succ n => rw [signedUnits, Int.sign_natCast_of_ne_zero n.succ_ne_zero, one_mul, Int.natAbs_natCast]

theorem signedUnits_neg (key : Int) : signedUnits (-key) = -signedUnits key := by
  simp [signedUnits]

theorem signedUnits_le_signedUnits_iff {a b : Int} : signedUnits a ≤ signedUnits b ↔ a ≤ b := by
  have hmono : StrictMono signedUnits := by
    apply strictMono_of_odd_strictMonoOn_nonneg signedUnits_neg
    intro a ha b hb hab
    obtain ⟨m, rfl⟩ := Int.eq_ofNat_of_zero_le ha
    obtain ⟨n, rfl⟩ := Int.eq_ofNat_of_zero_le hb
    rw [signedUnits_natCast, signedUnits_natCast]
    exact Int.ofNat_lt.mpr (strictMono_units (Int.ofNat_lt.mp hab))
  exact hmono.le_iff_le

theorem le_scale (x : Binary64) : -(unitExponent : Int) ≤ x.scale := by
  unfold scale
  split
  · exact Int.le_refl _
  · rename_i hplace
    have hpos : 0 < x.place.val / binadeSize := Nat.div_pos (Nat.le_of_not_lt hplace) (by decide)
    rw [unitExponent]
    omega

theorem units_place (x : Binary64) :
    units x.place.val = x.significand * 2 ^ (x.scale + unitExponent).toNat := by
  unfold units significand scale
  by_cases hplace : x.place.val < binadeSize
  · simp [hplace, unitExponent]
  · have hexponent : ((x.place.val / binadeSize : Nat) - 1075 + unitExponent : Int).toNat =
        x.place.val / binadeSize - 1 := by
      rw [unitExponent]
      omega
    rw [if_neg hplace, if_neg hplace, if_neg hplace, hexponent]

theorem units_mul_denominator (x : Binary64) :
    units x.place.val * x.denominator = x.numerator * 2 ^ unitExponent := by
  have hscale := x.le_scale
  have hexponent :
      (x.scale + unitExponent).toNat + (-x.scale).toNat = x.scale.toNat + unitExponent := by
    omega
  calc units x.place.val * x.denominator
      = x.significand * 2 ^ ((x.scale + unitExponent).toNat + (-x.scale).toNat) := by
        rw [units_place, denominator, Nat.pow_eq, Nat.mul_assoc, Nat.pow_add]
    _ = x.numerator * 2 ^ unitExponent := by
        rw [hexponent, numerator, Nat.pow_eq, Nat.mul_assoc, Nat.pow_add]

theorem denominator_pos (x : Binary64) : 0 < x.denominator := Nat.two_pow_pos _

theorem toRat_eq_signedUnits (x : Binary64) : x.toRat = signedUnits x.orderKey / 2 ^ unitExponent := by
  have hden : (x.denominator : ℚ) ≠ 0 := Nat.cast_ne_zero.mpr x.denominator_pos.ne'
  have hmagnitude :
      (x.numerator : ℚ) / x.denominator = (units x.place.val : ℚ) / 2 ^ unitExponent := by
    rw [div_eq_div_iff hden (by positivity)]
    exact_mod_cast x.units_mul_denominator.symm
  unfold toRat orderKey
  cases x.negative with
  | false =>
    rw [if_neg Bool.false_ne_true, if_neg Bool.false_ne_true, hmagnitude, signedUnits_natCast,
      Int.cast_natCast]
  | true =>
    rw [if_pos rfl, if_pos rfl, hmagnitude, signedUnits_neg, signedUnits_natCast, Int.cast_neg,
      Int.cast_natCast, neg_div]

theorem toRat_le_toRat_iff {x y : Binary64} : x.toRat ≤ y.toRat ↔ x.orderKey ≤ y.orderKey := by
  rw [toRat_eq_signedUnits, toRat_eq_signedUnits, div_le_div_iff_of_pos_right (by positivity),
    Int.cast_le, signedUnits_le_signedUnits_iff]

theorem isNaN_eq_false {x : Binary64} (h : x.isFinite) : x.isNaN = false := by
  simp only [isFinite, isNaN, decide_eq_true_eq, decide_eq_false_iff_not] at *
  omega

theorem natAbs_orderKey (x : Binary64) : x.orderKey.natAbs = x.place.val := by
  unfold orderKey
  split
  · rw [Int.natAbs_neg, Int.natAbs_natCast]
  · rw [Int.natAbs_natCast]

/-- A number passes a check against a limit exactly when it is finite and its value is within that. The
limit is one that a double stands for. -/
theorem isWithin_iff {limit : Int} (hlow : (ofInt (-limit)).toRat = -limit)
    (hhigh : (ofInt limit).toRat = limit)
    (hfinite : (ofInt (-limit)).isFinite ∧ (ofInt limit).isFinite) {x : Binary64} :
    x.isWithin limit ↔ x.isFinite ∧ |x.toRat| ≤ limit := by
  have hlowNaN : (ofInt (-limit)).isNaN = false := isNaN_eq_false hfinite.1
  have hhighNaN : (ofInt limit).isNaN = false := isNaN_eq_false hfinite.2
  have hrange : |x.toRat| ≤ limit ↔
      (ofInt (-limit)).orderKey ≤ x.orderKey ∧ x.orderKey ≤ (ofInt limit).orderKey := by
    rw [abs_le, ← toRat_le_toRat_iff, ← toRat_le_toRat_iff, hlow, hhigh]
  simp only [isWithin, le, hlowNaN, hhighNaN, hrange, Bool.and_eq_true, Bool.not_eq_true',
    Bool.not_false, decide_eq_true_eq, true_and, and_true]
  constructor
  · rintro ⟨⟨-, hle⟩, -, hge⟩
    refine ⟨?_, hle, hge⟩
    simp only [isFinite, decide_eq_true_eq, ← natAbs_orderKey] at hfinite ⊢
    omega
  · rintro ⟨hx, hle, hge⟩
    have hxNaN : x.isNaN = false := isNaN_eq_false hx
    exact ⟨⟨hxNaN, hle⟩, hxNaN, hge⟩

theorem isWithin_latitudeLimit {x : Binary64} :
    x.isWithin Settings.latitudeLimit ↔ x.isFinite ∧ |x.toRat| ≤ 90 :=
  isWithin_iff (by decide +kernel) (by decide +kernel) (by decide +kernel)

theorem isWithin_longitudeLimit {x : Binary64} :
    x.isWithin Settings.longitudeLimit ↔ x.isFinite ∧ |x.toRat| ≤ 180 :=
  isWithin_iff (by decide +kernel) (by decide +kernel) (by decide +kernel)

end HomeHub.Binary64
