import HomeHub.Number.Digits
import Mathlib.Algebra.Group.Nat.Defs

/-!
# Numbers from their digits

The decimal digits of a number write that number, with or without zeros in front of them.
-/
namespace HomeHub

theorem digitsValue_eq_ofDigitChars (digits : List Char) :
    digitsValue digits = Nat.ofDigitChars 10 digits 0 := Nat.ofDigitChars_eq_foldl.symm

@[simp] theorem digitsValue_toDigits (n : Nat) : digitsValue (Nat.toDigits 10 n) = n := by
  rw [digitsValue_eq_ofDigitChars, Nat.ofDigitChars_ten_toDigits]

@[simp] theorem digitsValue_replicate_zero_append (count : Nat) (digits : List Char) :
    digitsValue (List.replicate count '0' ++ digits) = digitsValue digits := by
  simp only [digitsValue_eq_ofDigitChars, Nat.ofDigitChars_append, Nat.ofDigitChars_replicate_zero,
    Nat.mul_zero]

theorem isDigit_of_mem_toDigits {n : Nat} {c : Char} (h : c ∈ Nat.toDigits 10 n) : c.isDigit :=
  Nat.isDigit_of_mem_toDigits (by decide) (by decide) h

theorem length_toDigits_le {n width : Nat} (hwidth : 0 < width) (h : n < 10 ^ width) :
    (Nat.toDigits 10 n).length ≤ width :=
  (Nat.length_toDigits_le_iff (by decide) hwidth).mpr h

theorem exists_toDigits_eq_cons (n : Nat) :
    ∃ first more, Nat.toDigits 10 n = first :: more ∧ first.isDigit := by
  obtain ⟨first, more, h⟩ := List.exists_cons_of_ne_nil (Nat.toDigits_ne_nil (b := 10) (n := n))
  exact ⟨first, more, h, isDigit_of_mem_toDigits (n := n) (h ▸ List.mem_cons_self)⟩

theorem eq_zero_of_digitChar_eq {n : Nat} (hn : n < 10) (h : n.digitChar = '0') : n = 0 := by
  revert n
  decide

/-- Only zero is written with a zero in front. -/
theorem eq_zero_of_toDigits_eq_cons {n : Nat} {digits : List Char}
    (h : Nat.toDigits 10 n = '0' :: digits) : n = 0 := by
  induction n using Nat.strongRecOn generalizing digits with
  | ind n ih =>
    by_cases hsmall : n < 10
    · rw [Nat.toDigits_of_lt_base hsmall] at h
      exact eq_zero_of_digitChar_eq hsmall (List.cons.inj h).1
    · rw [Nat.toDigits_of_base_le (by decide) (by omega)] at h
      cases hfront : Nat.toDigits 10 (n / 10) with
      | nil => exact absurd hfront Nat.toDigits_ne_nil
      | cons c front =>
        rw [hfront] at h
        obtain ⟨rfl, -⟩ := List.cons.inj h
        have := ih (n / 10) (by omega) hfront
        omega

theorem le_of_readUpTo? {limit n : Nat} {text : String} (h : readUpTo? limit text = some n) :
    n ≤ limit := by
  unfold readUpTo? at h
  extract_lets digits at h
  split at h
  · cases h
  · split at h
    · cases h
    · rename_i hle
      obtain rfl := Option.some.inj h
      exact Nat.le_of_not_lt hle

end HomeHub
