import HomeHub.Json.Printer
import HomeHub.Proofs.Json.NumeralEnd
import HomeHub.Proofs.Number.Digits
import Mathlib.Tactic.ByContra

/-!
# Numbers that are read back

Integers of 64 bits are read back from their digits. Reals are read back as far as their numerals are,
since reading can miss the nearest double by one place.
-/
namespace HomeHub.Json
open Scan

/-- The integers that are read as such. -/
def IsWord (n : Int) : Prop := -lowestInteger ≤ n ∧ n ≤ significandLimit

theorem le_foldl_digits (digits : List Char) (n : Nat) :
    n ≤ digits.foldl (fun n c => 10 * n + digitValue c) n := by
  induction digits generalizing n with
  | nil => exact Nat.le_refl n
  | cons c rest ih =>
    have := ih (10 * n + digitValue c)
    simp only [List.foldl_cons]
    omega

/-- All digits are taken when the number fits. -/
theorem appendDigits_eq {digits : List Char} {n : Nat}
    (h : digits.foldl (fun n c => 10 * n + digitValue c) n ≤ significandLimit) :
    appendDigits n digits = (digits.foldl (fun n c => 10 * n + digitValue c) n, digits.length) := by
  induction digits generalizing n with
  | nil => rfl
  | cons c rest ih =>
    have hlonger : ¬significandLimit < 10 * n + digitValue c := by
      have := le_foldl_digits rest (10 * n + digitValue c)
      simp only [List.foldl_cons] at h
      omega
    rw [appendDigits, if_neg hlonger, ih h]
    rfl

theorem readsTo_wholeTail (negative : Bool) (written : List Char)
    (h : digitsValue written ≤ significandLimit) {rest : List Char}
    (hrest : Follows rest) :
    ReadsTo (wholeTail negative written) rest (whole negative (digitsValue written)) rest := by
  have hpoint : rest.head? ≠ some '.' := hrest.ne_some (by simp [EndsNumber])
  have hdigits : appendDigits 0 written = (digitsValue written, written.length) := appendDigits_eq h
  rw [wholeTail, hdigits]
  refine reads_bind (reads_peek _) ?_
  simp only [if_neg hpoint, if_neg hrest.not_mark, Nat.sub_self, if_true]
  exact reads_pure _ _

theorem readsTo_startDigits_zero (negative : Bool) {rest : List Char}
    (hrest : Follows rest) :
    ReadsTo (startDigits negative '0') ('0' :: rest) (whole negative 0) rest := by
  have htail := readsTo_wholeTail negative [] (by decide) hrest
  refine reads_bind (reads_skip _ _) (reads_bind (reads_peek _) ?_)
  cases rest with
  | nil => exact htail
  | cons c tail =>
    simp only [List.head?_cons]
    rw [if_neg (hrest c rfl).1]
    exact htail

theorem readsTo_unsignedNumber (negative : Bool) {n : Nat} (h : n ≤ significandLimit)
    {rest : List Char} (hrest : Follows rest) :
    ReadsTo (unsignedNumber negative) (Nat.toDigits 10 n ++ rest) (whole negative n) rest := by
  obtain ⟨first, more, hdigits, hfirst⟩ := exists_toDigits_eq_cons n
  have hstart : ReadsTo (startDigits negative first) (Nat.toDigits 10 n ++ rest) (whole negative n)
      rest := by
    by_cases hzero : first = '0'
    · obtain rfl := eq_zero_of_toDigits_eq_cons (hzero ▸ hdigits)
      rw [hzero]
      exact readsTo_startDigits_zero negative hrest
    · have htail := readsTo_wholeTail negative (Nat.toDigits 10 n) (by simpa using h) hrest
      rw [digitsValue_toDigits] at htail
      rw [startDigits, if_neg hzero]
      exact reads_bind (readsTo_digits (fun c => isDigit_of_mem_toDigits) hrest.not_isDigit) htail
  rw [unsignedNumber_eq]
  refine reads_bind (reads_peek _) ?_
  rw [hdigits] at hstart ⊢
  simpa [hfirst] using hstart

/-- A word is read back from its digits, with a minus sign in front of them when it is negative. -/
theorem readsTo_numeral_integer {n : Int} (h : IsWord n) {rest : List Char}
    (hrest : Follows rest) :
    ReadsTo numeral (writeNumber (.integer n) ++ rest) (.integer n) rest := by
  obtain ⟨hlow, hhigh⟩ := h
  unfold lowestInteger at hlow
  cases n with
  | ofNat n =>
    have htext : writeNumber (.integer (.ofNat n)) = Nat.toDigits 10 n := Nat.toList_repr
    have hread := readsTo_unsignedNumber false (Int.ofNat_le.mp hhigh) hrest
    obtain ⟨first, more, hdigits, hfirst⟩ := exists_toDigits_eq_cons n
    have hsign : ¬some first = some '-' := by
      rintro ⟨⟩
      exact absurd hfirst (by decide)
    rw [htext]
    refine reads_bind (reads_peek _) ?_
    rw [hdigits] at hread ⊢
    rw [List.cons_append, List.head?_cons, if_neg hsign]
    exact hread
  | negSucc n =>
    have htext : writeNumber (.integer (.negSucc n)) = '-' :: Nat.toDigits 10 (n + 1) := by
      have hrepr : toString (Int.negSucc n) = "-" ++ (n + 1).repr := rfl
      rw [writeNumber, hrepr, String.toList_append, Nat.toList_repr]
      rfl
    have hread := readsTo_unsignedNumber true (n := n + 1) (by unfold significandLimit; omega) hrest
    have hwhole : whole true (n + 1) = .integer (.negSucc n) := by
      have hfits : ¬(n + 1 = 0 ∨ lowestInteger < n + 1) := by
        unfold lowestInteger
        omega
      simp only [whole, Bool.not_true, Bool.false_eq_true, if_false, if_neg hfits]
      rfl
    rw [hwhole] at hread
    rw [htext]
    exact reads_bind (reads_peek _) (reads_bind (reads_skip _ _) hread)

/-- Whether the numeral of a real is read back as the real. -/
def survives (x : Binary64) : Bool :=
  match numeral ⟨writeNumber (.real x), ⟨1, 0⟩⟩ with
  | .done n ⟨[], _⟩ => decide (n = .real x)
  | _ => false

theorem survives_iff {x : Binary64} : survives x ↔
    ∃ place, numeral ⟨writeNumber (.real x), ⟨1, 0⟩⟩ = .done (.real x) ⟨[], place⟩ := by
  rw [survives]
  constructor
  · intro h
    split at h
    · rename_i n place heq
      rw [of_decide_eq_true h] at heq
      exact ⟨place, heq⟩
    · contradiction
  · rintro ⟨place, heq⟩
    simp [heq]

theorem isFinite_of_survives {x : Binary64} (h : survives x) : x.isFinite := by
  by_contra hfinite
  have hnull : writeNumber (.real x) = "null".toList := by rw [writeNumber, if_neg hfinite]
  have hrefused : numeral ⟨"null".toList, ⟨1, 0⟩⟩ = .error ⟨.invalidNumber, ⟨1, 1⟩⟩ := by decide
  rw [survives, hnull, hrefused] at h
  cases h

theorem areDigits_toDigits (n : Nat) : AreDigits (Nat.toDigits 10 n) :=
  ⟨Nat.toDigits_ne_nil, fun _ => isDigit_of_mem_toDigits⟩

theorem areDigits_append_zeros {written : List Char} (h : AreDigits written) (count : Nat) :
    AreDigits (written ++ List.replicate count '0') := by
  refine ⟨List.append_ne_nil_of_left_ne_nil h.ne_nil _, fun c hc => ?_⟩
  rcases List.mem_append.mp hc with hc | hc
  · exact h.all c hc
  · rw [List.eq_of_mem_replicate hc]
    decide

theorem areDigits_zeros_append {written : List Char} (h : AreDigits written) (count : Nat) :
    AreDigits (List.replicate count '0' ++ written) := by
  refine ⟨List.append_ne_nil_of_right_ne_nil _ h.ne_nil, fun c hc => ?_⟩
  rcases List.mem_append.mp hc with hc | hc
  · rw [List.eq_of_mem_replicate hc]
    decide
  · exact h.all c hc

section

variable {written : List Char}

theorem isUnsigned_pointed (h : AreDigits written) (count : Int) :
    IsUnsigned (numeralLayout.pointed written count) := by
  have hzero : AreDigits ['0'] := areDigits_toDigits 0
  have hkeeps : numeralLayout.keepsPoint = true := rfl
  rw [NumeralLayout.pointed, if_pos hkeeps]
  split_ifs with hfront hwhole
  · have hfraction : IsTail ('.' :: (List.replicate (-count).toNat '0' ++ written ++ [])) :=
      .point (areDigits_zeros_append h _) .none
    rw [List.append_nil] at hfraction
    exact .digits hzero hfraction
  · exact .digits (areDigits_append_zeros h _) (.point hzero .none)
  · have hfirst : AreDigits (written.take count.toNat) :=
      ⟨by simpa [h.ne_nil] using hfront, fun c hc => h.all c (List.mem_of_mem_take hc)⟩
    have hlast : AreDigits (written.drop count.toNat) :=
      ⟨by simpa using hwhole, fun c hc => h.all c (List.mem_of_mem_drop hc)⟩
    have htail : IsTail ('.' :: (written.drop count.toNat ++ [])) := .point hlast .none
    rw [List.append_nil] at htail
    exact .digits hfirst htail

theorem isUnsigned_scientific (h : AreDigits written) (exponent : Int) :
    IsUnsigned (NumeralLayout.scientific written exponent) := by
  have hpower : IsPower ('e' :: (if exponent < 0 then '-' else '+') ::
      Nat.toDigits 10 exponent.natAbs) :=
    .marked (Or.inl rfl) (.signed (by split_ifs <;> simp) (areDigits_toDigits _))
  obtain ⟨first, more, rfl, hfirst, hmore⟩ := h.exists_cons
  have hdigit : AreDigits [first] := ⟨List.cons_ne_nil _ _, by simpa using hfirst⟩
  cases more with
  | nil => exact .digits hdigit (.power hpower)
  | cons c more => exact .digits hdigit (.point ⟨List.cons_ne_nil _ _, hmore⟩ hpower)

end

theorem isNumeral_write (d : Decimal) : IsNumeral (numeralLayout.write d) := by
  have hdigits := areDigits_toDigits d.significand
  have hsign {body : List Char} (h : IsUnsigned body) :
      IsNumeral (if d.negative then '-' :: body else body) := by
    split_ifs
    · exact .negative h
    · exact .positive h
  refine hsign ?_
  split
  · exact isUnsigned_pointed hdigits _
  · split_ifs
    · exact isUnsigned_pointed hdigits _
    · exact isUnsigned_scientific hdigits _

theorem isNumeral_writeNumber {x : Binary64} (h : x.isFinite) : IsNumeral (writeNumber (.real x)) := by
  have hplace : x.place.val < infinityPlace := by simpa [Binary64.isFinite] using h
  have hnan : ¬x.isNaN := by simpa [Binary64.isNaN] using Nat.le_of_lt hplace
  have hinfinite : ¬x.isInfinite := by simpa [Binary64.isInfinite] using Nat.ne_of_lt hplace
  rw [writeNumber, if_pos h, NumeralLayout.writeBinary64, if_neg hnan, if_neg hinfinite]
  exact isNumeral_write _

theorem readsTo_numeral_real {x : Binary64} (h : survives x) {rest : List Char}
    (hrest : Follows rest) : ReadsTo numeral (writeNumber (.real x) ++ rest) (.real x) rest := by
  obtain ⟨place, hread⟩ := survives_iff.mp h
  rw [← List.append_nil (writeNumber _)] at hread
  rcases settles_numeral (isNumeral_writeNumber (isFinite_of_survives h)) with ⟨value, hvalue⟩ | hnone
  · obtain ⟨_, hdone⟩ := (hvalue [] follows_nil).done ⟨1, 0⟩
    rw [hread] at hdone
    cases hdone
    exact hvalue rest hrest
  · exact (hnone [] follows_nil _ _ _ hread).elim

theorem starts_of_numeral_eq_done {text : List Char} {place : Place} {value : JsonNumber}
    {c' : Cursor} (h : numeral ⟨text, place⟩ = .done value c') :
    ∃ first more, text = first :: more ∧ (first = '-' ∨ first.isDigit) := by
  cases text with
  | nil => cases h
  | cons first more =>
    refine ⟨first, more, rfl, ?_⟩
    by_contra hnot
    obtain ⟨hsign, hdigit⟩ := not_or.mp hnot
    simp [numeral, unsignedNumber_eq, bind, peek, hsign, hdigit, failNext] at h

def IsReadNumber : JsonNumber → Prop
  | .integer n => IsWord n
  | .real _ => True

theorem appendDigits_le (digits : List Char) {n : Nat} (h : n ≤ significandLimit) :
    (appendDigits n digits).1 ≤ significandLimit := by
  induction digits generalizing n with
  | nil => exact h
  | cons c rest ih =>
    rw [appendDigits]
    split_ifs with hlarge
    · exact h
    · exact ih (Nat.le_of_not_lt hlarge)

theorem isReadNumber_whole (negative : Bool) {significand : Nat} (h : significand ≤ significandLimit) :
    IsReadNumber (whole negative significand) := by
  unfold whole
  split_ifs with hpositive hreal
  · refine ⟨?_, Int.ofNat_le.mpr h⟩
    unfold lowestInteger
    omega
  · trivial
  · unfold IsReadNumber IsWord significandLimit
    omega

section

variable (negative : Bool) (significand : Nat) (point : Int)

theorem ensures_real : Ensures (real negative significand point) IsReadNumber := by
  unfold real
  split
  · exact ensures_pure trivial
  · exact ensures_failHere _ _

theorem ensures_exponentMagnitude (sign : Option Char) :
    Ensures (exponentMagnitude negative significand point sign) IsReadNumber := by
  refine ensures_then fun first => ?_
  split
  · exact ensures_failHere _ _
  · split_ifs
    · exact ensures_failNext _ _
    · refine ensures_then fun start => ensures_then fun written => ?_
      unfold exponentValue
      split
      · split_ifs
        · exact fun _ _ _ heq => by cases heq
        · exact ensures_pure trivial
      · exact ensures_real _ _ _

theorem ensures_exponentPart : Ensures (exponentPart negative significand point) IsReadNumber := by
  rw [exponentPart_eq]
  refine ensures_then fun sign => ?_
  split_ifs
  · exact ensures_then fun _ => ensures_exponentMagnitude _ _ _ _
  · exact ensures_exponentMagnitude _ _ _ _

theorem ensures_fractionPart : Ensures (fractionPart negative significand point) IsReadNumber := by
  refine ensures_then fun written => ?_
  split_ifs
  · refine ensures_then fun next => ?_
    split <;> exact ensures_failNext _ _
  · refine ensures_then fun next => ?_
    split_ifs
    · exact ensures_then fun _ => ensures_exponentPart _ _ _
    · exact ensures_real _ _ _

theorem ensures_wholeTail (written : List Char) :
    Ensures (wholeTail negative written) IsReadNumber := by
  refine ensures_then fun next => ?_
  split_ifs
  · exact ensures_then fun _ => ensures_fractionPart _ _ _
  · exact ensures_then fun _ => ensures_exponentPart _ _ _
  · exact ensures_pure (isReadNumber_whole negative (appendDigits_le written (Nat.zero_le _)))
  · exact ensures_real _ _ _

theorem ensures_unsignedNumber : Ensures (unsignedNumber negative) IsReadNumber := by
  rw [unsignedNumber_eq]
  refine ensures_then fun first => ?_
  split
  · exact ensures_failHere _ _
  · unfold startDigits
    split_ifs
    · exact ensures_failNext _ _
    · refine ensures_then fun _ => ensures_then fun next => ?_
      split
      · split_ifs
        · exact ensures_failNext _ _
        · exact ensures_wholeTail _ _
      · exact ensures_wholeTail _ _
    · exact ensures_then fun written => ensures_wholeTail _ _

end

theorem ensures_numeral : Ensures numeral IsReadNumber := by
  refine ensures_then fun sign => ?_
  split_ifs
  · exact ensures_then fun _ => ensures_unsignedNumber true
  · exact ensures_unsignedNumber false

end HomeHub.Json
