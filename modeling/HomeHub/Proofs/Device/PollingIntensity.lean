import HomeHub.Proofs.Device.Accepted
import HomeHub.Proofs.Number.Digits
import HomeHub.Proofs.Number.Order

/-!
# What counts as a polling intensity

A polling intensity is judged by the integer that it stands for: a number stands for its integer part,
a text for the integer that it writes, and yes and no stand for one and zero.
-/
namespace HomeHub

namespace Binary64

/-- A negative fraction above -1 has the integer part zero. -/
theorem integerPart_nonneg_iff (x : Binary64) : 0 ≤ x.integerPart ↔ -1 < x.toRat := by
  unfold integerPart toRat
  cases x.negative with
  | false =>
    have hmagnitude : (0 : ℚ) ≤ x.numerator / x.denominator := by positivity
    simp only [Bool.false_eq_true, if_false]
    exact iff_of_true (Int.natCast_nonneg _) (neg_one_lt_zero.trans_le hmagnitude)
  | true =>
    have hneg : ∀ whole : Nat, (0 : Int) ≤ -(whole : Int) ↔ whole = 0 := by
      intro whole
      omega
    simp only [if_true]
    rw [hneg, Nat.div_eq_zero_iff_lt x.denominator_pos, neg_lt_neg_iff,
      div_lt_one (Nat.cast_pos.mpr x.denominator_pos), Nat.cast_lt]

end Binary64

namespace JsonNumber

def toRat : JsonNumber → ℚ
  | integer n => n
  | real x => x.toRat

def isFinite : JsonNumber → Bool
  | integer _ => true
  | real x => x.isFinite

end JsonNumber

namespace Text

theorem not_isBlank_of_isDigit {c : Char} (h : c.isDigit) : ¬isBlank c := by
  have hrange : 48 ≤ c.toNat ∧ c.toNat ≤ 57 := by
    simp only [Char.isDigit, Bool.and_eq_true, decide_eq_true_eq, UInt32.le_iff_toNat_le] at h
    exact h
  have hwide : ∀ n ∈ wideBlanks, 57 < n := by decide
  intro hblank
  simp only [isBlank, Bool.or_eq_true, Bool.and_eq_true, decide_eq_true_eq,
    List.contains_iff_mem] at hblank
  rcases hblank with (rfl | hcontrol) | hmem
  · exact absurd hrange (by decide)
  · omega
  · have := hwide _ hmem
    omega

theorem trim_of_not_isBlank {text : List Char} (h : ∀ c ∈ text, ¬isBlank c) : trim text = text := by
  have hdrop : ∀ part : List Char, (∀ c ∈ part, ¬isBlank c) → part.dropWhile isBlank = part := by
    intro part hpart
    cases part with
    | nil => rfl
    | cons c rest => exact List.dropWhile_cons_of_neg (hpart c List.mem_cons_self)
  rw [trim, trimStart, hdrop text h, trimEnd, hdrop _ fun c hc => h c (List.mem_reverse.mp hc),
    List.reverse_reverse]

end Text

namespace Device

open Json (AreDigits)

/-- A text that writes an integer: decimal digits behind an optional sign. -/
inductive Writes : List Char → Int → Prop
  | unsigned {digits : List Char} : AreDigits digits → Writes digits (digitsValue digits)
  | positive {digits : List Char} : AreDigits digits → Writes ('+' :: digits) (digitsValue digits)
  | negative {digits : List Char} : AreDigits digits → Writes ('-' :: digits) (-digitsValue digits)

theorem splitSign_of_areDigits {digits : List Char} (h : AreDigits digits) :
    Decimal.splitSign digits = (false, digits) := by
  obtain ⟨first, more, rfl, hfirst, -⟩ := h.exists_cons
  have hplus : first ≠ '+' := by
    rintro rfl
    exact absurd hfirst (by decide)
  have hminus : first ≠ '-' := by
    rintro rfl
    exact absurd hfirst (by decide)
  unfold Decimal.splitSign
  split <;> simp_all

theorem eq_of_splitSign {text digits : List Char} {negative : Bool}
    (h : Decimal.splitSign text = (negative, digits)) :
    text = '-' :: digits ∧ negative = true ∨ text = '+' :: digits ∧ negative = false ∨
      text = digits ∧ negative = false := by
  unfold Decimal.splitSign at h
  split at h <;> obtain ⟨rfl, rfl⟩ := Prod.mk.inj h
  · exact .inl ⟨rfl, rfl⟩
  · exact .inr (.inl ⟨rfl, rfl⟩)
  · exact .inr (.inr ⟨rfl, rfl⟩)

theorem writes_iff {text digits : List Char} {negative : Bool} {n : Int}
    (h : Decimal.splitSign text = (negative, digits)) : Writes text n ↔
      AreDigits digits ∧ n = if negative then -(digitsValue digits : Int) else digitsValue digits := by
  constructor
  · rintro (hdigits | hdigits | hdigits)
    · obtain ⟨rfl, rfl⟩ := Prod.mk.inj ((splitSign_of_areDigits hdigits).symm.trans h)
      exact ⟨hdigits, rfl⟩
    · obtain ⟨rfl, rfl⟩ := Prod.mk.inj h
      exact ⟨hdigits, rfl⟩
    · obtain ⟨rfl, rfl⟩ := Prod.mk.inj h
      exact ⟨hdigits, rfl⟩
  · rintro ⟨hdigits, rfl⟩
    rcases eq_of_splitSign h with ⟨rfl, rfl⟩ | ⟨rfl, rfl⟩ | ⟨rfl, rfl⟩
    · exact .negative hdigits
    · exact .positive hdigits
    · exact .unsigned hdigits

theorem Writes.unique {text : List Char} {n m : Int} (hn : Writes text n) (hm : Writes text m) :
    n = m := by
  rw [writes_iff rfl] at hn hm
  exact hn.2.trans hm.2.symm

/-- An integer is read from each text that writes it, if it fits in 64 bits with a sign. -/
theorem readInteger?_eq_some_iff {text : List Char} {n : Int} :
    readInteger? text = some n ↔ Writes text n ∧ -2 ^ 63 ≤ n ∧ n < 2 ^ 63 := by
  rcases hsplit : Decimal.splitSign text with ⟨negative, digits⟩
  have hdigits : AreDigits digits ↔ ¬(digits.isEmpty || !digits.all Char.isDigit) := by
    simp only [Bool.or_eq_true, List.isEmpty_iff, Bool.not_eq_true', ← Bool.not_eq_true,
      List.all_eq_true, not_or, not_not]
    exact ⟨fun h => ⟨h.ne_nil, h.all⟩, fun h => ⟨h.1, h.2⟩⟩
  rw [writes_iff hsplit, hdigits, readInteger?, hsplit]
  dsimp only
  generalize (if negative then -(digitsValue digits : Int) else digitsValue digits) = value
  split_ifs with hrefused hfits
  · simp [hrefused]
  · rw [Option.some_inj]
    constructor
    · rintro rfl
      exact ⟨⟨hrefused, rfl⟩, by omega⟩
    · rintro ⟨⟨-, rfl⟩, -⟩
      rfl
  · refine iff_of_false nofun ?_
    rintro ⟨⟨-, rfl⟩, hrange⟩
    omega

theorem writes_toString (n : Int) : Writes (Text.trim (toString n).toList) n := by
  have hdigits : ∀ k : Nat, AreDigits (Nat.toDigits 10 k) := fun k =>
    ⟨Nat.toDigits_ne_nil, fun _ => isDigit_of_mem_toDigits⟩
  have hvisible : ∀ k : Nat, ∀ c ∈ Nat.toDigits 10 k, ¬Text.isBlank c := fun k c hc =>
    Text.not_isBlank_of_isDigit ((hdigits k).all c hc)
  cases n with
  | ofNat k =>
    have htext : (toString (Int.ofNat k)).toList = Nat.toDigits 10 k := Nat.toList_repr
    have hwritten : Writes (Nat.toDigits 10 k) (digitsValue (Nat.toDigits 10 k)) :=
      .unsigned (hdigits k)
    rw [htext, Text.trim_of_not_isBlank (hvisible k)]
    rwa [digitsValue_toDigits] at hwritten
  | negSucc k =>
    have htext : (toString (Int.negSucc k)).toList = '-' :: Nat.toDigits 10 (k + 1) := by
      have hrepr : toString (Int.negSucc k) = "-" ++ (k + 1).repr := rfl
      rw [hrepr, String.toList_append, Nat.toList_repr]
      rfl
    have hwritten : Writes ('-' :: Nat.toDigits 10 (k + 1))
        (-(digitsValue (Nat.toDigits 10 (k + 1)) : Int)) := .negative (hdigits (k + 1))
    rw [htext, Text.trim_of_not_isBlank (List.forall_mem_cons.mpr ⟨by decide, hvisible (k + 1)⟩)]
    rwa [digitsValue_toDigits] at hwritten

section

variable {number : JsonNumber} {text : String} {n : Int}

theorem neg_one_lt_intCast_iff {k : Int} : (-1 : ℚ) < k ↔ 0 ≤ k := by
  have hcast : (-1 : ℚ) < k ↔ -1 < k := by exact_mod_cast Iff.rfl
  rw [hcast]
  omega

theorem isPollingIntensity_number_iff :
    isPollingIntensity (.number number) ↔ number.isFinite ∧ -1 < number.toRat := by
  cases number with
  | integer k =>
    simp only [isPollingIntensity, JsonNumber.isFinite, JsonNumber.toRat, neg_one_lt_intCast_iff,
      decide_eq_true_eq, true_and]
  | real x =>
    simp only [isPollingIntensity, JsonNumber.isFinite, JsonNumber.toRat, Bool.and_eq_true,
      decide_eq_true_eq, x.integerPart_nonneg_iff]

theorem isPollingIntensity_text_iff : isPollingIntensity (.text text) ↔
    ∃ n, Writes (Text.trim text.toList) n ∧ 0 ≤ n ∧ n < 2 ^ 63 := by
  cases hread : readInteger? (Text.trim text.toList) with
  | none =>
    have hnone : ¬∃ n, Writes (Text.trim text.toList) n ∧ 0 ≤ n ∧ n < 2 ^ 63 := by
      rintro ⟨n, hn, hlow, hhigh⟩
      cases hread.symm.trans (readInteger?_eq_some_iff.mpr ⟨hn, by omega, hhigh⟩)
    simp only [isPollingIntensity, hread, Bool.false_eq_true, hnone]
  | some n =>
    obtain ⟨hn, -, hhigh⟩ := readInteger?_eq_some_iff.mp hread
    simp only [isPollingIntensity, hread, decide_eq_true_eq]
    refine ⟨fun hlow => ⟨n, hn, hlow, hhigh⟩, ?_⟩
    rintro ⟨m, hm, hlow, -⟩
    rwa [hn.unique hm]

theorem isPollingIntensity_text_of_writes (h : Writes (Text.trim text.toList) n) (hhigh : n < 2 ^ 63) :
    isPollingIntensity (.text text) ↔ 0 ≤ n := by
  rw [isPollingIntensity_text_iff]
  refine ⟨?_, fun hlow => ⟨n, h, hlow, hhigh⟩⟩
  rintro ⟨m, hm, hlow, -⟩
  rwa [h.unique hm]

def intensityOptions (value : Json) : Options :=
  ⟨[("polling_intensity", value)], List.pairwise_singleton _ _⟩

/-- A value that is accepted as a polling intensity. -/
def IsAcceptedIntensity (value : Json) : Prop :=
  ∃ options, readOptions (.object [("polling_intensity", value)]) = .ok options

theorem isAcceptedIntensity_iff {value : Json} :
    IsAcceptedIntensity value ↔ isPollingIntensity value := by
  have hoption : IsOption ("polling_intensity", value) ↔ isPollingIntensity value := by
    simp [IsOption, acceptance?]
  have hread : ∀ options, readOptions (.object [("polling_intensity", value)]) = .ok options ↔
      intensityOptions value = options ∧ isPollingIntensity value := by
    intro options
    have hmembers := @readOptions_entries_eq_ok_iff (intensityOptions value) options
    simpa only [intensityOptions, List.forall_mem_singleton, hoption] using hmembers
  simp only [IsAcceptedIntensity, hread, exists_eq_left']

/-- Yes or no, a number whose integer part is not negative, and a text that writes an integer which is
not negative. -/
inductive IsIntensity : Json → Prop
  | boolean (value : Bool) : IsIntensity (.boolean value)
  | number {number : JsonNumber} : number.isFinite → -1 < number.toRat →
      IsIntensity (.number number)
  | text {text : String} {n : Int} : Writes (Text.trim text.toList) n → 0 ≤ n →
      IsIntensity (.text text)

theorem isPollingIntensity_iff {value : Json}
    (h : ∀ text n, value = .text text → Writes (Text.trim text.toList) n → n < 2 ^ 63) :
    isPollingIntensity value ↔ IsIntensity value := by
  cases value with
  | boolean value => exact iff_of_true rfl (.boolean value)
  | number number =>
    rw [isPollingIntensity_number_iff]
    refine ⟨fun ⟨hfinite, hvalue⟩ => .number hfinite hvalue, ?_⟩
    rintro ⟨⟩
    exact ⟨‹_›, ‹_›⟩
  | text text =>
    rw [isPollingIntensity_text_iff]
    refine ⟨fun ⟨n, hn, hlow, _⟩ => .text hn hlow, ?_⟩
    rintro (_ | _ | ⟨hn, hlow⟩)
    exact ⟨_, hn, hlow, h text _ rfl hn⟩
  | null | array _ | object _ => exact iff_of_false Bool.false_ne_true nofun

/-- A value is accepted as a polling intensity exactly when it is yes or no, a number above -1, or a
text that writes an integer which is not negative. Texts of integers that do not fit in 64 bits with a
sign are left out. All other integers are judged alike as numbers and as texts. -/
theorem isAcceptedIntensity_iff_isIntensity :
    (∀ value : Json, (∀ text n, value = .text text → Writes (Text.trim text.toList) n → n < 2 ^ 63) →
      (IsAcceptedIntensity value ↔ IsIntensity value)) ∧
    ∀ (number : JsonNumber) (n : Int), number.isFinite → number.toRat = n → n < 2 ^ 63 →
      (IsAcceptedIntensity (.number number) ↔ IsAcceptedIntensity (.text (toString n))) := by
  refine ⟨fun value h => isAcceptedIntensity_iff.trans (isPollingIntensity_iff h), ?_⟩
  intro number n hfinite hvalue hhigh
  rw [isAcceptedIntensity_iff, isAcceptedIntensity_iff,
    isPollingIntensity_text_of_writes (writes_toString n) hhigh, isPollingIntensity_number_iff, hvalue,
    neg_one_lt_intCast_iff]
  exact and_iff_right hfinite

end

/-- A number below all integers of 64 bits. -/
def lowNumber : JsonNumber := .real (.ofRatio true (10 ^ 19) 1)

theorem toRat_lowNumber : lowNumber.toRat = ((-10 ^ 19 : Int) : ℚ) := by decide +kernel

theorem writes_seven : Writes (Text.trim " +7\n".toList) 7 :=
  @Writes.positive ['7'] ⟨List.cons_ne_nil _ _, List.forall_mem_singleton.mpr rfl⟩

/-- A text with a sign and blanks is accepted, and the low number is refused as its text is. -/
theorem seven_isAcceptedIntensity :
    (∀ text n, Json.text " +7\n" = .text text → Writes (Text.trim text.toList) n → n < 2 ^ 63) ∧
      IsAcceptedIntensity (.text " +7\n") ∧
      lowNumber.isFinite ∧ lowNumber.toRat = ((-10 ^ 19 : Int) : ℚ) ∧ (-10 ^ 19 : Int) < 2 ^ 63 ∧
      ¬IsAcceptedIntensity (.number lowNumber) ∧
      ¬IsAcceptedIntensity (.text (toString (-10 ^ 19 : Int))) := by
  have hfits : ∀ text n, Json.text " +7\n" = .text text → Writes (Text.trim text.toList) n →
      n < 2 ^ 63 := by
    rintro _ n ⟨⟩ hn
    rw [hn.unique writes_seven]
    decide
  have hlow : ¬IsAcceptedIntensity (.number lowNumber) := by
    rw [isAcceptedIntensity_iff]
    decide +kernel
  have hfinite : lowNumber.isFinite := by decide +kernel
  have hsame := isAcceptedIntensity_iff_isIntensity.2 lowNumber _ hfinite toRat_lowNumber (by decide)
  exact ⟨hfits, (isAcceptedIntensity_iff_isIntensity.1 _ hfits).mpr (.text writes_seven (by decide)),
    hfinite, toRat_lowNumber, by decide, hlow, fun h => hlow (hsame.mpr h)⟩

/-- An integer that is not negative, as a number or as a text. -/
inductive IsCount : Json → Prop
  | number {number : JsonNumber} (k : ℕ) : number.isFinite → number.toRat = k →
      IsCount (.number number)
  | text {text : String} {n : Int} : Writes (Text.trim text.toList) n → 0 ≤ n → IsCount (.text text)

def halfBelowZero : Json := .number (.real (.ofRatio true 1 2))

theorem read_halfBelowZero : Json.read "-0.5" = .ok halfBelowZero := by decide +kernel

/-- A negative fraction and a yes are accepted though they are no integers, and the least integer that
does not fit in 64 bits with a sign is accepted as a number but not as a text. -/
theorem halfBelowZero_accepted :
    (Json.read "-0.5" = .ok halfBelowZero ∧ IsAcceptedIntensity halfBelowZero ∧
      ¬IsCount halfBelowZero) ∧
    (IsAcceptedIntensity (.boolean true) ∧ ¬IsCount (.boolean true)) ∧
    IsAcceptedIntensity (.number (.integer (2 ^ 63))) ∧ IsCount (.text (toString (2 ^ 63 : Int))) ∧
      ¬IsAcceptedIntensity (.text (toString (2 ^ 63 : Int))) := by
  simp only [isAcceptedIntensity_iff]
  refine ⟨⟨read_halfBelowZero, by decide +kernel, ?_⟩, ⟨rfl, nofun⟩, by decide +kernel,
    .text (writes_toString _) (by decide), ?_⟩
  · rintro ⟨k, -, hvalue⟩
    have hnegative : (Binary64.ofRatio true 1 2).toRat < 0 := by decide +kernel
    exact absurd (Nat.cast_nonneg (α := ℚ) k) (not_le.mpr (hvalue ▸ hnegative))
  · rw [isPollingIntensity_text_iff]
    rintro ⟨n, hn, -, hhigh⟩
    rw [hn.unique (writes_toString _)] at hhigh
    exact absurd hhigh (by decide)

end Device

end HomeHub
