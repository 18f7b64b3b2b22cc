import HomeHub.Json.Numeral
import HomeHub.Proofs.Json.Scan
import Mathlib.Tactic.SplitIfs

/-!
# Where a number ends

A numeral is read as one number in front of every text that does not go on with a character of
numbers, or it is refused in front of all of them.
-/
namespace HomeHub.Json
open Scan

/-- No number goes on with this character. -/
def EndsNumber (c : Char) : Prop := ¬c.isDigit ∧ c ≠ '.' ∧ c ≠ 'e' ∧ c ≠ 'E'

/-- What may follow a value. -/
def Follows (rest : List Char) : Prop := ∀ c ∈ rest.head?, EndsNumber c

theorem follows_nil : Follows [] := fun _ h => by cases h

theorem follows_cons {c : Char} (h : EndsNumber c) (rest : List Char) : Follows (c :: rest) := by
  rintro d ⟨⟩
  exact h

structure AreDigits (written : List Char) : Prop where
  ne_nil : written ≠ []
  all : ∀ c ∈ written, c.isDigit

/-- An exponent from behind its mark. -/
inductive IsExponent : List Char → Prop
  | unsigned {written : List Char} : AreDigits written → IsExponent written
  | signed {sign : Char} {written : List Char} :
    sign = '+' ∨ sign = '-' → AreDigits written → IsExponent (sign :: written)

inductive IsPower : List Char → Prop
  | none : IsPower []
  | marked {mark : Char} {exponent : List Char} :
    mark = 'e' ∨ mark = 'E' → IsExponent exponent → IsPower (mark :: exponent)

/-- What stands behind the digits before a point: maybe more digits, and an exponent. -/
inductive IsTail : List Char → Prop
  | power {power : List Char} : IsPower power → IsTail power
  | point {written power : List Char} :
    AreDigits written → IsPower power → IsTail ('.' :: (written ++ power))

/-- Digits with all that may stand behind them. -/
inductive IsUnsigned : List Char → Prop
  | digits {written tail : List Char} : AreDigits written → IsTail tail → IsUnsigned (written ++ tail)

/-- A number as it is written, zeros in front of it included. -/
inductive IsNumeral : List Char → Prop
  | positive {text : List Char} : IsUnsigned text → IsNumeral text
  | negative {text : List Char} : IsUnsigned text → IsNumeral ('-' :: text)

theorem AreDigits.exists_cons {written : List Char} (h : AreDigits written) :
    ∃ first more, written = first :: more ∧ first.isDigit ∧ ∀ c ∈ more, c.isDigit := by
  obtain ⟨first, more, rfl⟩ := List.exists_cons_of_ne_nil h.ne_nil
  obtain ⟨hfirst, hmore⟩ := List.forall_mem_cons.mp h.all
  exact ⟨first, more, rfl, hfirst, hmore⟩

section

variable {rest : List Char}

theorem Follows.ne_some (h : Follows rest) {c : Char} (hc : ¬EndsNumber c) : rest.head? ≠ some c :=
  fun hhead => hc (h c hhead)

theorem Follows.not_mark (h : Follows rest) : ¬(rest.head? = some 'e' ∨ rest.head? = some 'E') :=
  not_or.mpr ⟨h.ne_some (by simp [EndsNumber]), h.ne_some (by simp [EndsNumber])⟩

theorem Follows.not_isDigit (h : Follows rest) : ∀ c ∈ rest.head?, c.isDigit = false :=
  fun c hc => Bool.eq_false_iff.mpr (h c hc).1

theorem IsPower.not_isDigit {power : List Char} (h : IsPower power) (hrest : Follows rest) :
    ∀ c ∈ (power ++ rest).head?, c.isDigit = false := by
  cases h with
  | none => exact hrest.not_isDigit
  | marked hmark _ =>
    rintro c ⟨⟩
    rcases hmark with rfl | rfl <;> decide

theorem IsTail.not_isDigit {tail : List Char} (h : IsTail tail) (hrest : Follows rest) :
    ∀ c ∈ (tail ++ rest).head?, c.isDigit = false := by
  cases h with
  | power hpower => exact hpower.not_isDigit hrest
  | point _ _ =>
    rintro c ⟨⟩
    decide

end

theorem readsTo_digits {written rest : List Char} (h : ∀ c ∈ written, c.isDigit)
    (hrest : ∀ c ∈ rest.head?, c.isDigit = false) : ReadsTo digits (written ++ rest) written rest := by
  have hnone : rest.takeWhile Char.isDigit = [] ∧ rest.dropWhile Char.isDigit = rest := by
    cases rest with
    | nil => exact ⟨rfl, rfl⟩
    | cons c tail => simp [hrest c rfl]
  refine .inl fun place => ⟨written.foldl Place.after place, ?_⟩
  simp only [digits, Cursor.skipWhile, List.takeWhile_append_of_pos h,
    List.dropWhile_append_of_pos h, hnone, List.append_nil]

def outOfRange (start : Place) (taken : Nat) : Scan JsonNumber :=
  fun _ => .error ⟨.numberOutOfRange, ⟨start.line, start.column + taken⟩⟩

/-- The number with an exponent of these digits. -/
def exponentValue (negative : Bool) (significand : Nat) (point : Int) (sign : Option Char)
    (start : Place) (written : List Char) : Scan JsonNumber :=
  match exponentOverflow? 0 0 written with
  | some taken =>
    if significand ≠ 0 ∧ sign ≠ some '-' then outOfRange start taken
    else pure (.real (.signedZero negative))
  | none =>
    real negative significand
      (if sign = some '-' then point - digitsValue written else point + digitsValue written)

/-- An exponent from its first digit on. -/
def exponentDigits (negative : Bool) (significand : Nat) (point : Int) (sign : Option Char) :
    Scan JsonNumber := do
  let start ← cursor
  let written ← digits
  exponentValue negative significand point sign start.place written

/-- An exponent from behind its sign. -/
def exponentMagnitude (negative : Bool) (significand : Nat) (point : Int) (sign : Option Char) :
    Scan JsonNumber := do
  match ← peek with
  | none => failHere .endInValue
  | some c =>
    if !c.isDigit then failNext .invalidNumber else exponentDigits negative significand point sign

theorem exponentPart_eq (negative : Bool) (significand : Nat) (point : Int) :
    exponentPart negative significand point = peek >>= fun sign =>
      if sign = some '+' ∨ sign = some '-' then
        skip >>= fun _ => exponentMagnitude negative significand point sign
      else exponentMagnitude negative significand point sign := rfl

/-- A number from behind the digits before its point. -/
def wholeTail (negative : Bool) (written : List Char) : Scan JsonNumber :=
  let (significand, taken) := appendDigits 0 written
  let left := written.length - taken
  peek >>= fun next =>
    if next = some '.' then skip >>= fun _ => fractionPart negative significand left
    else if next = some 'e' ∨ next = some 'E' then
      skip >>= fun _ => exponentPart negative significand left
    else if left = 0 then pure (whole negative significand)
    else real negative significand left

/-- A number from its first digit on, known to be that. -/
def startDigits (negative : Bool) (first : Char) : Scan JsonNumber :=
  if first = '0' then do
    skip
    match ← peek with
    | some c => if c.isDigit then failNext .invalidNumber else wholeTail negative []
    | none => wholeTail negative []
  else do
    let written ← digits
    wholeTail negative written

theorem unsignedNumber_eq (negative : Bool) : unsignedNumber negative = peek >>= fun first =>
    match first with
    | none => failHere .endInValue
    | some c => if !c.isDigit then failNext .invalidNumber else startDigits negative c := by
  funext c
  obtain ⟨text, place⟩ := c
  cases text with
  | nil => rfl
  | cons first tail =>
    by_cases hzero : first = '0'
    · subst hzero
      cases tail <;> rfl
    · have hzero' : ¬some first = some '0' := fun h => hzero (Option.some.inj h)
      cases hdigit : first.isDigit <;>
        simp [unsignedNumber, startDigits, wholeTail, bind, peek, failNext, hdigit, hzero, hzero']

section

variable {α β : Type}

/-- A text is read as one value in front of all that may follow, or always refused. -/
def Settles (scan : Scan α) (text : List Char) : Prop :=
  (∃ value, ∀ rest, Follows rest → ReadsTo scan (text ++ rest) value rest) ∨
    ∀ rest, Follows rest → Refuses scan (text ++ rest)

theorem settles_pure (value : α) : Settles (pure value) [] :=
  .inl ⟨value, fun rest _ => reads_pure value rest⟩

theorem settles_bind {first : Scan α} {next : α → Scan β} {text text' : List Char} {a : α}
    (hfirst : ∀ rest, Follows rest → ReadsTo first (text ++ rest) a (text' ++ rest))
    (hnext : Settles (next a) text') : Settles (first >>= next) text := by
  rcases hnext with ⟨value, hnext⟩ | hnext
  · exact .inl ⟨value, fun rest hrest => reads_bind (hfirst rest hrest) (hnext rest hrest)⟩
  · exact .inr fun rest hrest => refuses_bind (hfirst rest hrest) (hnext rest hrest)

/-- Behind a look ahead, what comes next is known as far as it matters. -/
theorem settles_peek {next : Option Char → Scan β} {last : Scan β} {text : List Char}
    (h : ∀ rest, Follows rest → next (text ++ rest).head? = last) (hlast : Settles last text) :
    Settles (peek >>= next) text := by
  rcases hlast with ⟨value, hlast⟩ | hlast
  · refine .inl ⟨value, fun rest hrest => reads_bind (reads_peek _) ?_⟩
    rw [h rest hrest]
    exact hlast rest hrest
  · refine .inr fun rest hrest => refuses_bind (reads_peek _) ?_
    rw [h rest hrest]
    exact hlast rest hrest

theorem settles_skip_bind {next : Scan β} {c : Char} {text : List Char} (h : Settles next text) :
    Settles (skip >>= fun _ => next) (c :: text) :=
  settles_bind (fun _ _ => reads_skip c _) h

end

section

variable (negative : Bool) (significand : Nat) (point : Int) (sign : Option Char)

theorem settles_real : Settles (real negative significand point) [] := by
  unfold real
  split
  · exact settles_pure _
  · exact .inr fun rest _ => refuses_failHere _ rest

/-- The place where the digits start only serves an error. -/
theorem settles_exponentValue (written : List Char) :
    (∃ value, ∀ start rest, Follows rest →
      ReadsTo (exponentValue negative significand point sign start written) rest value rest) ∨
    ∀ start rest, Follows rest →
      Refuses (exponentValue negative significand point sign start written) rest := by
  unfold exponentValue
  cases exponentOverflow? 0 0 written with
  | none =>
    rcases settles_real negative significand _ with ⟨value, hreal⟩ | hreal
    · exact .inl ⟨value, fun _ => hreal⟩
    · exact .inr fun _ => hreal
  | some taken =>
    simp only
    split_ifs
    · exact .inr fun _ _ _ _ _ _ heq => by cases heq
    · exact .inl ⟨_, fun _ rest _ => reads_pure _ rest⟩

theorem settles_exponentDigits {written : List Char} (h : ∀ c ∈ written, c.isDigit) :
    Settles (exponentDigits negative significand point sign) written := by
  have hdigits (rest : List Char) (hrest : Follows rest) :
      ReadsTo digits (written ++ rest) written rest := readsTo_digits h hrest.not_isDigit
  rcases settles_exponentValue negative significand point sign written with ⟨value, hvalue⟩ | hvalue
  · exact .inl ⟨value, fun rest hrest => .inl fun place =>
      (reads_bind (hdigits rest hrest) (hvalue place rest hrest)).done place⟩
  · exact .inr fun rest hrest place =>
      refuses_bind (hdigits rest hrest) (hvalue place rest hrest) place

theorem settles_exponentMagnitude {written : List Char} (h : AreDigits written) :
    Settles (exponentMagnitude negative significand point sign) written := by
  obtain ⟨first, more, rfl, hfirst, -⟩ := h.exists_cons
  refine settles_peek (fun rest _ => ?_) (settles_exponentDigits negative significand point sign h.all)
  simp [hfirst]

theorem settles_exponentPart {exponent : List Char} (h : IsExponent exponent) :
    Settles (exponentPart negative significand point) exponent := by
  rw [exponentPart_eq]
  cases h with
  | unsigned hwritten =>
    obtain ⟨first, more, rfl, hfirst, -⟩ := hwritten.exists_cons
    have hsign : ¬(some first = some '+' ∨ some first = some '-') := by
      rintro (⟨⟨⟩⟩ | ⟨⟨⟩⟩) <;> exact absurd hfirst (by decide)
    refine settles_peek (fun _ _ => ?_)
      (settles_exponentMagnitude negative significand point (some first) hwritten)
    exact if_neg hsign
  | @signed sign _ hsign hwritten =>
    have hmark : some sign = some '+' ∨ some sign = some '-' := by simpa using hsign
    refine settles_peek (fun _ _ => ?_)
      (settles_skip_bind (settles_exponentMagnitude negative significand point (some sign) hwritten))
    exact if_pos hmark

/-- A character that may follow: the mark of an exponent, or what ends the number. -/
theorem settles_optionalExponent {done : Scan JsonNumber} (hdone : Settles done [])
    {power : List Char} (h : IsPower power) :
    Settles (peek >>= fun next =>
      if next = some 'e' ∨ next = some 'E' then
        skip >>= fun _ => exponentPart negative significand point
      else done) power := by
  cases h with
  | none => exact settles_peek (fun rest hrest => if_neg hrest.not_mark) hdone
  | marked hmark hexponent =>
    exact settles_peek (fun _ _ => if_pos (by simpa using hmark))
      (settles_skip_bind (settles_exponentPart _ _ _ hexponent))

theorem settles_fractionPart {written power : List Char} (h : AreDigits written)
    (hpower : IsPower power) :
    Settles (fractionPart negative significand point) (written ++ power) := by
  have hdigits (rest : List Char) (hrest : Follows rest) :
      ReadsTo digits (written ++ power ++ rest) written (power ++ rest) := by
    rw [List.append_assoc]
    exact readsTo_digits h.all (hpower.not_isDigit hrest)
  refine settles_bind hdigits ?_
  rw [if_neg (by simpa using h.ne_nil)]
  exact settles_optionalExponent _ _ _ (settles_real _ _ _) hpower

end

section

variable (negative : Bool)

theorem settles_wholeTail (written : List Char) {tail : List Char} (h : IsTail tail) :
    Settles (wholeTail negative written) tail := by
  unfold wholeTail
  obtain ⟨significand, taken⟩ := appendDigits 0 written
  simp only
  cases h with
  | power hpower =>
    cases hpower with
    | none =>
      have hdone : Settles (if written.length - taken = 0 then pure (whole negative significand)
          else real negative significand (written.length - taken : Nat)) [] := by
        split_ifs
        · exact settles_pure _
        · exact settles_real _ _ _
      refine settles_peek (fun rest hrest => ?_) hdone
      rw [List.nil_append, if_neg (hrest.ne_some (by simp [EndsNumber])), if_neg hrest.not_mark]
    | @marked mark _ hmark hexponent =>
      have hpoint : some mark ≠ some '.' := by rcases hmark with rfl | rfl <;> decide
      refine settles_peek (fun _ _ => ?_) (settles_skip_bind
        (settles_exponentPart negative significand (written.length - taken : Nat) hexponent))
      rw [List.cons_append, List.head?_cons, if_neg hpoint, if_pos (by simpa using hmark)]
  | point hwritten hpower =>
    exact settles_peek (fun _ _ => if_pos rfl)
      (settles_skip_bind (settles_fractionPart _ _ _ hwritten hpower))

theorem settles_startDigits {first : Char} {more tail : List Char}
    (h : ∀ c ∈ first :: more, c.isDigit) (htail : IsTail tail) :
    Settles (startDigits negative first) (first :: more ++ tail) := by
  unfold startDigits
  split_ifs with hzero
  · refine settles_skip_bind ?_
    cases more with
    | nil =>
      refine settles_peek (fun rest hrest => ?_) (settles_wholeTail negative [] htail)
      have hnext := htail.not_isDigit hrest
      cases hhead : (tail ++ rest).head? with
      | none => simp [hhead]
      | some c => simp [hhead, hnext c hhead]
    | cons c more =>
      have hc : c.isDigit := h c (by simp)
      exact settles_peek (fun _ _ => if_pos hc) (.inr fun rest _ => refuses_failNext _ _)
  · have hdigits (rest : List Char) (hrest : Follows rest) :
        ReadsTo digits (first :: more ++ tail ++ rest) (first :: more) (tail ++ rest) := by
      rw [List.append_assoc]
      exact readsTo_digits h (htail.not_isDigit hrest)
    exact settles_bind hdigits (settles_wholeTail _ _ htail)

theorem settles_unsignedNumber {text : List Char} (h : IsUnsigned text) :
    Settles (unsignedNumber negative) text := by
  cases h with
  | digits hwritten htail =>
    obtain ⟨first, more, rfl, hfirst, -⟩ := hwritten.exists_cons
    rw [unsignedNumber_eq]
    refine settles_peek (fun rest _ => ?_) (settles_startDigits negative hwritten.all htail)
    simp [hfirst]

end

theorem IsUnsigned.head?_ne (rest : List Char) {text : List Char} (h : IsUnsigned text) :
    (text ++ rest).head? ≠ some '-' := by
  cases h with
  | digits hwritten _ =>
    obtain ⟨first, more, rfl, hfirst, -⟩ := hwritten.exists_cons
    rintro ⟨⟩
    exact absurd hfirst (by decide)

theorem IsNumeral.exists_cons {text : List Char} (h : IsNumeral text) :
    ∃ first more, text = first :: more ∧ (first = '-' ∨ first.isDigit) := by
  cases h with
  | positive hunsigned =>
    obtain ⟨hwritten, _⟩ := hunsigned
    obtain ⟨first, more, rfl, hfirst, -⟩ := hwritten.exists_cons
    exact ⟨first, _, rfl, .inr hfirst⟩
  | negative _ => exact ⟨'-', _, rfl, .inl rfl⟩

/-- A numeral is one number, whatever follows it, or none at all. -/
theorem settles_numeral {text : List Char} (h : IsNumeral text) : Settles numeral text := by
  cases h with
  | positive hunsigned =>
    exact settles_peek (fun rest _ => if_neg (hunsigned.head?_ne rest))
      (settles_unsignedNumber false hunsigned)
  | negative hunsigned =>
    exact settles_peek (fun _ _ => if_pos rfl)
      (settles_skip_bind (settles_unsignedNumber true hunsigned))

end HomeHub.Json
