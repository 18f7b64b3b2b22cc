import HomeHub.Json.Nesting
import HomeHub.Proofs.Json.NumeralEnd
import HomeHub.Proofs.Json.Text
import Mathlib.Data.List.Forall2

/-!
# Lists between brackets

Arrays and objects are lists of elements with commas between them and blanks around them. A reader of
such lists is told by what it does in front of an element and of the closing bracket.
-/
namespace HomeHub.Json
open Scan

theorem endsNumber_of_isJsonBlank {c : Char} (h : Cursor.isJsonBlank c) : EndsNumber c := by
  simp only [Cursor.isJsonBlank, Bool.or_eq_true, decide_eq_true_eq] at h
  rcases h with ((rfl | rfl) | rfl) | rfl <;> unfold EndsNumber <;> decide

theorem follows_blank_append {blank rest : List Char} (hblank : IsBlank blank) (h : Follows rest) :
    Follows (blank ++ rest) := by
  cases blank with
  | nil => exact h
  | cons c tail => exact follows_cons (endsNumber_of_isJsonBlank (hblank c List.mem_cons_self)) _

/-- A text is read as a value in front of what may follow one, where it is sure to be read. -/
structure IsSpellingIf {α : Type} (sure : Prop) (scan : Scan α) (text : List Char) (value : α) :
    Prop where
  starts : ∃ first more, text = first :: more ∧ Cursor.isJsonBlank first = false ∧ first ≠ ']'
  reads : ∀ blank rest, IsBlank blank → Follows rest →
    ReadsIf sure scan (blank ++ (text ++ rest)) value rest

/-- A text is read as a value in front of what may follow one. -/
abbrev IsSpelling {α : Type} (scan : Scan α) (text : List Char) (value : α) : Prop :=
  IsSpellingIf True scan text value

variable {α β σ : Type}

/-- One step through the elements of a list. -/
def elementStep (next : Bool → Scan Bool) (element : σ → Scan σ) (s : Bool × σ) :
    Scan ((Bool × σ) ⊕ σ) := do
  if ← next s.1 then pure (.inl (false, ← element s.2)) else pure (.inr s.2)

theorem foldItems_eq (item : σ → Scan σ) (start : σ) :
    foldItems item start = loop (elementStep nextItem item) (true, start) := rfl

theorem foldMembers_eq {κ : Type} (name : Scan κ) (value : σ → κ → Scan σ) (start : σ) :
    foldMembers name value start =
      loop (elementStep nextMember fun s => name >>= value s) (true, start) := by
  unfold foldMembers elementStep
  simp only [bind_bind]

/-- What follows the first elements of a list: further elements, each with a comma in front. -/
def TailText (Spelled : α → List Char → Prop) : List α → List Char → Prop
  | [], written => IsBlank written
  | a :: as, written => ∃ blank blank' spelled tail, IsBlank blank ∧ IsBlank blank' ∧
    Spelled a spelled ∧ TailText Spelled as tail ∧
    written = blank ++ ',' :: (blank' ++ (spelled ++ tail))

/-- Elements with commas between them. -/
def ListText (Spelled : α → List Char → Prop) : List α → List Char → Prop
  | [], written => IsBlank written
  | a :: as, written => ∃ blank spelled tail, IsBlank blank ∧ Spelled a spelled ∧
    TailText Spelled as tail ∧ written = blank ++ (spelled ++ tail)

theorem tailText_comma {Spelled : α → List Char → Prop} {as : List α} (hne : as ≠ [])
    {written : List Char} (h : ListText Spelled as written) :
    TailText Spelled as (',' :: written) := by
  cases as with
  | nil => contradiction
  | cons a as =>
    obtain ⟨blank, spelled, tail, hblank, hspelled, htail, rfl⟩ := h
    exact ⟨[], blank, spelled, tail, isBlank_nil, hblank, hspelled, htail, rfl⟩

section

variable {Spelled : α → List Char → Prop} {Spelled' : β → List Char → Prop} {as : List α}
  {bs : List β} {text : List Char}

theorem tailText_imp
    (h : List.Forall₂ (fun a b => ∀ spelled, Spelled a spelled → Spelled' b spelled) as bs)
    (htext : TailText Spelled as text) : TailText Spelled' bs text := by
  induction h generalizing text with
  | nil => exact htext
  | cons hab _ ih =>
    obtain ⟨blank, blank', spelled, tail, hblank, hblank', hspelled, htail, rfl⟩ := htext
    exact ⟨blank, blank', spelled, tail, hblank, hblank', hab _ hspelled, ih htail, rfl⟩

/-- A list of spellings of some elements is one of others that are spelled so as well. -/
theorem listText_imp
    (h : List.Forall₂ (fun a b => ∀ spelled, Spelled a spelled → Spelled' b spelled) as bs)
    (htext : ListText Spelled as text) : ListText Spelled' bs text := by
  cases h with
  | nil => exact htext
  | cons hab hrest =>
    obtain ⟨blank, spelled, tail, hblank, hspelled, htail, rfl⟩ := htext
    exact ⟨blank, spelled, tail, hblank, hab _ hspelled, tailText_imp hrest htail, rfl⟩

end

inductive Leads (Step : σ → α → σ → Prop) : σ → List α → σ → Prop
  | done (s : σ) : Leads Step s [] s
  | next {s s' s'' : σ} {a : α} {as : List α} :
    Step s a s' → Leads Step s' as s'' → Leads Step s (a :: as) s''

theorem leads_foldl (put : σ → α → σ) (s : σ) (as : List α) :
    Leads (fun s a s' => put s a = s') s as (as.foldl put s) := by
  induction as generalizing s with
  | nil => exact .done s
  | cons a as ih => exact .next rfl (ih (put s a))

/-- What a reader of lists does in front of an element and in front of the end. -/
structure IsListReader (sure : Prop) (next : Bool → Scan Bool) (element : σ → Scan σ)
    (Step : σ → α → σ → Prop) (Spelled : α → List Char → Prop) (close : Char) : Prop where
  closes : EndsNumber close
  first : ∀ {a blank spelled}, IsBlank blank → Spelled a spelled → ∀ rest,
    ReadsTo (next true) (blank ++ (spelled ++ rest)) true (spelled ++ rest)
  later : ∀ {a blank blank' spelled}, IsBlank blank → IsBlank blank' → Spelled a spelled → ∀ rest,
    ReadsTo (next false) (blank ++ ',' :: (blank' ++ (spelled ++ rest))) true (spelled ++ rest)
  last : ∀ {blank}, IsBlank blank → ∀ first rest,
    ReadsTo (next first) (blank ++ close :: rest) false (close :: rest)
  element : ∀ {s a s' spelled rest}, Step s a s' → Spelled a spelled → Follows rest →
    ReadsIf sure (element s) (spelled ++ rest) s' rest

theorem length_le_of_tailText {Spelled : α → List Char → Prop} {as : List α} {text : List Char}
    (h : TailText Spelled as text) : as.length ≤ text.length := by
  induction as generalizing text with
  | nil => exact Nat.zero_le _
  | cons a as ih =>
    obtain ⟨blank, blank', spelled, tail, -, -, -, htail, rfl⟩ := h
    have := ih htail
    simp only [List.length_append, List.length_cons]
    omega

namespace IsListReader

variable {sure : Prop} {next : Bool → Scan Bool} {element : σ → Scan σ} {Step : σ → α → σ → Prop}
  {Spelled : α → List Char → Prop} {close : Char} {s s' : σ}
  (h : IsListReader sure next element Step Spelled close)

include h

theorem follows_tailText {as : List α} {text : List Char} (htext : TailText Spelled as text)
    (rest : List Char) : Follows (text ++ close :: rest) := by
  cases as with
  | nil => exact follows_blank_append htext (follows_cons h.closes rest)
  | cons a as =>
    obtain ⟨blank, blank', spelled, tail, hblank, -, -, -, rfl⟩ := htext
    rw [List.append_assoc]
    exact follows_blank_append hblank (follows_cons (by unfold EndsNumber; decide) _)

theorem reads_step_last {blank : List Char} (hblank : IsBlank blank) (first : Bool) (s : σ)
    (rest : List Char) : ReadsIf sure (elementStep next element (first, s)) (blank ++ close :: rest)
      (.inr s) (close :: rest) :=
  reads_bind (h.last hblank first rest).weaken (reads_pure _ _)

theorem reads_step_next {a : α} {first : Bool} {text spelled rest : List Char}
    (hnext : ReadsTo (next first) text true (spelled ++ rest)) (hstep : Step s a s')
    (hspelled : Spelled a spelled) (hrest : Follows rest) :
    ReadsIf sure (elementStep next element (first, s)) text (.inl (false, s')) rest :=
  reads_bind hnext.weaken (reads_bind (h.element hstep hspelled hrest) (reads_pure _ _))

theorem reads_iterate_tail {as : List α} {text : List Char} (htext : TailText Spelled as text)
    (hleads : Leads Step s as s') (rest : List Char) (fuel : Nat) (hfuel : as.length < fuel) :
    ReadsIf sure (iterate (elementStep next element) fuel (false, s)) (text ++ close :: rest) s'
      (close :: rest) := by
  induction hleads generalizing text fuel with
  | done s =>
    obtain ⟨fuel, rfl⟩ := Nat.exists_eq_succ_of_ne_zero (Nat.ne_zero_of_lt hfuel)
    exact reads_iterate_last (h.reads_step_last htext false s rest) fuel
  | next hstep _ ih =>
    obtain ⟨blank, blank', spelled, tail, hblank, hblank', hspelled, htail, rfl⟩ := htext
    obtain ⟨fuel, rfl⟩ := Nat.exists_eq_succ_of_ne_zero (Nat.ne_zero_of_lt hfuel)
    have hnext := h.later hblank hblank' hspelled (tail ++ close :: rest)
    have hmore := ih htail fuel (by simpa using hfuel)
    simp only [List.append_assoc, List.cons_append]
    exact reads_iterate_next
      (h.reads_step_next hnext hstep hspelled (h.follows_tailText htail rest)) hmore

theorem reads_loop_list {as : List α} {text : List Char} (htext : ListText Spelled as text)
    (hleads : Leads Step s as s') (rest : List Char) :
    ReadsIf sure (loop (elementStep next element) (true, s)) (text ++ close :: rest) s'
      (close :: rest) := by
  refine reads_loop fun fuel hfuel => ?_
  obtain ⟨fuel, rfl⟩ := Nat.exists_eq_succ_of_ne_zero (Nat.ne_zero_of_lt hfuel)
  cases hleads with
  | done => exact reads_iterate_last (h.reads_step_last htext true s rest) fuel
  | next hstep hleads =>
    obtain ⟨blank, spelled, tail, hblank, hspelled, htail, rfl⟩ := htext
    have hlength := length_le_of_tailText htail
    have hnext := h.first hblank hspelled (tail ++ close :: rest)
    have hmore := h.reads_iterate_tail htail hleads rest fuel (by simp at hfuel; omega)
    simp only [List.append_assoc]
    exact reads_iterate_next
      (h.reads_step_next hnext hstep hspelled (h.follows_tailText htail rest)) hmore

end IsListReader

namespace IsListReader

variable {next : Bool → Scan Bool} {element : σ → Scan σ} {Step : σ → α → σ → Prop}
  {Spelled : α → List Char → Prop} {close : Char} {s s' : σ} {before after : List α} {a : α}
  {text : List Char}

theorem refuses_step (hrefused : ∀ spelled rest, Spelled a spelled → Follows rest →
    Refuses (element s') (spelled ++ rest)) {first : Bool} {spelled rest : List Char}
    (hnext : ReadsTo (next first) text true (spelled ++ rest)) (hspelled : Spelled a spelled)
    (hrest : Follows rest) : Refuses (elementStep next element (first, s')) text :=
  refuses_bind hnext (refuses_bind_first (hrefused _ _ hspelled hrest))

variable (h : IsListReader True next element Step Spelled close) (hleads : Leads Step s before s')
  (hrefused : ∀ spelled rest, Spelled a spelled → Follows rest →
    Refuses (element s') (spelled ++ rest))

include h hleads hrefused

theorem refuses_iterate_tail (htext : TailText Spelled (before ++ a :: after) text)
    (rest : List Char) (fuel : Nat) :
    Refuses (iterate (elementStep next element) fuel (false, s)) (text ++ close :: rest) := by
  induction hleads generalizing text fuel with
  | done s =>
    obtain ⟨blank, blank', spelled, tail, hblank, hblank', hspelled, htail, rfl⟩ := htext
    have hnext := h.later hblank hblank' hspelled (tail ++ close :: rest)
    simp only [List.append_assoc, List.cons_append]
    cases fuel with
    | zero => exact refuses_failHere _ _
    | succ fuel =>
      exact refuses_bind_first (refuses_step hrefused hnext hspelled (h.follows_tailText htail rest))
  | next hstep _ ih =>
    obtain ⟨blank, blank', spelled, tail, hblank, hblank', hspelled, htail, rfl⟩ := htext
    have hnext := h.later hblank hblank' hspelled (tail ++ close :: rest)
    simp only [List.append_assoc, List.cons_append]
    cases fuel with
    | zero => exact refuses_failHere _ _
    | succ fuel =>
      have hread := h.reads_step_next hnext hstep hspelled (h.follows_tailText htail rest)
      exact refuses_bind hread (ih hrefused htail fuel)

/-- A list is refused with the first of its elements that is. -/
theorem refuses_loop_list (htext : ListText Spelled (before ++ a :: after) text) (rest : List Char) :
    Refuses (loop (elementStep next element) (true, s)) (text ++ close :: rest) := by
  intro place
  cases hleads with
  | done =>
    obtain ⟨blank, spelled, tail, hblank, hspelled, htail, rfl⟩ := htext
    have hnext := h.first hblank hspelled (tail ++ close :: rest)
    simp only [List.append_assoc]
    exact refuses_bind_first
      (refuses_step hrefused hnext hspelled (h.follows_tailText htail rest)) place
  | next hstep hleads =>
    obtain ⟨blank, spelled, tail, hblank, hspelled, htail, rfl⟩ := htext
    have hnext := h.first hblank hspelled (tail ++ close :: rest)
    have hread := h.reads_step_next hnext hstep hspelled (h.follows_tailText htail rest)
    simp only [List.append_assoc]
    exact refuses_bind hread (h.refuses_iterate_tail hleads hrefused htail rest _) place

end IsListReader

end HomeHub.Json
