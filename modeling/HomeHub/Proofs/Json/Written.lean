import HomeHub.Json.Printer
import HomeHub.Proofs.Json.Nesting

/-!
# What is written for a value

The compact form of a value and its indented forms differ in their blanks only. A reader is told by
what they have in common.
-/
namespace HomeHub.Json
open Scan

/-- The compact form of a value or an indented one. -/
inductive IsWritten (j : Json) : List Char → Prop
  | compact : IsWritten j (writeCompact j)
  | indented (level : Nat) : IsWritten j (writeIndented level j)

def IsMember (name : String) (Value : List Char → Prop) (spelled : List Char) : Prop :=
  ∃ blank value, IsBlank blank ∧ Value value ∧ spelled = writeText name ++ ':' :: (blank ++ value)

def IsWrittenMember (m : String × Json) : List Char → Prop := IsMember m.1 (IsWritten m.2)

theorem isBlank_newLine (level : Nat) : IsBlank (newLine level) := by
  intro c hc
  rcases List.mem_cons.mp hc with rfl | hc
  · decide
  · rw [List.eq_of_mem_replicate hc]
    decide

theorem isBlank_space : IsBlank [' '] := by
  intro c hc
  rw [List.mem_singleton.mp hc]
  decide

theorem listText_writeCompactItems : (items : List Json) →
    ListText IsWritten items (writeCompactItems items)
  | [] => isBlank_nil
  | [v] => ⟨[], _, [], isBlank_nil, .compact, isBlank_nil, by simp [writeCompactItems]⟩
  | v :: w :: rest => by
    have htail := tailText_comma (List.cons_ne_nil w rest) (listText_writeCompactItems (w :: rest))
    exact ⟨[], _, _, isBlank_nil, .compact, htail, by simp [writeCompactItems]⟩

theorem listText_writeCompactMembers : (members : List (String × Json)) →
    ListText IsWrittenMember members (writeCompactMembers members)
  | [] => isBlank_nil
  | [(name, v)] => ⟨[], _, [], isBlank_nil, ⟨[], _, isBlank_nil, .compact, rfl⟩, isBlank_nil,
    by simp [writeCompactMembers]⟩
  | (name, v) :: w :: rest => by
    have htail := tailText_comma (List.cons_ne_nil w rest)
      (listText_writeCompactMembers (w :: rest))
    exact ⟨[], _, _, isBlank_nil, ⟨[], _, isBlank_nil, .compact, rfl⟩, htail,
      by simp [writeCompactMembers]⟩

section

variable (level : Nat) {blank : List Char}

theorem listText_writeIndentedItems (hblank : IsBlank blank) : (items : List Json) →
    ListText IsWritten items (writeIndentedItems level items ++ blank)
  | [] => hblank
  | [v] => ⟨newLine level, _, blank, isBlank_newLine level, .indented level, hblank,
    by simp [writeIndentedItems]⟩
  | v :: w :: rest => by
    have htail := tailText_comma (List.cons_ne_nil w rest)
      (listText_writeIndentedItems hblank (w :: rest))
    exact ⟨newLine level, _, _, isBlank_newLine level, .indented level, htail,
      by simp [writeIndentedItems]⟩

theorem listText_writeIndentedMembers (hblank : IsBlank blank) : (members : List (String × Json)) →
    ListText IsWrittenMember members (writeIndentedMembers level members ++ blank)
  | [] => hblank
  | [(name, v)] => ⟨newLine level, _, blank, isBlank_newLine level,
    ⟨[' '], _, isBlank_space, .indented level, rfl⟩, hblank, by simp [writeIndentedMembers]⟩
  | (name, v) :: w :: rest => by
    have htail := tailText_comma (List.cons_ne_nil w rest)
      (listText_writeIndentedMembers hblank (w :: rest))
    exact ⟨newLine level, _, _, isBlank_newLine level,
      ⟨[' '], _, isBlank_space, .indented level, rfl⟩, htail, by simp [writeIndentedMembers]⟩

end

namespace IsWritten

variable {spelled : List Char}

theorem of_null (h : IsWritten .null spelled) : spelled = "null".toList := by
  cases h <;> rfl

theorem of_boolean {b : Bool} (h : IsWritten (.boolean b) spelled) : spelled = writeBoolean b := by
  cases h
  · rw [writeCompact]
  · rw [writeIndented]

theorem of_number {n : JsonNumber} (h : IsWritten (.number n) spelled) :
    spelled = writeNumber n := by
  cases h
  · rw [writeCompact]
  · rw [writeIndented]

theorem of_text {s : String} (h : IsWritten (.text s) spelled) : spelled = writeText s := by
  cases h
  · rw [writeCompact]
  · rw [writeIndented]

theorem of_array {items : List Json} (h : IsWritten (.array items) spelled) :
    ∃ list, ListText IsWritten items list ∧ spelled = '[' :: (list ++ [']']) := by
  cases h with
  | compact => exact ⟨_, listText_writeCompactItems items, by rw [writeCompact]; rfl⟩
  | indented level =>
    cases items with
    | nil => exact ⟨[], isBlank_nil, by rw [writeIndented]; rfl⟩
    | cons v rest =>
      exact ⟨_, listText_writeIndentedItems (level + 1) (isBlank_newLine level) (v :: rest),
        by simp [writeIndented]⟩

theorem of_object {members : List (String × Json)} (h : IsWritten (.object members) spelled) :
    ∃ list, ListText IsWrittenMember members list ∧ spelled = '\x7b' :: (list ++ ['\x7d']) := by
  cases h with
  | compact => exact ⟨_, listText_writeCompactMembers members, by rw [writeCompact]; rfl⟩
  | indented level =>
    cases members with
    | nil => exact ⟨[], isBlank_nil, by rw [writeIndented]; rfl⟩
    | cons m rest =>
      exact ⟨_, listText_writeIndentedMembers (level + 1) (isBlank_newLine level) (m :: rest),
        by simp [writeIndented]⟩

end IsWritten

end HomeHub.Json
