import HomeHub.Json.Decoder
import HomeHub.Proofs.Json.Readable
import HomeHub.Proofs.SortedMap

/-!
# Decoders and values

What a text is to a decoder of objects is told by the value that the text is.
-/
namespace HomeHub.Json
open Scan

def valueFrom (inner : Option (Scan Json)) (first : Option Char) : Scan Json :=
  match first with
  | none => failNext .endInValue
  | some c =>
    if c = 'n' then do
      skip
      letters ['u', 'l', 'l']
      pure .null
    else if c = 't' then do
      skip
      letters ['r', 'u', 'e']
      pure (.boolean true)
    else if c = 'f' then do
      skip
      letters ['a', 'l', 's', 'e']
      pure (.boolean false)
    else if c = '-' ∨ c.isDigit then do
      pure (.number (← numeral))
    else if c = '"' then do
      skip
      pure (.text (← textBody))
    else if c = '[' then
      match inner with
      | none => failNext .tooDeep
      | some item => do pure (.array (← bracketedArray (arrayItems item)))
    else if c = '\x7b' then
      match inner with
      | none => failNext .tooDeep
      | some item => do pure (.object (← bracketedObject (objectMembers item)).entries)
    else failNext .expectedValue

/-- Only an opening brace starts an object. -/
theorem ensures_valueFrom (inner : Option (Scan Json)) {first : Option Char}
    (h : first ≠ some '\x7b') :
    Ensures (valueFrom inner first) fun j => ∀ members, j ≠ .object members := by
  unfold valueFrom
  split
  · exact ensures_failNext _ _
  · rename_i c
    have hc : c ≠ '\x7b' := fun heq => h (congrArg some heq)
    split_ifs
    · exact ensures_then fun _ => ensures_then fun _ => ensures_pure (by simp)
    · exact ensures_then fun _ => ensures_then fun _ => ensures_pure (by simp)
    · exact ensures_then fun _ => ensures_then fun _ => ensures_pure (by simp)
    · exact ensures_then fun _ => ensures_pure (by simp)
    · exact ensures_then fun _ => ensures_then fun _ => ensures_pure (by simp)
    · split
      · exact ensures_failNext _ _
      · exact ensures_then fun _ => ensures_pure (by simp)
    · exact ensures_failNext _ _

theorem ensures_raise {α : Type} (f : Fault) (post : α → Prop) : Ensures (raise f) post := by
  intro c v c' heq
  cases heq

theorem ensures_placed {α : Type} {scan : Scan α} {post : α → Prop} (h : Ensures scan post) :
    Ensures (placed scan) post := by
  intro c v c' heq
  unfold placed at heq
  split at heq
  · cases heq
  · exact h _ _ _ heq

namespace Decoder

/-- A report of the wrong type is never a value. -/
theorem ensures_mismatch {α : Type} (expected : String) :
    Ensures (mismatch expected : Scan α) fun _ => False := by
  refine ensures_placed (ensures_then fun first => ?_)
  split
  · exact ensures_failNext _ _
  · split_ifs
    · exact ensures_then fun _ => ensures_then fun _ => ensures_raise _ _
    · exact ensures_then fun _ => ensures_then fun _ => ensures_raise _ _
    · exact ensures_then fun _ => ensures_then fun _ => ensures_raise _ _
    · refine ensures_then fun n => ?_
      split <;> exact ensures_raise _ _
    · exact ensures_then fun _ => ensures_then fun _ => ensures_raise _ _
    · exact ensures_raise _ _
    · exact ensures_raise _ _
    · exact ensures_failNext _ _

section

variable {levels : Nat} {c : Cursor}

theorem members_any_of_brace (h : c.skipBlanks.rest.head? = some '\x7b') :
    Decoder.members any (levels + 1) c =
      bracketedObject (objectMembers (value levels)) c.skipBlanks := by
  simp only [Decoder.members, objectAs, token, peekToken, blanks, peek, bind, pure, h, if_true]
  rfl

theorem value_of_brace (h : c.skipBlanks.rest.head? = some '\x7b') :
    value (levels + 1) c =
      (do pure (.object (← bracketedObject (objectMembers (value levels))).entries) : Scan Json)
        c.skipBlanks := by
  have hvalue : value (levels + 1) c =
      valueFrom (some (value levels)) c.skipBlanks.rest.head? c.skipBlanks := rfl
  rw [hvalue, h]
  rfl

theorem members_any_ne_done (h : c.skipBlanks.rest.head? ≠ some '\x7b')
    (members : SortedMap String Json) (c' : Cursor) :
    Decoder.members any (levels + 1) c ≠ .done members c' := by
  intro heq
  simp only [Decoder.members, objectAs, token, peekToken, blanks, peek, bind] at heq
  cases hfirst : c.skipBlanks.rest.head? with
  | none => simp [hfirst, failNext] at heq
  | some first =>
    have hne : first ≠ '\x7b' := fun hbrace => h (hfirst.trans (congrArg some hbrace))
    simp only [hfirst, pure, if_neg hne] at heq
    exact ensures_mismatch "a map" _ _ _ heq

theorem value_ne_object (h : c.skipBlanks.rest.head? ≠ some '\x7b')
    (members : List (String × Json)) (c' : Cursor) :
    value (levels + 1) c ≠ .done (.object members) c' :=
  fun heq => ensures_valueFrom (some (value levels)) h c.skipBlanks _ c' heq members rfl

/-- The members of any text are those of the object that the text is. -/
theorem members_any_eq_done_iff {members : SortedMap String Json} {c' : Cursor} :
    Decoder.members any (levels + 1) c = .done members c' ↔
      value (levels + 1) c = .done (.object members.entries) c' := by
  by_cases h : c.skipBlanks.rest.head? = some '\x7b'
  · rw [members_any_of_brace h, value_of_brace h]
    cases hread : bracketedObject (objectMembers (value levels)) c.skipBlanks with
    | done read c'' =>
      simp [bind, pure, hread, SortedMap.entries_inj]
    | fault f c'' => simp [bind, hread]
    | error e => simp [bind, hread]
  · exact iff_of_false (members_any_ne_done h members c') (value_ne_object h members.entries c')

end

theorem run_members_any_eq_ok_iff {text : String} {members : SortedMap String Json} :
    (Decoder.members any).run text = .ok members ↔ Json.read text = .ok (.object members.entries) := by
  rw [Decoder.run, Json.read, readWith_eq_ok_iff, readWith_eq_ok_iff]
  exact exists_congr fun c => and_congr_left' members_any_eq_done_iff

end Decoder

end HomeHub.Json
