import HomeHub.Json.Reader
import HomeHub.Proofs.Json.Numeral

/-!
# What is known of values that were read

A value that was read nests at most as deep as it may, has the members of each object in key order,
and its integers are words.
-/
namespace HomeHub.Json
open Scan

/-- A value that can come out of reading with so many levels. -/
def IsReadable : (levels : Nat) → Json → Prop
  | _, .null | _, .boolean _ | _, .text _ => True
  | _, .number n => IsReadNumber n
  | 0, .array _ | 0, .object _ => False
  | levels + 1, .array items => ∀ v ∈ items, IsReadable levels v
  | levels + 1, .object members => InKeyOrder members ∧ ∀ m ∈ members, IsReadable levels m.2

theorem ensures_bracketed {α : Type} {inside : Scan α} {close : Scan Unit} {placeOf : Cursor → Place}
    {post : α → Prop} (h : Ensures inside post) : Ensures (bracketed inside close placeOf) post := by
  intro c value c' heq
  simp only [bracketed] at heq
  split at heq
  · rename_i v _ hinside
    split at heq
    · cases heq
      exact h _ _ _ hinside
    · cases heq
    · cases heq
  · cases heq
  · cases heq

theorem ensures_foldItems {σ : Type} {item : σ → Scan σ} {invariant : σ → Prop}
    (hitem : ∀ s, invariant s → Ensures (item s) invariant) {start : σ} (hstart : invariant start) :
    Ensures (foldItems item start) invariant := by
  refine ensures_loop (fun s => invariant s.2) (fun s hs => ?_) hstart
  refine ensures_then fun more => ?_
  split_ifs
  · exact ensures_bind (hitem _ hs) fun _ hnext => ensures_pure hnext
  · exact ensures_pure hs

theorem ensures_foldMembers {κ σ : Type} {name : Scan κ} {value : σ → κ → Scan σ}
    {invariant : σ → Prop} (hvalue : ∀ s k, invariant s → Ensures (value s k) invariant) {start : σ}
    (hstart : invariant start) : Ensures (foldMembers name value start) invariant := by
  refine ensures_loop (fun s => invariant s.2) (fun s hs => ?_) hstart
  refine ensures_then fun more => ?_
  split_ifs
  · exact ensures_then fun k => ensures_bind (hvalue _ k hs) fun _ hnext => ensures_pure hnext
  · exact ensures_pure hs

theorem ensures_arrayItems {item : Scan Json} {post : Json → Prop} (h : Ensures item post) :
    Ensures (arrayItems item) fun items => ∀ v ∈ items, post v := by
  have hfold : Ensures (foldItems (fun items => do pure ((← item) :: items)) [])
      fun items => ∀ v ∈ items, post v := by
    refine ensures_foldItems (fun items hitems => ensures_bind h fun v hv => ensures_pure ?_)
      fun v hv => absurd hv List.not_mem_nil
    exact List.forall_mem_cons.mpr ⟨hv, hitems⟩
  refine ensures_bind hfold fun items hitems => ensures_pure fun v hv => ?_
  exact hitems v (List.mem_reverse.mp hv)

theorem ensures_objectMembers {item : Scan Json} {post : Json → Prop} (h : Ensures item post) :
    Ensures (objectMembers item) fun members => ∀ m ∈ members.entries, post m.2 := by
  refine ensures_foldMembers (fun members name hmembers => ensures_then fun _ =>
    ensures_bind h fun v hv => ensures_pure fun m hm => ?_) fun m hm => absurd hm List.not_mem_nil
  rcases mem_insertEntry hm with rfl | hm
  · exact hv
  · exact hmembers m hm

theorem ensures_valueWith {inner : Option (Scan Json)} {levels : Nat}
    (h : ∀ item, inner = some item → ∃ below, levels = below + 1 ∧ Ensures item (IsReadable below)) :
    Ensures (valueWith inner) (IsReadable levels) := by
  refine ensures_then fun first => ?_
  split
  · exact ensures_failNext _ _
  · split_ifs
    · exact ensures_then fun _ => ensures_then fun _ => ensures_pure (by cases levels <;> trivial)
    · exact ensures_then fun _ => ensures_then fun _ => ensures_pure (by cases levels <;> trivial)
    · exact ensures_then fun _ => ensures_then fun _ => ensures_pure (by cases levels <;> trivial)
    · exact ensures_bind ensures_numeral fun n hn => ensures_pure (by cases levels <;> exact hn)
    · exact ensures_then fun _ => ensures_then fun _ => ensures_pure (by cases levels <;> trivial)
    · split
      · exact ensures_failNext _ _
      · obtain ⟨below, rfl, hitem⟩ := h _ rfl
        exact ensures_bind (ensures_bracketed (ensures_arrayItems hitem)) fun items hitems =>
          ensures_pure hitems
    · split
      · exact ensures_failNext _ _
      · obtain ⟨below, rfl, hitem⟩ := h _ rfl
        exact ensures_bind (ensures_bracketed (ensures_objectMembers hitem)) fun members hmembers =>
          ensures_pure ⟨members.inOrder, hmembers⟩
    · exact ensures_failNext _ _

theorem ensures_value (levels : Nat) : Ensures (value levels) (IsReadable levels) := by
  induction levels with
  | zero => exact ensures_valueWith fun item h => by cases h
  | succ levels ih =>
    refine ensures_valueWith fun item h => ⟨levels, rfl, ?_⟩
    obtain rfl := Option.some.inj h
    exact ih

theorem readWith_eq_ok_iff {α : Type} {scan : Scan α} {text : String} {value : α} :
    readWith scan text = .ok value ↔
      ∃ c, scan (Cursor.start text) = .done value c ∧ c.skipBlanks.rest = [] := by
  have hfinish (c : Cursor) : finish c =
      if c.skipBlanks.rest = [] then .done () c.skipBlanks
      else .error ⟨.trailingCharacters, c.skipBlanks.nextPlace⟩ := by
    cases hrest : c.skipBlanks.rest <;>
      simp [finish, peekToken, blanks, peek, bind, pure, failNext, hrest]
  unfold readWith placed
  cases hscan : scan (Cursor.start text) with
  | done v c =>
    by_cases hrest : c.skipBlanks.rest = []
    · simp [bind, pure, hscan, hfinish, hrest, and_assoc]
    · simp [bind, hscan, hfinish, hrest, and_assoc]
  | fault f c => simp [bind, hscan]
  | error e => simp [bind, hscan]

theorem isReadable_of_read {text : String} {j : Json} (h : Json.read text = .ok j) :
    IsReadable deepest j := by
  obtain ⟨c, hread, -⟩ := readWith_eq_ok_iff.mp h
  exact ensures_value deepest _ _ _ hread

end HomeHub.Json
