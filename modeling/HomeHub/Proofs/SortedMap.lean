import HomeHub.SortedMap
import Mathlib.Data.List.Nodup

/-!
# Look-ups and listings of sorted maps

A sorted map lists exactly what its look-ups give, so it is determined by them.
-/
namespace HomeHub

universe u v

variable {κ : Type u} {α : Type v} [Ord κ] [Std.LawfulEqOrd κ]

theorem compare_self_ne_lt (key : κ) : compare key key ≠ .lt := by
  simp [Std.ReflCmp.compare_self]

theorem mem_iff_lookupEntry {entries : List (κ × α)} (h : InKeyOrder entries) {key : κ} {value : α} :
    (key, value) ∈ entries ↔ lookupEntry key entries = some value := by
  induction entries with
  | nil => simp [lookupEntry]
  | cons first rest ih =>
    obtain ⟨k, v⟩ := first
    obtain ⟨hfirst, hrest⟩ := List.pairwise_cons.mp h
    rw [List.mem_cons, Prod.mk.injEq, lookupEntry, ih hrest]
    by_cases hk : key = k
    · subst hk
      have hnot : lookupEntry key rest ≠ some value := fun hv =>
        compare_self_ne_lt key (hfirst _ ((ih hrest).mpr hv))
      simp [hnot, eq_comm]
    · have hcmp : compare key k ≠ .eq := fun he => hk (Std.LawfulEqCmp.eq_of_compare he)
      simp [hk, hcmp]

theorem mem_of_lookupEntry {entries : List (κ × α)} {key : κ} {value : α}
    (h : lookupEntry key entries = some value) : (key, value) ∈ entries := by
  induction entries with
  | nil => cases h
  | cons first rest ih =>
    rw [lookupEntry] at h
    split_ifs at h with hk
    · obtain rfl := Option.some.inj h
      rw [Std.LawfulEqCmp.eq_of_compare hk]
      exact List.mem_cons_self
    · exact List.mem_cons_of_mem _ (ih h)

/-- An ordered list has at most one entry of a key, so the last one is the first. -/
theorem lookupEntry_eq_find? [DecidableEq κ] {entries : List (κ × α)} (h : InKeyOrder entries)
    (key : κ) : lookupEntry key entries = (entries.reverse.find? (·.1 = key)).map Prod.snd := by
  cases hfind : entries.reverse.find? (·.1 = key) with
  | some e =>
    have hkey : e.1 = key := by simpa using List.find?_some hfind
    have hmem : e ∈ entries := List.mem_reverse.mp (List.mem_of_find?_eq_some hfind)
    exact (mem_iff_lookupEntry h).mp (hkey ▸ hmem)
  | none =>
    cases hvalue : lookupEntry key entries with
    | none => rfl
    | some value =>
      have hmem : (key, value) ∈ entries := (mem_iff_lookupEntry h).mpr hvalue
      simpa using List.find?_eq_none.mp hfind _ (List.mem_reverse.mpr hmem)

namespace SortedMap

theorem mem_entries {m : SortedMap κ α} {key : κ} {value : α} :
    (key, value) ∈ m.entries ↔ m.get? key = some value :=
  mem_iff_lookupEntry m.inOrder

theorem mem_keys {m : SortedMap κ α} {key : κ} : key ∈ m.keys ↔ (m.get? key).isSome := by
  rw [Option.isSome_iff_exists]
  simp [keys, ← mem_entries]

theorem nodup_entries (m : SortedMap κ α) : m.entries.Nodup := by
  refine m.inOrder.imp ?_
  rintro a _ hlt rfl
  exact compare_self_ne_lt a.1 hlt

omit [Std.LawfulEqOrd κ] in
theorem entries_inj {m n : SortedMap κ α} : m.entries = n.entries ↔ m = n := by
  cases m
  cases n
  simp

omit [Std.LawfulEqOrd κ] in
@[simp] theorem get?_empty (key : κ) : (empty : SortedMap κ α).get? key = none := rfl

variable [Std.TransOrd κ]

theorem ext_get? {m n : SortedMap κ α} (h : ∀ key, m.get? key = n.get? key) : m = n := by
  have hperm : m.entries.Perm n.entries := by
    refine (List.perm_ext_iff_of_nodup m.nodup_entries n.nodup_entries).mpr fun ⟨key, value⟩ => ?_
    rw [mem_entries, mem_entries, h]
  have heq : m.entries = n.entries := by
    refine hperm.eq_of_pairwise (fun a b _ _ hab hba => ?_) m.inOrder n.inOrder
    exact (compare_self_ne_lt a.1 (Std.TransCmp.lt_trans hab hba)).elim
  exact entries_inj.mp heq

theorem get?_insert [DecidableEq κ] (m : SortedMap κ α) (key other : κ) (value : α) :
    (m.insert key value).get? other = if other = key then some value else m.get? other := by
  by_cases h : other = key
  · rw [h, get?_insert_self, if_pos rfl]
  · rw [get?_insert_of_ne m h, if_neg h]

/-- What a key has already counts. -/
theorem get?_insertNew [DecidableEq κ] (m : SortedMap κ α) (key other : κ) (value : α) :
    (m.insertNew key value).get? other =
      (m.get? other).or (if other = key then some value else none) := by
  unfold insertNew
  by_cases hc : m.contains key
  · obtain ⟨old, hold⟩ := Option.isSome_iff_exists.mp hc
    by_cases h : other = key
    · simp [hc, h, hold]
    · simp [hc, h]
  · have hnone : m.get? key = none := by simpa [contains] using hc
    by_cases h : other = key
    · simp [hc, h, hnone]
    · simp [hc, h, get?_insert_of_ne]

theorem mem_foldl_insert {entries : List (κ × α)} {m : SortedMap κ α} {e : κ × α}
    (h : e ∈ (entries.foldl (fun m e => m.insert e.1 e.2) m).entries) :
    e ∈ entries ∨ e ∈ m.entries := by
  induction entries generalizing m with
  | nil => exact Or.inr h
  | cons first rest ih =>
    rcases ih h with h | h
    · exact Or.inl (List.mem_cons_of_mem _ h)
    · rcases mem_insertEntry h with rfl | h
      · exact Or.inl List.mem_cons_self
      · exact Or.inr h

/-- Entries that are inserted replace what the map has, and a later one replaces an earlier one. -/
theorem get?_foldl_insert_eq_find? [DecidableEq κ] (entries : List (κ × α)) (m : SortedMap κ α)
    (key : κ) :
    (entries.foldl (fun m e => m.insert e.1 e.2) m).get? key =
      ((entries.reverse.find? (·.1 = key)).map Prod.snd).or (m.get? key) := by
  induction entries generalizing m with
  | nil => rfl
  | cons first rest ih =>
    rw [List.foldl_cons, ih, get?_insert, List.reverse_cons, List.find?_append]
    cases rest.reverse.find? (·.1 = key) with
    | some e => rfl
    | none =>
      by_cases h : first.1 = key
      · simp [h]
      · simp [h, Ne.symm h]

/-- Of several entries with one key the last counts. -/
theorem get?_ofList_eq_find? [DecidableEq κ] (entries : List (κ × α)) (key : κ) :
    (ofList entries).get? key = (entries.reverse.find? (·.1 = key)).map Prod.snd := by
  rw [ofList, get?_foldl_insert_eq_find?, get?_empty, Option.or_none]

/-- Of entries with different keys each counts, in whatever order they are listed. -/
theorem get?_ofList_eq_some_iff [DecidableEq κ] {entries : List (κ × α)}
    (hkeys : (entries.map Prod.fst).Nodup) {key : κ} {value : α} :
    (ofList entries).get? key = some value ↔ (key, value) ∈ entries := by
  have hunique {e e' : κ × α} (he : e ∈ entries) (he' : e' ∈ entries) (heq : e.1 = e'.1) : e = e' :=
    List.inj_on_of_nodup_map hkeys he he' heq
  rw [get?_ofList_eq_find?]
  cases hfind : entries.reverse.find? (·.1 = key) with
  | none =>
    refine iff_of_false (by simp) fun hmem => ?_
    simpa using List.find?_eq_none.mp hfind _ (List.mem_reverse.mpr hmem)
  | some e =>
    have hkey : e.1 = key := by simpa using List.find?_some hfind
    have hmem : e ∈ entries := List.mem_reverse.mp (List.mem_of_find?_eq_some hfind)
    rw [Option.map_some, Option.some.injEq]
    constructor
    · rintro rfl
      exact hkey ▸ hmem
    · exact fun hvalue => congrArg Prod.snd (hunique hmem hvalue hkey)

theorem ofList_eq_of_perm [DecidableEq κ] {entries entries' : List (κ × α)}
    (h : entries.Perm entries') (hkeys : (entries.map Prod.fst).Nodup) :
    ofList entries = ofList entries' := by
  refine ext_get? fun key => Option.ext fun value => ?_
  rw [get?_ofList_eq_some_iff hkeys,
    get?_ofList_eq_some_iff ((h.map Prod.fst).nodup_iff.mp hkeys), h.mem_iff]

/-- Of entries in key order that are inserted into a map, each replaces what the map has. -/
theorem get?_foldl_insert [DecidableEq κ] {entries : List (κ × α)} (h : InKeyOrder entries)
    (m : SortedMap κ α) (key : κ) :
    (entries.foldl (fun m e => m.insert e.1 e.2) m).get? key =
      (lookupEntry key entries).or (m.get? key) := by
  rw [get?_foldl_insert_eq_find?, lookupEntry_eq_find? h]

theorem get?_ofList [DecidableEq κ] {entries : List (κ × α)} (h : InKeyOrder entries) (key : κ) :
    (ofList entries).get? key = lookupEntry key entries := by
  rw [get?_ofList_eq_find?, lookupEntry_eq_find? h]

@[simp] theorem ofList_entries [DecidableEq κ] (m : SortedMap κ α) : ofList m.entries = m :=
  ext_get? fun key => get?_ofList m.inOrder key

theorem entries_ofList [DecidableEq κ] {entries : List (κ × α)} (h : InKeyOrder entries) :
    (ofList entries).entries = entries :=
  congrArg SortedMap.entries (ofList_entries ⟨entries, h⟩)

end SortedMap

end HomeHub
