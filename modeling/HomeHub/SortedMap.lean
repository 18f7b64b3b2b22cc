/-!
# Maps kept in key order

A map is the list of its entries in strictly ascending key order, so two maps with the same
look-ups are equal and listing a map needs no sorting.
-/
namespace HomeHub

universe u v

variable {κ : Type u} {α : Type v}

/-- Entries in strictly ascending key order. -/
def InKeyOrder [Ord κ] (entries : List (κ × α)) : Prop :=
  entries.Pairwise fun a b => compare a.1 b.1 = .lt

/-- Places a value under a key among ordered entries, replacing what stood there. -/
def insertEntry [Ord κ] (key : κ) (value : α) : List (κ × α) → List (κ × α)
  | [] => [(key, value)]
  | (k, v) :: rest =>
    match compare key k with
    | .lt => (key, value) :: (k, v) :: rest
    | .eq => (key, value) :: rest
    | .gt => (k, v) :: insertEntry key value rest

/-- The value that the first entry of a key holds. -/
def lookupEntry [Ord κ] (key : κ) : List (κ × α) → Option α
  | [] => none
  | (k, v) :: rest => if compare key k = .eq then some v else lookupEntry key rest

theorem mem_insertEntry [Ord κ] {key : κ} {value : α} {entries : List (κ × α)} {e : κ × α}
    (h : e ∈ insertEntry key value entries) : e = (key, value) ∨ e ∈ entries := by
  induction entries with
  | nil => simpa [insertEntry] using h
  | cons hd tl ih =>
    obtain ⟨k, v⟩ := hd
    rw [insertEntry] at h
    split at h
    · simpa using h
    · rcases List.mem_cons.mp h with h | h
      · exact Or.inl h
      · exact Or.inr (List.mem_cons_of_mem _ h)
    · rcases List.mem_cons.mp h with h | h
      · exact Or.inr (h ▸ List.mem_cons_self)
      · exact (ih h).imp_right (List.mem_cons_of_mem _)

theorem inKeyOrder_insertEntry [Ord κ] [Std.TransOrd κ] [Std.LawfulEqOrd κ] (key : κ) (value : α)
    {entries : List (κ × α)} (h : InKeyOrder entries) :
    InKeyOrder (insertEntry key value entries) := by
  induction entries with
  | nil => simp [insertEntry, InKeyOrder]
  | cons hd tl ih =>
    obtain ⟨k, v⟩ := hd
    have hrest := List.pairwise_cons.mp h
    rw [insertEntry]
    split <;> rename_i hc
    · refine List.Pairwise.cons (fun e he => ?_) h
      rcases List.mem_cons.mp he with rfl | he
      · exact hc
      · exact Std.TransCmp.lt_trans hc (hrest.1 e he)
    · have : key = k := Std.LawfulEqCmp.eq_of_compare hc
      subst this
      exact List.Pairwise.cons hrest.1 hrest.2
    · refine List.Pairwise.cons (fun e he => ?_) (ih hrest.2)
      rcases mem_insertEntry he with rfl | he
      · exact Std.OrientedCmp.lt_of_gt hc
      · exact hrest.1 e he

theorem lookupEntry_insertEntry_self [Ord κ] [Std.LawfulEqOrd κ] (key : κ) (value : α)
    (entries : List (κ × α)) : lookupEntry key (insertEntry key value entries) = some value := by
  induction entries with
  | nil => simp [insertEntry, lookupEntry]
  | cons hd tl ih =>
    obtain ⟨k, v⟩ := hd
    rw [insertEntry]
    split <;> rename_i hc
    · simp [lookupEntry]
    · simp [lookupEntry]
    · simp [lookupEntry, hc, ih]

theorem lookupEntry_insertEntry_of_ne [Ord κ] [Std.LawfulEqOrd κ] {key other : κ}
    (hne : other ≠ key) (value : α) (entries : List (κ × α)) :
    lookupEntry other (insertEntry key value entries) = lookupEntry other entries := by
  have hcmp : compare other key ≠ .eq := fun h => hne (Std.LawfulEqCmp.eq_of_compare h)
  induction entries with
  | nil => simp [insertEntry, lookupEntry, hcmp]
  | cons hd tl ih =>
    obtain ⟨k, v⟩ := hd
    rw [insertEntry]
    split <;> rename_i hc
    · simp [lookupEntry, hcmp]
    · have : key = k := Std.LawfulEqCmp.eq_of_compare hc
      subst this
      simp [lookupEntry, hcmp]
    · simp [lookupEntry, ih]

/-- A finite map from `κ` to `α`, listed in key order. -/
structure SortedMap (κ : Type u) (α : Type v) [Ord κ] where
  entries : List (κ × α)
  inOrder : InKeyOrder entries

namespace SortedMap

variable [Ord κ]

instance [DecidableEq κ] [DecidableEq α] : DecidableEq (SortedMap κ α) := fun a b =>
  decidable_of_iff (a.entries = b.entries) <| by
    cases a
    cases b
    simp

instance [Repr κ] [Repr α] : Repr (SortedMap κ α) where
  reprPrec m p := reprPrec m.entries p

def empty : SortedMap κ α := ⟨[], List.Pairwise.nil⟩

instance : Inhabited (SortedMap κ α) := ⟨empty⟩

def get? (m : SortedMap κ α) (key : κ) : Option α := lookupEntry key m.entries

def contains (m : SortedMap κ α) (key : κ) : Bool := (m.get? key).isSome

def size (m : SortedMap κ α) : Nat := m.entries.length

def keys (m : SortedMap κ α) : List κ := m.entries.map Prod.fst

def values (m : SortedMap κ α) : List α := m.entries.map Prod.snd

variable [Std.TransOrd κ] [Std.LawfulEqOrd κ]

def insert (m : SortedMap κ α) (key : κ) (value : α) : SortedMap κ α :=
  ⟨insertEntry key value m.entries, inKeyOrder_insertEntry key value m.inOrder⟩

/-- Keeps the value that a key already has. -/
def insertNew (m : SortedMap κ α) (key : κ) (value : α) : SortedMap κ α :=
  if m.contains key then m else m.insert key value

/-- Of several entries with one key the last counts. -/
def ofList (entries : List (κ × α)) : SortedMap κ α :=
  entries.foldl (fun m e => m.insert e.1 e.2) empty

@[simp] theorem get?_insert_self (m : SortedMap κ α) (key : κ) (value : α) :
    (m.insert key value).get? key = some value :=
  lookupEntry_insertEntry_self key value m.entries

theorem get?_insert_of_ne (m : SortedMap κ α) {key other : κ} (hne : other ≠ key) (value : α) :
    (m.insert key value).get? other = m.get? other :=
  lookupEntry_insertEntry_of_ne hne value m.entries

end SortedMap

end HomeHub
