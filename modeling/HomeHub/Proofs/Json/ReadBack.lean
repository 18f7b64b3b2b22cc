import HomeHub.Json.Reader
import HomeHub.Proofs.Json.Readable
import HomeHub.Proofs.Json.Written
import HomeHub.Proofs.SortedMap

/-!
# Values that are read back

A value that does not nest too deep and keeps its members in key order is read back from what is
written for it exactly when its numbers are. Where they are not, another value is read or none.
-/
namespace HomeHub.Json
open Scan

section

variable {β σ : Type} {sure : Prop} {Step : σ → β → σ → Prop} {Spelled : β → List Char → Prop}

/-- An element starts with what is neither blank nor the end of its array. -/
def StartsItem (spelled : List Char) : Prop :=
  ∃ first more, spelled = first :: more ∧ Cursor.isJsonBlank first = false ∧ first ≠ ']'

theorem readsTo_nextItem_first {blank spelled : List Char} (hblank : IsBlank blank)
    (h : StartsItem spelled) (rest : List Char) :
    ReadsTo (nextItem true) (blank ++ (spelled ++ rest)) true (spelled ++ rest) := by
  obtain ⟨first, more, rfl, hfirst, hclose⟩ := h
  refine reads_bind (reads_peekToken hblank hfirst _) ?_
  simp only [if_neg hclose, if_true]
  exact reads_pure true _

theorem readsTo_nextItem_later {blank blank' spelled : List Char} (hblank : IsBlank blank)
    (hblank' : IsBlank blank') (h : StartsItem spelled) (rest : List Char) :
    ReadsTo (nextItem false) (blank ++ ',' :: (blank' ++ (spelled ++ rest))) true
      (spelled ++ rest) := by
  obtain ⟨first, more, rfl, hfirst, hclose⟩ := h
  refine reads_bind (reads_peekToken hblank (by decide) _) ?_
  refine reads_bind (reads_skip _ _) (reads_bind (reads_peekToken hblank' hfirst _) ?_)
  split
  · contradiction
  · exact absurd (Option.some.inj ‹_›) hclose
  · exact reads_pure true _

theorem isListReader_items {item : σ → Scan σ}
    (hstarts : ∀ b spelled, Spelled b spelled → StartsItem spelled)
    (hitem : ∀ s b s' spelled rest, Step s b s' → Spelled b spelled → Follows rest →
      ReadsIf sure (item s) (spelled ++ rest) s' rest) :
    IsListReader sure nextItem item Step Spelled ']' where
  closes := by unfold EndsNumber; decide
  first hblank hb := readsTo_nextItem_first hblank (hstarts _ _ hb)
  later hblank hblank' hb := readsTo_nextItem_later hblank hblank' (hstarts _ _ hb)
  last hblank first rest :=
    reads_bind (reads_peekToken hblank (by decide) _) (reads_pure false _)
  element := hitem _ _ _ _ _

theorem reads_foldItems {item : σ → Scan σ}
    (hstarts : ∀ b spelled, Spelled b spelled → StartsItem spelled)
    (hitem : ∀ s b s' spelled rest, Step s b s' → Spelled b spelled → Follows rest →
      ReadsIf sure (item s) (spelled ++ rest) s' rest)
    {bs : List β} {list : List Char} (hlist : ListText Spelled bs list) {s s' : σ}
    (hleads : Leads Step s bs s') (rest : List Char) :
    ReadsIf sure (foldItems item s) (list ++ ']' :: rest) s' (']' :: rest) := by
  rw [foldItems_eq]
  exact (isListReader_items hstarts hitem).reads_loop_list hlist hleads rest

theorem isListReader_members {element : σ → Scan σ}
    (hstarts : ∀ b spelled, Spelled b spelled → spelled.head? = some '"')
    (helement : ∀ s b s' spelled rest, Step s b s' → Spelled b spelled → Follows rest →
      ReadsIf sure (element s) (spelled ++ rest) s' rest) :
    IsListReader sure nextMember element Step Spelled '\x7d' where
  closes := by unfold EndsNumber; decide
  first hblank hb rest := by
    obtain ⟨_, rfl⟩ := List.head?_eq_some_iff.mp (hstarts _ _ hb)
    exact reads_bind (reads_peekToken hblank (by decide) _) (reads_pure true _)
  later hblank hblank' hb rest := by
    obtain ⟨_, rfl⟩ := List.head?_eq_some_iff.mp (hstarts _ _ hb)
    refine reads_bind (reads_peekToken hblank (by decide) _) (reads_bind (reads_skip _ _) ?_)
    exact reads_bind (reads_peekToken hblank' (by decide) _) (reads_pure true _)
  last hblank first rest :=
    reads_bind (reads_peekToken hblank (by decide) _) (reads_pure false _)
  element := helement _ _ _ _ _

theorem IsMember.head? {name : String} {Value : List Char → Prop} {spelled : List Char}
    (h : IsMember name Value spelled) : spelled.head? = some '"' := by
  obtain ⟨_, _, -, -, rfl⟩ := h
  rfl

theorem reads_colon (rest : List Char) : ReadsIf sure colon (':' :: rest) () rest :=
  reads_bind (reads_peekToken isBlank_nil (by decide) _) (reads_skip _ _)

theorem reads_foldMembers {κ : Type} {nameScan : Scan κ} {value : σ → κ → Scan σ}
    {name : β → String} {Value : β → List Char → Prop} (key : β → κ)
    (hname : ∀ b rest, ReadsTo nameScan (writeText (name b) ++ rest) (key b) rest)
    (hvalue : ∀ s b s' blank spelled rest, Step s b s' → IsBlank blank → Value b spelled →
      Follows rest → ReadsIf sure (value s (key b)) (':' :: (blank ++ (spelled ++ rest))) s' rest)
    {bs : List β} {list : List Char} (hlist : ListText (fun b => IsMember (name b) (Value b)) bs list)
    {s s' : σ} (hleads : Leads Step s bs s') (rest : List Char) :
    ReadsIf sure (foldMembers nameScan value s) (list ++ '\x7d' :: rest) s' ('\x7d' :: rest) := by
  rw [foldMembers_eq]
  refine (isListReader_members (fun _ _ hb => hb.head?)
    fun s b s' spelled rest hstep hb hrest => ?_).reads_loop_list hlist hleads rest
  obtain ⟨blank, spelled, hblank, hspelled, rfl⟩ := hb
  simp only [List.append_assoc, List.cons_append]
  exact reads_bind (hname _ _).weaken (hvalue _ _ _ _ _ _ hstep hblank hspelled hrest)

end

section

variable {α : Type} {sure : Prop} {inside : Scan α} {list blank rest : List Char} {v : α}

theorem refuses_bracketed {close : Scan Unit} (placeOf : Cursor → Place) {opened : List Char}
    (h : Refuses inside opened) (c : Char) : Refuses (bracketed inside close placeOf) (c :: opened) := by
  intro place value c' heq
  simp only [bracketed, Cursor.advance] at heq
  split at heq
  · exact h _ _ _ ‹_›
  · cases heq
  · cases heq

theorem reads_bracketed {close : Scan Unit} (placeOf : Cursor → Place)
    {opened middle rest : List Char} (hinside : ReadsIf sure inside opened v middle)
    (hclose : ReadsTo close middle () rest) (c : Char) :
    ReadsIf sure (bracketed inside close placeOf) (c :: opened) v rest := by
  rcases hinside with hinside | ⟨hsure, hinside⟩
  · refine .inl fun place => ?_
    obtain ⟨place', hinside⟩ := hinside (place.after c)
    obtain ⟨place'', hclose⟩ := hclose.done place'
    exact ⟨place'', by simp only [bracketed, Cursor.advance, hinside, hclose]⟩
  · exact .inr ⟨hsure, refuses_bracketed placeOf hinside c⟩

theorem reads_bracketedArray (hblank : IsBlank blank)
    (h : ReadsIf sure inside (list ++ ']' :: rest) v (blank ++ ']' :: rest)) :
    ReadsIf sure (bracketedArray inside) ('[' :: (list ++ [']']) ++ rest) v rest := by
  have hclose : ReadsTo closeArray (blank ++ ']' :: rest) () rest :=
    reads_bind (reads_peekToken hblank (by decide) _) (reads_skip _ _)
  have hread := reads_bracketed placeOfArray h hclose '['
  rwa [List.cons_append, List.append_assoc, List.singleton_append]

theorem reads_bracketedObject (h : ReadsIf sure inside (list ++ '\x7d' :: rest) v ('\x7d' :: rest)) :
    ReadsIf sure (bracketedObject inside) ('\x7b' :: (list ++ ['\x7d']) ++ rest) v rest := by
  have hclose : ReadsTo closeObject ('\x7d' :: rest) () rest :=
    reads_bind (reads_peekToken isBlank_nil (by decide) _) (reads_skip _ _)
  have hread := reads_bracketed placeOfObject h hclose '\x7b'
  rwa [List.cons_append, List.append_assoc, List.singleton_append]

end

theorem reads_letters {sure : Prop} (word rest : List Char) :
    ReadsIf sure (letters word) (word ++ rest) () rest := by
  induction word with
  | nil => exact reads_pure () rest
  | cons c word ih =>
    refine reads_bind (reads_peek _) ?_
    simp only [List.cons_append, List.head?_cons, if_true]
    exact reads_bind (reads_skip _ _) ih

/-- A scanner reads a value from all that is written for a JSON value, where it is sure to read. -/
def DecodesIf {α : Type} (sure : Prop) (scan : Scan α) (j : Json) (v : α) : Prop :=
  ∀ spelled, IsWritten j spelled → IsSpellingIf sure scan spelled v

/-- A scanner reads a value from all that is written for a JSON value. -/
abbrev Decodes {α : Type} (scan : Scan α) (j : Json) (v : α) : Prop := DecodesIf True scan j v

section

variable {α β κ : Type} {sure : Prop} {item : Scan α}

theorem isSpelling_of_first {next : Option Char → Scan α} {first : Char} {more : List Char} {v : α}
    (hblank : Cursor.isJsonBlank first = false) (hclose : first ≠ ']')
    (h : ∀ rest, Follows rest → ReadsIf sure (next (some first)) (first :: more ++ rest) v rest) :
    IsSpellingIf sure (peekToken >>= next) (first :: more) v where
  starts := ⟨first, more, rfl, hblank, hclose⟩
  reads _ rest hb hrest := reads_bind (reads_peekToken hb hblank _) (h rest hrest)

theorem reads_items {js : List Json} {vs : List α} (h : List.Forall₂ (DecodesIf sure item) js vs)
    {list : List Char} (hlist : ListText IsWritten js list) (rest : List Char) :
    ReadsIf sure (do
      let reversed ← foldItems (fun items => do pure ((← item) :: items)) []
      pure reversed.reverse) (list ++ ']' :: rest) vs (']' :: rest) := by
  have hspelled : ListText (fun v spelled => IsSpellingIf sure item spelled v) vs list :=
    listText_imp (h.imp fun _ _ hj => hj) hlist
  have hfold : ReadsIf sure (foldItems (fun items => do pure ((← item) :: items)) [])
      (list ++ ']' :: rest) vs.reverse (']' :: rest) := by
    have hleads := leads_foldl (fun items v => v :: items) [] vs
    rw [show vs.foldl (fun items v => v :: items) [] = vs.reverse by simp] at hleads
    refine reads_foldItems (fun v spelled hv => hv.starts)
      (fun items v items' spelled rest hstep hv hrest => ?_) hspelled hleads rest
    subst hstep
    exact reads_bind (hv.reads [] _ isBlank_nil hrest) (reads_pure _ _)
  have hlast : ReadsIf sure (pure vs.reverse.reverse) (']' :: rest) vs.reverse.reverse
    (']' :: rest) := reads_pure _ _
  exact reads_bind hfold (by rwa [List.reverse_reverse] at hlast ⊢)

theorem reads_entries [Ord κ] [Std.TransOrd κ] [Std.LawfulEqOrd κ] {nameScan : Scan κ}
    {name : κ → String} (hname : ∀ k rest, ReadsTo nameScan (writeText (name k) ++ rest) k rest)
    {members : List (String × Json)} {entries : List (κ × α)}
    (h : List.Forall₂ (fun m e => m.1 = name e.1 ∧ DecodesIf sure item m.2 e.2) members entries)
    {list : List Char} (hlist : ListText IsWrittenMember members list) (rest : List Char) :
    ReadsIf sure (foldMembers nameScan (fun m k => do
      colon
      pure (m.insert k (← item))) .empty) (list ++ '\x7d' :: rest) (SortedMap.ofList entries)
      ('\x7d' :: rest) := by
  have hspelled : ListText
      (fun e : κ × α => IsMember (name e.1) fun spelled => IsSpellingIf sure item spelled e.2) entries
      list := by
    refine listText_imp (h.imp fun m e hm spelled hwritten => ?_) hlist
    obtain ⟨hname, hvalue⟩ := hm
    obtain ⟨blank, value, hblank, hv, rfl⟩ := hwritten
    exact ⟨blank, value, hblank, hvalue _ hv, by rw [hname]⟩
  refine reads_foldMembers Prod.fst (fun e rest => hname e.1 rest)
    (fun m e m' blank spelled rest hstep hblank hv hrest => ?_) hspelled
    (leads_foldl _ SortedMap.empty entries) rest
  subst hstep
  exact reads_bind (reads_colon _)
    (reads_bind (hv.reads _ _ hblank hrest) (reads_pure _ _))

end

section

variable (inner : Option (Scan Json)) {sure : Prop}

theorem decodes_null : DecodesIf sure (valueWith inner) .null .null := by
  intro spelled h
  rw [h.of_null]
  exact isSpelling_of_first (by decide) (by decide) fun rest _ => reads_bind (reads_skip _ _)
    (reads_bind (reads_letters ['u', 'l', 'l'] rest) (reads_pure _ _))

theorem decodes_boolean (b : Bool) : DecodesIf sure (valueWith inner) (.boolean b) (.boolean b) := by
  intro spelled h
  rw [h.of_boolean]
  cases b with
  | true =>
    exact isSpelling_of_first (by decide) (by decide) fun rest _ => reads_bind (reads_skip _ _)
      (reads_bind (reads_letters ['r', 'u', 'e'] rest) (reads_pure _ _))
  | false =>
    exact isSpelling_of_first (by decide) (by decide) fun rest _ => reads_bind (reads_skip _ _)
      (reads_bind (reads_letters ['a', 'l', 's', 'e'] rest) (reads_pure _ _))

theorem ne_of_starts_number {first : Char} (h : first = '-' ∨ first.isDigit) {c : Char}
    (hsign : c ≠ '-') (hdigit : ¬c.isDigit) : first ≠ c := by
  rintro rfl
  exact h.elim hsign hdigit

theorem not_isJsonBlank_of_starts_number {first : Char} (h : first = '-' ∨ first.isDigit) :
    Cursor.isJsonBlank first = false := by
  simp [Cursor.isJsonBlank, ne_of_starts_number h (c := ' '), ne_of_starts_number h (c := '\n'),
    ne_of_starts_number h (c := '\t'), ne_of_starts_number h (c := '\r')]

/-- What starts a number starts none of the words. -/
theorem ite_of_starts_number {γ : Type} {first : Char} (h : first = '-' ∨ first.isDigit)
    (word word' word'' number other : γ) :
    (if first = 'n' then word else if first = 't' then word' else if first = 'f' then word''
      else if first = '-' ∨ first.isDigit then number else other) = number := by
  have hne {c : Char} := ne_of_starts_number h (c := c)
  rw [if_neg (hne (by decide) (by decide)), if_neg (hne (by decide) (by decide)),
    if_neg (hne (by decide) (by decide)), if_pos h]

/-- What is written for a number is read as another, or as the number itself. -/
structure RereadsIf (sure : Prop) (n n' : JsonNumber) : Prop where
  starts : ∃ first more, writeNumber n = first :: more ∧ (first = '-' ∨ first.isDigit)
  reads : ∀ rest, Follows rest → ReadsIf sure numeral (writeNumber n ++ rest) n' rest

abbrev Rereads (n n' : JsonNumber) : Prop := RereadsIf True n n'

theorem decodes_number {n n' : JsonNumber} (h : RereadsIf sure n n') :
    DecodesIf sure (valueWith inner) (.number n) (.number n') := by
  intro spelled hspelled
  rw [hspelled.of_number]
  obtain ⟨first, more, htext, hfirst⟩ := h.starts
  rw [htext]
  refine isSpelling_of_first (not_isJsonBlank_of_starts_number hfirst)
    (ne_of_starts_number hfirst (by decide) (by decide)) fun rest hrest => ?_
  simp only
  rw [ite_of_starts_number hfirst, ← htext]
  exact reads_bind (h.reads rest hrest) (reads_pure _ _)

theorem isSpelling_text {s : String} {literal : List Char} (h : IsLiteral s literal) :
    IsSpellingIf sure (valueWith inner) literal (.text s) := by
  obtain ⟨body, hbody, rfl⟩ := h
  refine isSpelling_of_first (by decide) (by decide) fun rest _ => ?_
  have hread := readsTo_textBody_of_spells hbody rest
  rw [List.cons_append, List.append_assoc, List.singleton_append]
  exact reads_bind (reads_skip _ _) (reads_bind hread.weaken (reads_pure _ _))

theorem decodes_text (s : String) : DecodesIf sure (valueWith inner) (.text s) (.text s) := by
  intro spelled h
  rw [h.of_text]
  exact isSpelling_text inner (isLiteral_writeText s)

end

section

variable {sure : Prop} {item : Scan Json}

theorem decodes_array {items vs : List Json} (h : List.Forall₂ (DecodesIf sure item) items vs) :
    DecodesIf sure (valueWith (some item)) (.array items) (.array vs) := by
  intro spelled hspelled
  obtain ⟨list, hlist, rfl⟩ := hspelled.of_array
  refine isSpelling_of_first (by decide) (by decide) fun rest _ => ?_
  have hread := reads_bracketedArray isBlank_nil (reads_items h hlist rest)
  exact reads_bind hread (reads_pure _ _)

theorem decodes_object {members entries : List (String × Json)}
    (h : List.Forall₂ (fun m e => m.1 = e.1 ∧ DecodesIf sure item m.2 e.2) members entries) :
    DecodesIf sure (valueWith (some item)) (.object members)
      (.object (SortedMap.ofList entries).entries) := by
  intro spelled hspelled
  obtain ⟨list, hlist, rfl⟩ := hspelled.of_object
  refine isSpelling_of_first (by decide) (by decide) fun rest _ => ?_
  have hinside := reads_entries readsTo_memberName h hlist rest
  exact reads_bind (reads_bracketedObject hinside) (reads_pure _ _)

end

mutual

/-- The numbers of a value that are no integers. -/
def reals : Json → List Binary64
  | .number (.real x) => [x]
  | .array items => realsOfItems items
  | .object members => realsOfMembers members
  | _ => []

def realsOfItems : List Json → List Binary64
  | [] => []
  | v :: rest => reals v ++ realsOfItems rest

def realsOfMembers : List (String × Json) → List Binary64
  | [] => []
  | (_, v) :: rest => reals v ++ realsOfMembers rest

end

theorem mem_realsOfItems {items : List Json} {x : Binary64} :
    x ∈ realsOfItems items ↔ ∃ v ∈ items, x ∈ reals v := by
  induction items with
  | nil => simp [realsOfItems]
  | cons v rest ih => simp [realsOfItems, ih]

theorem mem_realsOfMembers {members : List (String × Json)} {x : Binary64} :
    x ∈ realsOfMembers members ↔ ∃ m ∈ members, x ∈ reals m.2 := by
  induction members with
  | nil => simp [realsOfMembers]
  | cons m rest ih => simp [realsOfMembers, ih]

/-- All numbers of a value are read back from what is written for them. -/
def IsExact (j : Json) : Prop := ∀ x ∈ reals j, survives x

instance : DecidablePred IsExact := fun j => inferInstanceAs (Decidable (∀ x ∈ reals j, survives x))

theorem isExact_array {items : List Json} : IsExact (.array items) ↔ ∀ v ∈ items, IsExact v := by
  have hreals : reals (.array items) = realsOfItems items := by rw [reals]
  simp only [IsExact, hreals, mem_realsOfItems]
  exact ⟨fun h v hv x hx => h x ⟨v, hv, hx⟩, fun h x ⟨v, hv, hx⟩ => h v hv x hx⟩

theorem isExact_object {members : List (String × Json)} :
    IsExact (.object members) ↔ ∀ m ∈ members, IsExact m.2 := by
  have hreals : reals (.object members) = realsOfMembers members := by rw [reals]
  simp only [IsExact, hreals, mem_realsOfMembers]
  exact ⟨fun h m hm x hx => h x ⟨m, hm, hx⟩, fun h x ⟨m, hm, hx⟩ => h m hm x hx⟩

theorem rereads_of_read {n n' : JsonNumber}
    (h : ∀ rest, Follows rest → ReadsTo numeral (writeNumber n ++ rest) n' rest) : Rereads n n' := by
  obtain ⟨place, hdone⟩ := (h [] follows_nil).done ⟨1, 0⟩
  rw [List.append_nil] at hdone
  exact ⟨starts_of_numeral_eq_done hdone, h⟩

theorem rereads_integer {n : Int} (h : IsWord n) : Rereads (.integer n) (.integer n) :=
  rereads_of_read fun _ hrest => readsTo_numeral_integer h hrest

theorem rereads_real {x : Binary64} (h : survives x) : Rereads (.real x) (.real x) :=
  rereads_of_read fun _ hrest => readsTo_numeral_real h hrest

theorem RereadsIf.weaken {sure : Prop} {n n' : JsonNumber} (h : Rereads n n') : RereadsIf sure n n' :=
  ⟨h.starts, fun rest hrest => (h.reads rest hrest).weaken⟩

theorem isWritten_null {x : Binary64} (h : ¬x.isFinite) {spelled : List Char}
    (hspelled : IsWritten (.number (.real x)) spelled) : IsWritten .null spelled := by
  have hnull : spelled = writeCompact .null := by
    rw [hspelled.of_number, writeNumber, if_neg h, writeCompact]
  exact hnull ▸ .compact

section

variable {sure : Prop} {levels : Nat} {inner : Option (Scan Json)} {j : Json}

/-- A finite double that does not survive is read as another number, or refused. -/
theorem exists_rereadsIf {x : Binary64} (hfinite : x.isFinite) (hlost : ¬survives x) (hsure : ¬sure) :
    ∃ n, RereadsIf sure (.real x) n ∧ n ≠ .real x := by
  have hnumeral := isNumeral_writeNumber hfinite
  rcases settles_numeral hnumeral with ⟨n, hread⟩ | hrefused
  · refine ⟨n, (rereads_of_read hread).weaken, ?_⟩
    rintro rfl
    obtain ⟨place, hdone⟩ := (hread [] follows_nil).done ⟨1, 0⟩
    rw [List.append_nil] at hdone
    exact hlost (survives_iff.mpr ⟨place, hdone⟩)
  · exact ⟨.integer 0, ⟨hnumeral.exists_cons, fun rest hrest => .inr ⟨hsure, hrefused rest hrest⟩⟩,
      by simp⟩

theorem exists_decodesIf_number {n : JsonNumber} (hn : IsReadNumber n)
    (hsure : sure → IsExact (.number n)) :
    ∃ v, DecodesIf sure (valueWith inner) (.number n) v ∧ (v = .number n ↔ IsExact (.number n)) := by
  cases n with
  | integer n =>
    have hexact : IsExact (.number (.integer n)) := by simp [IsExact, reals]
    exact ⟨_, decodes_number inner (rereads_integer hn).weaken, iff_of_true rfl hexact⟩
  | real x =>
    have hexact : IsExact (.number (.real x)) ↔ survives x := by simp [IsExact, reals]
    rw [hexact] at hsure ⊢
    by_cases hsurvives : survives x
    · exact ⟨_, decodes_number inner (rereads_real hsurvives).weaken, iff_of_true rfl hsurvives⟩
    · by_cases hfinite : x.isFinite
      · obtain ⟨n, hreads, hn⟩ := exists_rereadsIf hfinite hsurvives fun h => hsurvives (hsure h)
        exact ⟨_, decodes_number inner hreads, iff_of_false (by simpa using hn) hsurvives⟩
      · have hnull : DecodesIf sure (valueWith inner) (.number (.real x)) .null :=
          fun spelled hspelled => decodes_null inner spelled (isWritten_null hfinite hspelled)
        exact ⟨_, hnull, iff_of_false (by simp) hsurvives⟩

theorem exists_decodesIf_array {items : List Json}
    (h : ∀ v ∈ items, ∃ v', DecodesIf sure (value levels) v v' ∧ (v' = v ↔ IsExact v)) :
    ∃ v, DecodesIf sure (value (levels + 1)) (.array items) v ∧
      (v = .array items ↔ IsExact (.array items)) := by
  choose! reread hreread hexact using h
  have hitems : List.Forall₂ (DecodesIf sure (value levels)) items (items.map reread) :=
    List.forall₂_map_right_iff.mpr (List.forall₂_same.mpr hreread)
  refine ⟨_, decodes_array hitems, ?_⟩
  have hsame : items.map reread = items ↔ ∀ v ∈ items, reread v = v := by
    simpa using List.map_inj_left (f := reread) (g := id) (l := items)
  rw [isExact_array, Json.array.injEq, hsame]
  exact forall₂_congr hexact

theorem exists_decodesIf_object {members : List (String × Json)} (horder : InKeyOrder members)
    (h : ∀ m ∈ members, ∃ v', DecodesIf sure (value levels) m.2 v' ∧ (v' = m.2 ↔ IsExact m.2)) :
    ∃ v, DecodesIf sure (value (levels + 1)) (.object members) v ∧
      (v = .object members ↔ IsExact (.object members)) := by
  choose! reread hreread hexact using h
  let replace (m : String × Json) : String × Json := (m.1, reread m)
  let sorted : SortedMap String Json := ⟨members.map replace, List.pairwise_map.mpr horder⟩
  have hmembers : List.Forall₂ (fun m e => m.1 = e.1 ∧ DecodesIf sure (value levels) m.2 e.2) members
      sorted.entries :=
    List.forall₂_map_right_iff.mpr (List.forall₂_same.mpr fun m hm => ⟨rfl, hreread m hm⟩)
  have hread := decodes_object hmembers
  rw [SortedMap.ofList_entries] at hread
  refine ⟨_, hread, ?_⟩
  have hsame : sorted.entries = members ↔ ∀ m ∈ members, reread m = m.2 := by
    simpa [replace, Prod.ext_iff] using List.map_inj_left (f := replace) (g := id) (l := members)
  rw [isExact_object, Json.object.injEq, hsame]
  exact forall₂_congr hexact

/-- What is written for a value is read as the value exactly if its numbers survive. The elements of
arrays and objects stand one level down, so the induction is on the levels. -/
theorem exists_decodesIf (sure : Prop) (h : IsReadable levels j) (hsure : sure → IsExact j) :
    ∃ v, DecodesIf sure (value levels) j v ∧ (v = j ↔ IsExact j) := by
  have hplain {v : Json} (hreals : reals v = []) : v = v ↔ IsExact v :=
    iff_of_true rfl (by simp [IsExact, hreals])
  induction levels generalizing j with
  | zero =>
    cases j with
    | null => exact ⟨_, decodes_null none, hplain (by simp [reals])⟩
    | boolean b => exact ⟨_, decodes_boolean none b, hplain (by simp [reals])⟩
    | number n => exact exists_decodesIf_number h hsure
    | text s => exact ⟨_, decodes_text none s, hplain (by simp [reals])⟩
    | array items => exact h.elim
    | object members => exact h.elim
  | succ levels ih =>
    cases j with
    | null => exact ⟨_, decodes_null _, hplain (by simp [reals])⟩
    | boolean b => exact ⟨_, decodes_boolean _ b, hplain (by simp [reals])⟩
    | number n => exact exists_decodesIf_number h hsure
    | text s => exact ⟨_, decodes_text _ s, hplain (by simp [reals])⟩
    | array items =>
      exact exists_decodesIf_array fun v hv => ih (h v hv) fun hs => isExact_array.mp (hsure hs) v hv
    | object members =>
      exact exists_decodesIf_object h.1 fun m hm =>
        ih (h.2 m hm) fun hs => isExact_object.mp (hsure hs) m hm

theorem decodes_value (h : IsReadable levels j) (hexact : IsExact j) : Decodes (value levels) j j := by
  obtain ⟨v, hread, hsame⟩ := exists_decodesIf True h fun _ => hexact
  rwa [hsame.mpr hexact] at hread

end

section

variable {α : Type} {scan : Scan α} {spelled : List Char} {v w : α}

theorem readWith_of_isSpelling (h : IsSpelling scan spelled v) :
    readWith scan (String.ofList spelled) = .ok v := by
  obtain ⟨place, hread⟩ := (h.reads [] [] isBlank_nil follows_nil).done ⟨1, 0⟩
  rw [List.nil_append, List.append_nil] at hread
  refine readWith_eq_ok_iff.mpr ⟨⟨[], place⟩, ?_, rfl⟩
  rw [Cursor.start, String.toList_ofList]
  exact hread

theorem eq_of_readWith {sure : Prop} (h : IsSpellingIf sure scan spelled v)
    (hread : readWith scan (String.ofList spelled) = .ok w) : w = v := by
  obtain ⟨c, hdone, -⟩ := readWith_eq_ok_iff.mp hread
  rw [Cursor.start, String.toList_ofList] at hdone
  have hreads := h.reads [] [] isBlank_nil follows_nil
  rw [List.nil_append, List.append_nil] at hreads
  rcases hreads with hreads | ⟨-, hrefuses⟩
  · obtain ⟨place, hreads⟩ := hreads ⟨1, 0⟩
    rw [hdone] at hreads
    cases hreads
    rfl
  · exact (hrefuses _ _ _ hdone).elim

end

/-- Writing a value and reading what was written gives the value. -/
def IsRestored (j : Json) : Prop := Json.read j.indented = .ok j

instance : DecidablePred IsRestored := fun j =>
  inferInstanceAs (Decidable (Json.read j.indented = .ok j))

theorem isRestored_iff {j : Json} : j.IsRestored ↔ IsReadable deepest j ∧ IsExact j := by
  constructor
  · intro h
    have hreadable := isReadable_of_read h
    obtain ⟨v, hreads, hsame⟩ := exists_decodesIf False hreadable False.elim
    have hv : j = v := eq_of_readWith (hreads _ (.indented 0)) h
    exact ⟨hreadable, hsame.mp hv.symm⟩
  · rintro ⟨hreadable, hexact⟩
    exact readWith_of_isSpelling (decodes_value hreadable hexact _ (.indented 0))

theorem IsRestored.isExact {j : Json} (h : j.IsRestored) : j.IsExact := (isRestored_iff.mp h).2

theorem read_indented {j : Json} (h : IsReadable deepest j) (hexact : IsExact j) :
    Json.read j.indented = .ok j := isRestored_iff.mpr ⟨h, hexact⟩

end HomeHub.Json
