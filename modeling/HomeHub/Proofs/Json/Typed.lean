import HomeHub.Proofs.Json.Decoder
import HomeHub.Proofs.Json.ReadBack

/-!
# Values of known types that are read back

Each decoder reads a value from what is written for the JSON form of the value, as far as its parts
do, and gives only values that its parts give.
-/
namespace HomeHub.Json
open Scan

section

variable {α : Type} {scan : Scan α} {text rest : List Char} {v : α}

theorem readsTo_placed (h : ReadsTo scan text v rest) : ReadsTo (placed scan) text v rest := by
  refine .inl fun place => ?_
  obtain ⟨place', hread⟩ := h.done place
  exact ⟨place', by simp only [placed, hread]⟩

/-- What holds one level down. -/
def Below (post : Nat → α → Prop) : (levels : Nat) → α → Prop
  | 0, _ => False
  | levels + 1, a => post levels a

theorem Scan.Ensures.imp {post post' : α → Prop} (h : Ensures scan post)
    (himp : ∀ v, post v → post' v) : Ensures scan post' :=
  fun c v c' heq => himp v (h c v c' heq)

end

namespace Decoder

variable {α β κ : Type} {levels : Nat}

theorem readsTo_token {blank : List Char} (hblank : IsBlank blank) {c : Char}
    (hc : Cursor.isJsonBlank c = false) (rest : List Char) :
    ReadsTo token (blank ++ c :: rest) c (c :: rest) :=
  reads_bind (reads_peekToken hblank hc _) (reads_pure _ _)

theorem isSpelling_of_token {next : Char → Scan α} {first : Char} {more : List Char} {v : α}
    (hblank : Cursor.isJsonBlank first = false) (hclose : first ≠ ']')
    (h : ∀ rest, Follows rest → ReadsTo (next first) (first :: more ++ rest) v rest) :
    IsSpelling (token >>= next) (first :: more) v where
  starts := ⟨first, more, rfl, hblank, hclose⟩
  reads _ rest hb hrest := reads_bind (readsTo_token hb hblank _) (h rest hrest)

section

variable {decoder : Decoder α}

theorem decodes_map (f : α → β) {j : Json} {v : α} (h : Decodes (decoder levels) j v) :
    Decodes (decoder.map f levels) j (f v) := fun spelled hspelled =>
  ⟨(h spelled hspelled).starts, fun blank rest hblank hrest =>
    reads_bind ((h spelled hspelled).reads blank rest hblank hrest) (reads_pure _ _)⟩

theorem ensures_map (f : α → β) {post : α → Prop} {post' : β → Prop}
    (h : Ensures (decoder levels) post) (hf : ∀ v, post v → post' (f v)) :
    Ensures (decoder.map f levels) post' :=
  ensures_bind h fun v hv => ensures_pure (hf v hv)

end

theorem decodes_textAs (expected s : String) : Decodes (textAs expected levels) (.text s) s := by
  intro spelled h
  rw [h.of_text]
  refine isSpelling_of_token (by decide) (by decide) fun rest _ => ?_
  have hbody := readsTo_textBody s rest
  rw [List.cons_append, List.append_assoc, List.singleton_append]
  exact reads_bind (reads_skip _ _) hbody

theorem decodes_text (s : String) : Decodes (text levels) (.text s) s := decodes_textAs _ s

theorem decodes_numberAs {expected : String} {convert : JsonNumber → Except Fault α}
    {n n' : JsonNumber} {v : α} (hreads : Rereads n n') (h : convert n' = .ok v) :
    Decodes (numberAs expected convert levels) (.number n) v := by
  intro spelled hspelled
  rw [hspelled.of_number]
  obtain ⟨first, more, htext, hfirst⟩ := hreads.starts
  rw [htext]
  refine isSpelling_of_token (not_isJsonBlank_of_starts_number hfirst)
    (ne_of_starts_number hfirst (by decide) (by decide)) fun rest hrest => ?_
  rw [if_pos hfirst, ← htext]
  refine readsTo_placed (reads_bind (hreads.reads rest hrest) ?_)
  rw [h]
  exact reads_pure v rest

/-- A word is read back from its number. -/
theorem decodes_natural (expected : String) (ofNat : Nat → α) {n : Nat} {high : Int}
    (hn : n ≤ high) (hhigh : high ≤ significandLimit) :
    Decodes ((integerWithin 0 high expected).map (fun m => ofNat m.toNat) levels) (.ofNat n)
      (ofNat n) := by
  have hword : IsWord n := by
    unfold IsWord
    omega
  have hread : Decodes (integerWithin 0 high expected levels) (.ofNat n) (n : Int) :=
    decodes_numberAs (rereads_integer hword) (if_pos ⟨Int.natCast_nonneg n, hn⟩)
  exact decodes_map _ hread

theorem decodes_word8 (n : UInt8) : Decodes (word8 levels) (.ofNat n.toNat) n := by
  have hn : (n.toNat : Int) ≤ 255 := by
    have := n.toNat_lt
    omega
  have h : Decodes (word8 levels) (.ofNat n.toNat) (UInt8.ofNat n.toNat) :=
    decodes_natural "u8" UInt8.ofNat hn (by decide)
  rwa [UInt8.ofNat_toNat] at h

theorem decodes_word16 (n : UInt16) : Decodes (word16 levels) (.ofNat n.toNat) n := by
  have hn : (n.toNat : Int) ≤ 65535 := by
    have := n.toNat_lt
    omega
  have h : Decodes (word16 levels) (.ofNat n.toNat) (UInt16.ofNat n.toNat) :=
    decodes_natural "u16" UInt16.ofNat hn (by decide)
  rwa [UInt16.ofNat_toNat] at h

theorem decodes_word32 (n : UInt32) : Decodes (word32 levels) (.ofNat n.toNat) n := by
  have hn : (n.toNat : Int) ≤ 4294967295 := by
    have := n.toNat_lt
    omega
  have h : Decodes (word32 levels) (.ofNat n.toNat) (UInt32.ofNat n.toNat) :=
    decodes_natural "u32" UInt32.ofNat hn (by decide)
  rwa [UInt32.ofNat_toNat] at h

theorem decodes_word64 (n : UInt64) : Decodes (word64 levels) (.ofNat n.toNat) n := by
  have hn : (n.toNat : Int) ≤ 18446744073709551615 := by
    have := n.toNat_lt
    omega
  have h : Decodes (word64 levels) (.ofNat n.toNat) (UInt64.ofNat n.toNat) :=
    decodes_natural "u64" UInt64.ofNat hn (by decide)
  rwa [UInt64.ofNat_toNat] at h

theorem decodes_signed64 (n : Int64) :
    Decodes (signed64 levels) (.number (.integer n.toInt)) n := by
  have hlow : -9223372036854775808 ≤ n.toInt := n.le_toInt
  have hhigh : n.toInt ≤ 9223372036854775807 := Int.le_of_lt_add_one n.toInt_lt
  have hword : IsWord n.toInt := by
    unfold IsWord lowestInteger significandLimit
    omega
  have hread : Decodes (integerWithin (-9223372036854775808) 9223372036854775807 "i64" levels)
      (.number (.integer n.toInt)) n.toInt :=
    decodes_numberAs (rereads_integer hword) (if_pos ⟨hlow, hhigh⟩)
  have h : Decodes (signed64 levels) (.number (.integer n.toInt)) (Int64.ofInt n.toInt) :=
    decodes_map _ hread
  rwa [Int64.ofInt_toInt] at h

theorem decodes_real {x : Binary64} (h : survives x) :
    Decodes (real levels) (.number (.real x)) x :=
  decodes_numberAs (rereads_real h) rfl

section

variable {decoder : Decoder α}

theorem decodes_optional_none : Decodes (decoder.optional levels) .null none := by
  intro spelled hspelled
  rw [hspelled.of_null]
  exact isSpelling_of_first (by decide) (by decide) fun rest _ => reads_bind (reads_skip _ _)
    (reads_bind (reads_letters ['u', 'l', 'l'] rest) (reads_pure _ _))

/-- Only null starts with its letter. -/
theorem decodes_optional_some {j : Json} {v : α} (h : Decodes (decoder levels) j v)
    (hnull : ∀ spelled, IsWritten j spelled → spelled.head? ≠ some 'n') :
    Decodes (decoder.optional levels) j (some v) := by
  intro spelled hspelled
  have hread := h spelled hspelled
  obtain ⟨first, more, rfl, hblank, hclose⟩ := hread.starts
  have hfirst : ¬some first = some 'n' := hnull _ hspelled
  refine isSpelling_of_first hblank hclose fun rest hrest => ?_
  rw [if_neg hfirst]
  exact reads_bind (hread.reads [] rest isBlank_nil hrest) (reads_pure _ _)

theorem decodes_optional_textAs (expected s : String) :
    Decodes ((textAs expected).optional levels) (.text s) (some s) := by
  refine decodes_optional_some (decodes_textAs expected s) fun spelled hspelled => ?_
  rw [hspelled.of_text]
  exact fun h => by cases h

theorem decodes_optional_text (s : String) :
    Decodes ((text : Decoder String).optional levels) (.text s) (some s) :=
  decodes_optional_textAs _ s

theorem decodes_optional_number {n n' : JsonNumber} {v : α} (hreads : Rereads n n')
    (h : Decodes (decoder levels) (.number n) v) :
    Decodes (decoder.optional levels) (.number n) (some v) := by
  refine decodes_optional_some h fun spelled hspelled => ?_
  obtain ⟨first, more, htext, hfirst⟩ := hreads.starts
  rw [hspelled.of_number, htext]
  exact fun h => ne_of_starts_number hfirst (by decide) (by decide) (Option.some.inj h)

end

section

variable {expected : String} {inside : Decoder α}

theorem decodes_arrayAs {items : List Json} {v : α}
    (h : ∀ list rest, ListText IsWritten items list → ∃ blank, IsBlank blank ∧
      ReadsTo (inside levels) (list ++ ']' :: rest) v (blank ++ ']' :: rest)) :
    Decodes (arrayAs expected inside (levels + 1)) (.array items) v := by
  intro spelled hspelled
  obtain ⟨list, hlist, rfl⟩ := hspelled.of_array
  refine isSpelling_of_token (by decide) (by decide) fun rest _ => ?_
  obtain ⟨blank, hblank, hinside⟩ := h list rest hlist
  exact reads_bracketedArray hblank hinside

theorem ensures_arrayAs {post : α → Prop}
    (h : ∀ below, levels = below + 1 → Ensures (inside below) post) :
    Ensures (arrayAs expected inside levels) post := by
  refine ensures_then fun c => ?_
  split_ifs
  · split
    · exact ensures_failNext _ _
    · exact ensures_bracketed (h _ rfl)
  · exact (ensures_mismatch expected).imp fun _ => False.elim

theorem decodes_objectAs {members : List (String × Json)} {v : α}
    (h : ∀ list rest, ListText IsWrittenMember members list →
      ReadsTo (inside levels) (list ++ '\x7d' :: rest) v ('\x7d' :: rest)) :
    Decodes (objectAs expected inside (levels + 1)) (.object members) v := by
  intro spelled hspelled
  obtain ⟨list, hlist, rfl⟩ := hspelled.of_object
  exact isSpelling_of_token (by decide) (by decide) fun rest _ =>
    reads_bracketedObject (h list rest hlist)

end

theorem decodes_list {item : Decoder α} {write : α → Json} {vs : List α}
    (h : ∀ v ∈ vs, Decodes (item levels) (write v) v) :
    Decodes (item.list (levels + 1)) (.array (vs.map write)) vs := by
  have hitems : List.Forall₂ (Decodes (item levels)) (vs.map write) vs :=
    List.forall₂_map_left_iff.mpr (List.forall₂_same.mpr h)
  exact decodes_arrayAs fun list rest hlist => ⟨[], isBlank_nil, reads_items hitems hlist rest⟩

theorem ensures_list {item : Decoder α} {post : Nat → α → Prop}
    (h : ∀ levels, Ensures (item levels) (post levels)) (levels : Nat) :
    Ensures (item.list levels) fun vs => ∀ v ∈ vs, Below post levels v := by
  refine ensures_arrayAs fun below hlevels => ?_
  subst hlevels
  have hfold : Ensures (foldItems (fun items => do pure ((← item below) :: items)) [])
      fun vs => ∀ v ∈ vs, post below v := by
    refine ensures_foldItems (fun items hitems => ensures_bind (h below) fun v hv => ensures_pure ?_)
      fun v hv => absurd hv List.not_mem_nil
    exact List.forall_mem_cons.mpr ⟨hv, hitems⟩
  exact ensures_bind hfold fun items hitems => ensures_pure fun v hv =>
    hitems v (List.mem_reverse.mp hv)

theorem decodes_pair {item : Decoder α} {j j' : Json} {v v' : α} (h : Decodes (item levels) j v)
    (h' : Decodes (item levels) j' v') :
    Decodes (item.pair (levels + 1)) (.array [j, j']) (v, v') := by
  unfold pair
  refine decodes_arrayAs fun list rest hlist => ?_
  obtain ⟨blank, spelled, _, hblank, hspelled, htail, rfl⟩ := hlist
  obtain ⟨blank₁, blank₂, spelled', last, hblank₁, hblank₂, hspelled', hlast, rfl⟩ := htail
  have hfirst := h spelled hspelled
  have hsecond := h' spelled' hspelled'
  have hcomma (text : List Char) : Follows (blank₁ ++ ',' :: text) :=
    follows_blank_append hblank₁ (follows_cons (by unfold EndsNumber; decide) text)
  have hclose : Follows (last ++ ']' :: rest) :=
    follows_blank_append hlast (follows_cons (by unfold EndsNumber; decide) rest)
  refine ⟨last, hlast, ?_⟩
  simp only [List.append_assoc, List.cons_append]
  refine reads_bind (readsTo_nextItem_first hblank hfirst.starts _) ?_
  refine reads_bind (hfirst.reads [] _ isBlank_nil (hcomma _)) ?_
  refine reads_bind (readsTo_nextItem_later hblank₁ hblank₂ hsecond.starts _) ?_
  exact reads_bind (hsecond.reads [] _ isBlank_nil hclose) (reads_pure _ _)

theorem writeChar_of_isDigit {c : Char} (h : c.isDigit) : writeChar c = [c] := by
  have hne {d : Char} (hd : ¬d.isDigit) : c ≠ d := fun heq => hd (heq ▸ h)
  have hcontrol : ¬c < ' ' := by
    intro hlt
    simp only [Char.isDigit, Bool.and_eq_true, decide_eq_true_eq] at h
    exact absurd (Nat.lt_of_le_of_lt h.1 hlt) (by decide)
  simp [writeChar, hcontrol, hne (d := '"'), hne (d := '\\'), hne (d := '\x08'), hne (d := '\x0c'),
    hne (d := '\n'), hne (d := '\r'), hne (d := '\t')]

theorem writeText_toString (n : Nat) :
    writeText (toString n) = '"' :: (Nat.toDigits 10 n ++ ['"']) := by
  have hdigits : (Nat.toDigits 10 n).flatMap writeChar = (Nat.toDigits 10 n).flatMap ([·]) :=
    List.flatMap_congr fun c hc => writeChar_of_isDigit (isDigit_of_mem_toDigits hc)
  rw [writeText, show toString n = n.repr from rfl, Nat.toList_repr, hdigits, List.flatMap_singleton']

theorem readsTo_numericName {key : Decoder κ} {n : Nat} {k : κ} (h : Decodes (key 0) (.ofNat n) k)
    (rest : List Char) :
    ReadsTo (numericName key) (writeText (toString n) ++ rest) k rest := by
  obtain ⟨first, more, hdigits, hfirst⟩ := exists_toDigits_eq_cons n
  have hwritten : IsWritten (.ofNat n) (Nat.toDigits 10 n) := by
    have htext : writeCompact (.ofNat n) = Nat.toDigits 10 n := by
      rw [ofNat, writeCompact]
      exact Nat.toList_repr
    exact htext ▸ .compact
  have hread := (h _ hwritten).reads [] ('"' :: rest) isBlank_nil
    (follows_cons (by unfold EndsNumber; decide) rest)
  rw [writeText_toString, List.cons_append, List.append_assoc, List.singleton_append]
  rw [hdigits] at hread ⊢
  refine reads_bind (reads_skip _ _) (reads_bind (reads_peek _) ?_)
  simp only [List.cons_append, List.head?_cons]
  rw [if_neg (by simp [hfirst])]
  exact reads_bind hread (reads_bind (reads_peek _)
    (reads_bind (reads_skip _ _) (reads_pure _ _)))

theorem decodes_numberedMembers [DecidableEq κ] [Ord κ] [Std.TransOrd κ] [Std.LawfulEqOrd κ]
    {key : Decoder κ} {number : κ → Nat} (hkey : ∀ k, Decodes (key 0) (.ofNat (number k)) k)
    {item : Decoder β} {write : β → Json} {m : SortedMap κ β}
    (h : ∀ e ∈ m.entries, Decodes (item levels) (write e.2) e.2) :
    Decodes (numberedMembers key item (levels + 1))
      (.object (m.entries.map fun (k, v) => (toString (number k), write v))) m := by
  refine decodes_objectAs fun list rest hlist => ?_
  have hentries : List.Forall₂ (fun (e' : String × Json) (e : κ × β) =>
      e'.1 = toString (number e.1) ∧ Decodes (item levels) e'.2 e.2)
      (m.entries.map fun (k, v) => (toString (number k), write v)) m.entries :=
    List.forall₂_map_left_iff.mpr (List.forall₂_same.mpr fun e he => ⟨rfl, h e he⟩)
  have hread := reads_entries (fun k rest => readsTo_numericName (hkey k) rest) hentries hlist rest
  rwa [SortedMap.ofList_entries] at hread

theorem decodes_variant {known : List (String × α)} {name : String} {v : α}
    (h : known.lookup name = some v) : Decodes (variant known levels) (.text name) v := by
  intro spelled hspelled
  have htext : IsSpelling (textAs "variant identifier" levels) spelled name :=
    decodes_textAs _ name spelled hspelled
  rw [hspelled.of_text] at htext ⊢
  refine isSpelling_of_first (by decide) (by decide) fun rest hrest => ?_
  refine readsTo_placed (reads_bind (htext.reads [] rest isBlank_nil hrest) ?_)
  simp only [h]
  exact reads_pure v rest

end Decoder

end HomeHub.Json
