import HomeHub.Proofs.Json.Record
import HomeHub.ZWave.Record

/-!
# Snapshots that are read back

A snapshot is read back from its text when its untyped data is. What was read nests so deep only that
it still fits when it is read again.
-/
namespace HomeHub.ZWave

open Json Json.Scan Json.Decoder

/-- A condition on the untyped data of a value. -/
structure Value.AllData (P : Json → Prop) (v : Value) : Prop where
  data : P v.data
  dataItems : P v.dataItems
  least : P v.least
  most : P v.most

instance {P : Json → Prop} [DecidablePred P] (v : Value) : Decidable (v.AllData P) :=
  decidable_of_iff (P v.data ∧ P v.dataItems ∧ P v.least ∧ P v.most)
    ⟨fun ⟨data, dataItems, least, most⟩ => ⟨data, dataItems, least, most⟩,
      fun ⟨data, dataItems, least, most⟩ => ⟨data, dataItems, least, most⟩⟩

/-- A value that can come out of reading with so many levels. -/
def Value.IsReadable : Nat → Value → Prop := Below fun levels v => v.AllData (Json.IsReadable levels)

def Node.IsReadable : Nat → Node → Prop :=
  Below fun levels n => ∀ v ∈ n.values, Below Value.IsReadable levels v

def Snapshot.IsReadable : Nat → Snapshot → Prop :=
  Below fun levels s => (∀ n ∈ s.nodes, Below Node.IsReadable levels n) ∧
    ∀ v ∈ s.entityValues, Below Value.IsReadable levels v

/-- A condition on all the untyped data of a snapshot. -/
structure Snapshot.AllData (P : Json → Prop) (s : Snapshot) : Prop where
  nodes : ∀ n ∈ s.nodes, ∀ v ∈ n.values, v.AllData P
  entityValues : ∀ v ∈ s.entityValues, v.AllData P

instance {P : Json → Prop} [DecidablePred P] (s : Snapshot) : Decidable (s.AllData P) :=
  decidable_of_iff ((∀ n ∈ s.nodes, ∀ v ∈ n.values, v.AllData P) ∧ ∀ v ∈ s.entityValues, v.AllData P)
    ⟨fun ⟨nodes, entityValues⟩ => ⟨nodes, entityValues⟩,
      fun ⟨nodes, entityValues⟩ => ⟨nodes, entityValues⟩⟩

section

variable {P Q : Json → Prop}

theorem Value.AllData.imp {v : Value} (h : v.AllData P) (himp : ∀ j, P j → Q j) : v.AllData Q :=
  ⟨himp _ h.data, himp _ h.dataItems, himp _ h.least, himp _ h.most⟩

theorem Snapshot.AllData.imp {s : Snapshot} (h : s.AllData P) (himp : ∀ j, P j → Q j) : s.AllData Q :=
  ⟨fun n hn v hv => (h.nodes n hn v hv).imp himp, fun v hv => (h.entityValues v hv).imp himp⟩

end

section

variable {levels : Nat}

theorem decodes_genre (g : Genre) : Decodes (variant genreNames levels) (.text g.name) g :=
  decodes_variant (by cases g <;> rfl)

theorem decodes_untyped {j : Json} (hread : j.IsReadable levels) (hexact : j.IsExact) :
    Decodes (Decoder.any levels) j j := decodes_value hread hexact

theorem decodes_zwaveValue {v : Value} (h : v.IsReadable levels) (hexact : v.AllData Json.IsExact) :
    Decodes (Value.record.decoder levels) (Value.record.toJson v) v := by
  cases levels with
  | zero => exact h.elim
  | succ levels =>
    exact Record.decodes_record (by decide)
      (.next (Field.restores_put (decodes_word64 _)) <|
        .next (Field.restores_put (decodes_word8 _)) <|
        .next (Field.restores_put (decodes_word8 _)) <|
        .next (Field.restores_put (decodes_genre _)) <|
        .next (Field.restores_put (decodes_word32 _)) <|
        .next (Field.restores_put (decodes_word32 _)) <|
        .next (Field.restores_put (decodes_text _)) <|
        .next (Field.restores_put (decodes_text _)) <|
        .next (Field.restores_put (decodes_text _)) <|
        .next (Field.restores_put (decodes_untyped h.data hexact.data)) <|
        .next (Field.restores_put (decodes_untyped h.dataItems hexact.dataItems)) <|
        .next (Field.restores_put (decodes_untyped h.least hexact.least)) <|
        .next (Field.restores_put (decodes_untyped h.most hexact.most)) <|
        .next (Field.restores_put (decodes_word32 _)) <| .done v)

theorem decodes_words (words : List UInt8) :
    Decodes (word8.list (levels + 1)) (.array (words.map ofWord8)) words :=
  decodes_list fun n _ => decodes_word8 n

theorem decodes_pairs (pairs : List (UInt8 × UInt8)) :
    Decodes (word8.pair.list (levels + 2)) (.array (pairs.map ofPair)) pairs :=
  decodes_list fun p _ => decodes_pair (decodes_word8 p.1) (decodes_word8 p.2)

theorem decodes_group (g : Group) :
    Decodes (Group.record.decoder (levels + 3)) (Group.record.toJson g) g :=
  Record.decodes_record (by decide)
    (.next (Field.restores_put (decodes_text _)) <|
      .next (Field.restores_put (decodes_words _)) <|
      .next (Field.restores_put (decodes_pairs _)) <|
      .next (Field.restores_put (decodes_word32 _)) <| .done g)

theorem ClassSet.ofList_keys (classes : ClassSet) : ClassSet.ofList classes.keys = classes := by
  have hentries : classes.keys.map (fun c => (c, ())) = classes.entries := by
    rw [SortedMap.keys, List.map_map]
    exact List.map_id _
  rw [ClassSet.ofList, hentries, SortedMap.ofList_entries]

theorem decodes_values {values : List Value} (h : ∀ v ∈ values, v.IsReadable levels)
    (hexact : ∀ v ∈ values, v.AllData Json.IsExact) :
    Decodes (Value.record.decoder.list (levels + 1)) (.array (values.map Value.record.toJson))
      values :=
  decodes_list fun v hv => decodes_zwaveValue (h v hv) (hexact v hv)

theorem decodes_node {n : Node} (h : n.IsReadable (levels + 5))
    (hexact : ∀ v ∈ n.values, v.AllData Json.IsExact) :
    Decodes (Node.record.decoder (levels + 5)) (Node.record.toJson n) n := by
  have hvalues : ∀ v ∈ n.values, v.IsReadable (levels + 3) := h
  have hleads : Leads (Field.Restores (levels + 4) n) Node.record.blank Node.record.fields
      { n with commandClasses := ClassSet.ofList n.commandClasses.keys } :=
    .next (Field.restores_put (decodes_word8 _)) <|
      .next (Field.restores_put (decodes_words _)) <|
      .next (Field.restores_put (decodes_values hvalues hexact)) <|
      .next (Field.restores_put (decodes_numberedMembers decodes_word8 fun e _ => decodes_group e.2)) <|
      .done _
  rw [ClassSet.ofList_keys] at hleads
  exact Record.decodes_record (by decide) hleads

theorem decodes_snapshot {s : Snapshot} (h : s.IsReadable (levels + 7))
    (hexact : s.AllData Json.IsExact) :
    Decodes (Snapshot.record.decoder (levels + 7)) (Snapshot.record.toJson s) s := by
  obtain ⟨hnodes, hvalues⟩ := h
  exact Record.decodes_record (by decide)
    (.next (Field.restores_put (decodes_list fun n hn =>
        decodes_node (hnodes n hn) (hexact.nodes n hn))) <|
      .next (Field.restores_put (decodes_values hvalues hexact.entityValues)) <| .done s)

end

section

theorem ensures_zwaveValue (levels : Nat) :
    Ensures (Value.record.decoder levels) (Value.IsReadable levels) := by
  refine Record.ensures_record (fun levels => ?_) (fun levels => ?_) levels
  · cases levels <;> exact ⟨trivial, trivial, trivial, trivial⟩
  · have hread : Ensures (Decoder.any levels) (Json.IsReadable levels) := Json.ensures_value levels
    have hkeep {α : Type} {decoder : Decoder α} {put : α → Value → Value}
        (hput : ∀ x (v : Value), v.AllData (Json.IsReadable levels) →
          (put x v).AllData (Json.IsReadable levels)) :
        Ensures (decoder.map put levels) fun set => ∀ (v : Value),
          v.AllData (Json.IsReadable levels) → (set v).AllData (Json.IsReadable levels) :=
      ensures_put (ensures_true _) fun x v _ => hput x v
    simp only [Value.record, List.forall_mem_cons]
    refine ⟨hkeep fun _ _ h => { h with }, hkeep fun _ _ h => { h with },
      hkeep fun _ _ h => { h with }, hkeep fun _ _ h => { h with }, hkeep fun _ _ h => { h with },
      hkeep fun _ _ h => { h with }, hkeep fun _ _ h => { h with }, hkeep fun _ _ h => { h with },
      hkeep fun _ _ h => { h with }, ?_, ?_, ?_, ?_, hkeep fun _ _ h => { h with },
      fun _ h => absurd h List.not_mem_nil⟩
    · exact ensures_put hread fun _ _ hx h => { h with data := hx }
    · exact ensures_put hread fun _ _ hx h => { h with dataItems := hx }
    · exact ensures_put hread fun _ _ hx h => { h with least := hx }
    · exact ensures_put hread fun _ _ hx h => { h with most := hx }

theorem ensures_node (levels : Nat) : Ensures (Node.record.decoder levels) (Node.IsReadable levels) := by
  refine Record.ensures_record (fun levels v hv => absurd hv List.not_mem_nil) (fun levels => ?_) levels
  simp only [Node.record, List.forall_mem_cons]
  refine ⟨ensures_put (ensures_true _) fun _ _ _ h => h,
    ensures_put (ensures_true _) fun _ _ _ h => h, ?_, ensures_put (ensures_true _) fun _ _ _ h => h,
    fun _ h => absurd h List.not_mem_nil⟩
  exact ensures_put (ensures_list ensures_zwaveValue levels) fun _ _ hx _ => hx

theorem ensures_snapshot (levels : Nat) :
    Ensures (Snapshot.record.decoder levels) (Snapshot.IsReadable levels) := by
  refine Record.ensures_record (fun levels => ?_) (fun levels => ?_) levels
  · exact ⟨fun _ h => absurd h List.not_mem_nil, fun _ h => absurd h List.not_mem_nil⟩
  · simp only [Snapshot.record, List.forall_mem_cons]
    refine ⟨?_, ?_, fun _ h => absurd h List.not_mem_nil⟩
    · exact ensures_put (ensures_list ensures_node levels) fun _ _ hx h => ⟨hx, h.2⟩
    · exact ensures_put (ensures_list ensures_zwaveValue levels) fun _ _ hx h => ⟨h.1, hx⟩

theorem Snapshot.isReadable_of_read {text : String} {s : Snapshot} (h : Snapshot.read text = .ok s) :
    s.IsReadable deepest := by
  obtain ⟨c, hread, -⟩ := readWith_eq_ok_iff.mp h
  exact ensures_snapshot deepest _ _ _ hread

/-- What was read is read back from the text that it is saved as, if its untyped data is. -/
theorem Snapshot.read_text {s : Snapshot} (h : s.IsReadable deepest)
    (hrestored : s.AllData Json.IsRestored) : Snapshot.read s.text = .ok s :=
  have hexact : s.AllData Json.IsExact := hrestored.imp fun _ => Json.IsRestored.isExact
  readWith_of_isSpelling (decodes_snapshot h hexact _ (.indented 0))

end

end HomeHub.ZWave
