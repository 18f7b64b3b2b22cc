import HomeHub.Proofs.Json.Record
import HomeHub.Sensor.Update

/-!
# Updates that are read back

An update is read back from its JSON form with everything but its state as it was. A text or nothing is
read back as well; a number is read as its numeral is, and what is no finite number is lost.
-/
namespace HomeHub

open Json Json.Scan Json.Decoder

inductive ReadAs : Option Reading → Option Reading → Prop
  | nothing : ReadAs none none
  | text (s : String) : ReadAs (some (.text s)) (some (.text s))
  | number {x y : Binary64} : Json.Rereads (.real x) (.real y) →
      ReadAs (some (.number x)) (some (.number y))
  | notFinite {x : Binary64} : ¬x.isFinite → ReadAs (some (.number x)) none

theorem readAs_of_survives {x : Binary64} (h : Json.survives x) :
    ReadAs (some (.number x)) (some (.number x)) := .number (rereads_real h)

section

variable {levels : Nat}

theorem decodes_kind (k : SensorKind) : Decodes (SensorKind.decoder levels) (.text k.key) k := by
  have hread : SensorKind.read k.key = .ok k := by rw [SensorKind.read, SensorKind.ofKey?_key]
  intro spelled hspelled
  have htext : IsSpelling (Decoder.text levels) spelled k.key := decodes_text k.key spelled hspelled
  refine ⟨htext.starts, fun blank rest hblank hrest => ?_⟩
  refine reads_bind (htext.reads blank rest hblank hrest) ?_
  rw [hread]
  exact reads_pure k rest

theorem any_eq_valueWith (levels : Nat) : ∃ inner, any levels = valueWith inner := by
  cases levels with
  | zero => exact ⟨none, rfl⟩
  | succ levels => exact ⟨some (value levels), rfl⟩

theorem decodes_reading_text (s : String) :
    Decodes (Reading.decoder levels) (.text s) (.text s) := by
  obtain ⟨inner, hinner⟩ := any_eq_valueWith levels
  intro spelled hspelled
  have hread : IsSpelling (any levels) spelled (.text s) :=
    hinner ▸ Json.decodes_text inner s spelled hspelled
  exact ⟨hread.starts, fun blank rest hblank hrest =>
    reads_bind (hread.reads blank rest hblank hrest) (reads_pure _ _)⟩

theorem decodes_reading_number {x y : Binary64} (h : Rereads (.real x) (.real y)) :
    Decodes (Reading.decoder levels) (.number (.real x)) (.number y) := by
  obtain ⟨inner, hinner⟩ := any_eq_valueWith levels
  intro spelled hspelled
  have hread : IsSpelling (any levels) spelled (.number (.real y)) :=
    hinner ▸ decodes_number inner h spelled hspelled
  exact ⟨hread.starts, fun blank rest hblank hrest =>
    reads_bind (hread.reads blank rest hblank hrest) (reads_pure _ _)⟩

theorem decodes_state {state state' : Option Reading} (h : ReadAs state state') :
    Decodes (Reading.decoder.optional levels) ((state.map Reading.toJson).getD .null) state' := by
  cases h with
  | nothing => exact decodes_optional_none
  | text s =>
    refine decodes_optional_some (decodes_reading_text s) fun spelled hspelled => ?_
    rw [hspelled.of_text]
    exact fun h => by cases h
  | number hreads => exact decodes_optional_number hreads (decodes_reading_number hreads)
  | notFinite hfinite =>
    exact fun spelled hspelled => decodes_optional_none spelled (isWritten_null hfinite hspelled)

theorem decodes_update {u : SensorUpdate} {state : Option Reading} (h : ReadAs u.state state) :
    Decodes (SensorUpdate.record.decoder (levels + 1)) u.toJson { u with state } :=
  Record.decodes_record (by decide)
    (.next (Field.restores_put (decodes_text _)) <|
      .next (Field.restores_put (decodes_text _)) <|
      .next (Field.restores_put (decodes_kind _)) <|
      .next (Field.restores_put (decodes_state h)) <|
      .next (Field.restores_optional decodes_optional_text rfl) <|
      .next (Field.restores_optional decodes_optional_text rfl) <|
      .next (Field.restores_put (decodes_text _)) <| .done _)

end

theorem SensorUpdate.read_compact {u : SensorUpdate} {state : Option Reading}
    (h : ReadAs u.state state) : SensorUpdate.read u.toJson.compact = .ok { u with state } :=
  readWith_of_isSpelling (decodes_update h _ .compact)

end HomeHub
