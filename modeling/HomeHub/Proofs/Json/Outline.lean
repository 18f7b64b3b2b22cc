import HomeHub.Proofs.Json.ReadBack
import Mathlib.Data.List.TakeWhile

/-!
# Values as they stand in texts

An outline is a value as it stands in a text, with its members in their order and its numbers as
numerals. All texts of an outline are read as one value, however they are spaced and whatever they
escape, or all of them are refused.
-/
namespace HomeHub.Json
open Scan

/-- A value with members in any order, also several of one name, and with numbers as they are written. -/
inductive Outline where
  | null
  | boolean (b : Bool)
  | number (written : List Char)
  | text (s : String)
  | array (items : List Outline)
  | object (members : List (String × Outline))

/-- A name, a colon with blanks around it, and a value. -/
def IsMemberText (name : String) (Value : List Char → Prop) (spelled : List Char) : Prop :=
  ∃ literal blank blank' value, IsLiteral name literal ∧ IsBlank blank ∧ IsBlank blank' ∧
    Value value ∧ spelled = literal ++ (blank ++ ':' :: (blank' ++ value))

def numberOf? (written : List Char) : Option JsonNumber :=
  match numeral ⟨written, ⟨1, 0⟩⟩ with
  | .done n _ => some n
  | _ => none

namespace Outline

/-- The texts of an outline, given those of its parts. A numeral may start with zeros here. -/
def IsSpelledWith (Inner : Outline → List Char → Prop) : Outline → List Char → Prop
  | .null, spelled => spelled = "null".toList
  | .boolean b, spelled => spelled = writeBoolean b
  | .number written, spelled => IsNumeral written ∧ spelled = written
  | .text s, spelled => IsLiteral s spelled
  | .array items, spelled => ∃ list, ListText Inner items list ∧ spelled = '[' :: (list ++ [']'])
  | .object members, spelled => ∃ list,
    ListText (fun m => IsMemberText m.1 (Inner m.2)) members list ∧ spelled = '\x7b' :: (list ++ ['\x7d'])

def IsSpelled : (depth : Nat) → Outline → List Char → Prop
  | 0 => fun _ _ => False
  | depth + 1 => IsSpelledWith (IsSpelled depth)

def HasText (o : Outline) (text : String) : Prop :=
  ∃ depth blank spelled blank', IsBlank blank ∧ o.IsSpelled depth spelled ∧ IsBlank blank' ∧
    text.toList = blank ++ (spelled ++ blank')

/-- What an outline stands for, given what its parts do, if there may be any. -/
def valueWith? (inner : Option (Outline → Option Json)) : Outline → Option Json
  | .null => some .null
  | .boolean b => some (.boolean b)
  | .number written => (numberOf? written).map .number
  | .text s => some (.text s)
  | .array items => inner.bind fun value => (items.mapM value).map .array
  | .object members => inner.bind fun value =>
    (members.mapM fun m => (value m.2).map fun v => (m.1, v)).map fun entries =>
      .object (SortedMap.ofList entries).entries

/-- What an outline stands for; nothing if it nests deeper than so many levels, or has a number that is
out of range. -/
def value? : (levels : Nat) → Outline → Option Json
  | 0 => valueWith? none
  | levels + 1 => valueWith? (some (value? levels))

end Outline

theorem gives_numeral {written rest : List Char} (h : IsNumeral written) (hrest : Follows rest) :
    Gives numeral (written ++ rest) (numberOf? written) rest := by
  unfold numberOf?
  rcases settles_numeral h with ⟨n, hread⟩ | hrefused
  · obtain ⟨place, hdone⟩ := (hread [] follows_nil).done ⟨1, 0⟩
    rw [List.append_nil] at hdone
    rw [hdone]
    exact hread rest hrest
  · have hnone := hrefused [] follows_nil ⟨1, 0⟩
    rw [List.append_nil] at hnone
    split
    · rename_i n c hdone
      exact absurd hdone (hnone n c)
    · exact hrefused rest hrest

/-- A text is read as the value of an outcome in front of what may follow one, or refused there if there
is none. -/
structure IsSettled {α : Type} (scan : Scan α) (text : List Char) (outcome : Option α) : Prop where
  starts : StartsItem text
  gives : ∀ blank rest, IsBlank blank → Follows rest →
    Gives scan (blank ++ (text ++ rest)) outcome rest

section

variable {α : Type} {scan : Scan α} {text : List Char}

theorem IsSpellingIf.isSettled {v : α} (h : IsSpelling scan text v) : IsSettled scan text (some v) :=
  ⟨h.starts, h.reads⟩

theorem isSettled_of_first {next : Option Char → Scan α} {first : Char} {more : List Char}
    {outcome : Option α} (hblank : Cursor.isJsonBlank first = false) (hclose : first ≠ ']')
    (h : ∀ rest, Follows rest → Gives (next (some first)) (first :: more ++ rest) outcome rest) :
    IsSettled (peekToken >>= next) (first :: more) outcome where
  starts := ⟨first, more, rfl, hblank, hclose⟩
  gives _ rest hb hrest := gives_after (reads_peekToken hb hblank _) (h rest hrest)

/-- A whole text is read as the value of its outcome. -/
theorem IsSettled.readWith_eq_ok_iff {outcome : Option α} (h : IsSettled scan text outcome)
    {blank blank' : List Char} (hblank : IsBlank blank) (hblank' : IsBlank blank') {whole : String}
    (hwhole : whole.toList = blank ++ (text ++ blank')) {v : α} :
    readWith scan whole = .ok v ↔ outcome = some v := by
  have hfollows : Follows (blank' ++ []) := follows_blank_append hblank' follows_nil
  rw [List.append_nil] at hfollows
  have hgives := h.gives blank blank' hblank hfollows
  rw [Json.readWith_eq_ok_iff, Cursor.start, hwhole]
  have hskip (place : Place) : (Cursor.skipBlanks ⟨blank', place⟩).rest = [] :=
    List.dropWhile_eq_nil_iff.mpr hblank'
  cases outcome with
  | none =>
    refine iff_of_false ?_ (by simp)
    rintro ⟨c, hdone, -⟩
    exact hgives _ _ _ hdone
  | some w =>
    obtain ⟨place, hdone⟩ := ReadsIf.done hgives ⟨1, 0⟩
    rw [hdone]
    constructor
    · rintro ⟨c, hc, -⟩
      cases hc
      rfl
    · rintro ⟨⟩
      exact ⟨_, rfl, hskip place⟩

end

section

variable {α β σ : Type} {f : α → Option β} {put : σ → β → σ} {Spelled : α → List Char → Prop}

/-- Either all elements have a value, or there is a first one that has none. -/
theorem leads_mapM (s : σ) (as : List α) :
    (∃ vs, as.mapM f = some vs ∧
      Leads (fun s a s' => ∃ v, f a = some v ∧ put s v = s') s as (vs.foldl put s)) ∨
    as.mapM f = none ∧ ∃ before a after s', as = before ++ a :: after ∧ f a = none ∧
      Leads (fun s a s' => ∃ v, f a = some v ∧ put s v = s') s before s' := by
  induction as generalizing s with
  | nil => exact .inl ⟨[], rfl, .done s⟩
  | cons a as ih =>
    cases ha : f a with
    | none => exact .inr ⟨by simp [ha], [], a, as, s, rfl, ha, .done s⟩
    | some v =>
      rcases ih (put s v) with ⟨vs, hvs, hleads⟩ | ⟨hnone, before, b, after, s', rfl, hb, hleads⟩
      · exact .inl ⟨v :: vs, by simp [ha, hvs], .next ⟨v, ha, rfl⟩ hleads⟩
      · exact .inr ⟨by simp [ha, hnone], a :: before, b, after, s', rfl, hb,
          .next ⟨v, ha, rfl⟩ hleads⟩

/-- A reader of lists gives what all its elements give, put together one by one. -/
theorem gives_loop_list {next : Bool → Scan Bool} {element : σ → Scan σ} {close : Char}
    (hreader : ∀ {Step : σ → α → σ → Prop},
      (∀ s a s' spelled rest, Step s a s' → Spelled a spelled → Follows rest →
        ReadsTo (element s) (spelled ++ rest) s' rest) →
      IsListReader True next element Step Spelled close)
    (helement : ∀ s a spelled rest, Spelled a spelled → Follows rest →
      Gives (element s) (spelled ++ rest) ((f a).map (put s)) rest)
    {as : List α} {list : List Char} (hlist : ListText Spelled as list) (s : σ) (rest : List Char) :
    Gives (loop (elementStep next element) (true, s)) (list ++ close :: rest)
      ((as.mapM f).map (·.foldl put s)) (close :: rest) := by
  have hlistReader : IsListReader True next element (fun s a s' => ∃ v, f a = some v ∧ put s v = s')
      Spelled close := by
    refine hreader fun s a s' spelled rest hstep hspelled hrest => ?_
    obtain ⟨v, hv, rfl⟩ := hstep
    have hgives := helement s a spelled rest hspelled hrest
    rwa [hv] at hgives
  rcases leads_mapM s as with ⟨vs, hvs, hleads⟩ | ⟨hnone, before, a, after, s', rfl, ha, hleads⟩
  · rw [hvs]
    exact hlistReader.reads_loop_list hlist hleads rest
  · rw [hnone]
    refine hlistReader.refuses_loop_list hleads (fun spelled rest hspelled hrest => ?_) hlist rest
    have hgives := helement s' a spelled rest hspelled hrest
    rwa [ha] at hgives

end

section

variable {α : Type} {item : Scan Json} {f : α → Option Json} {list : List Char}

theorem gives_arrayItems {Spelled : α → List Char → Prop}
    (hitem : ∀ a spelled, Spelled a spelled → IsSettled item spelled (f a)) {as : List α}
    (hlist : ListText Spelled as list) (rest : List Char) :
    Gives (arrayItems item) (list ++ ']' :: rest) (as.mapM f) (']' :: rest) := by
  have hfold : Gives (foldItems (fun items => do pure ((← item) :: items)) []) (list ++ ']' :: rest)
      ((as.mapM f).map (·.foldl (fun items v => v :: items) [])) (']' :: rest) :=
    gives_loop_list (isListReader_items fun a spelled h => (hitem a spelled h).starts)
      (fun items a spelled rest h hrest =>
        gives_map _ ((hitem a spelled h).gives [] rest isBlank_nil hrest)) hlist [] rest
  have hitems := gives_map List.reverse hfold
  have hreverse (vs : List Json) : (vs.foldl (fun items v => v :: items) []).reverse = vs := by simp
  simp only [Option.map_map, Function.comp_def, hreverse, Option.map_id'] at hitems
  exact hitems

theorem gives_objectMembers {Value : α → List Char → Prop}
    (hvalue : ∀ a spelled, Value a spelled → IsSettled item spelled (f a))
    {members : List (String × α)}
    (hlist : ListText (fun m => IsMemberText m.1 (Value m.2)) members list) (rest : List Char) :
    Gives (objectMembers item) (list ++ '\x7d' :: rest)
      ((members.mapM fun m => (f m.2).map fun v => (m.1, v)).map SortedMap.ofList) ('\x7d' :: rest) := by
  rw [objectMembers, foldMembers_eq]
  refine gives_loop_list (isListReader_members fun m spelled h => ?_)
    (fun read m spelled rest h hrest => ?_) hlist SortedMap.empty rest
  · obtain ⟨_, _, _, _, ⟨body, -, rfl⟩, -, -, -, rfl⟩ := h
    rfl
  · obtain ⟨literal, blank, blank', value, hliteral, hblank, hblank', hv, rfl⟩ := h
    have hcolon : ReadsTo colon (blank ++ ':' :: (blank' ++ (value ++ rest))) ()
        (blank' ++ (value ++ rest)) :=
      reads_bind (reads_peekToken hblank (by decide) _) (reads_skip _ _)
    have hread := (hvalue m.2 value hv).gives blank' rest hblank' hrest
    simp only [List.append_assoc, List.cons_append, Option.map_map]
    exact gives_after (readsTo_memberName_of_isLiteral hliteral _)
      (gives_after hcolon (gives_map _ hread))

theorem gives_bracketedArray {inside : Scan α} {outcome : Option α} {rest : List Char}
    (h : Gives inside (list ++ ']' :: rest) outcome (']' :: rest)) :
    Gives (bracketedArray inside) ('[' :: (list ++ [']']) ++ rest) outcome rest := by
  cases outcome with
  | none =>
    rw [List.cons_append, List.append_assoc, List.singleton_append]
    exact refuses_bracketed placeOfArray h '['
  | some v => exact reads_bracketedArray isBlank_nil h

theorem gives_bracketedObject {inside : Scan α} {outcome : Option α} {rest : List Char}
    (h : Gives inside (list ++ '\x7d' :: rest) outcome ('\x7d' :: rest)) :
    Gives (bracketedObject inside) ('\x7b' :: (list ++ ['\x7d']) ++ rest) outcome rest := by
  cases outcome with
  | none =>
    rw [List.cons_append, List.append_assoc, List.singleton_append]
    exact refuses_bracketed placeOfObject h '\x7b'
  | some v => exact reads_bracketedObject h

end

section

variable (inner : Option (Scan Json))

theorem isSettled_null : IsSettled (valueWith inner) "null".toList (some .null) := by
  have hwritten : IsWritten .null "null".toList := by
    have hcompact : writeCompact .null = "null".toList := by rw [writeCompact]
    exact hcompact ▸ .compact
  exact (decodes_null inner _ hwritten).isSettled

theorem isSettled_boolean (b : Bool) :
    IsSettled (valueWith inner) (writeBoolean b) (some (.boolean b)) := by
  have hwritten : IsWritten (.boolean b) (writeBoolean b) := by
    have hcompact : writeCompact (.boolean b) = writeBoolean b := by rw [writeCompact]
    exact hcompact ▸ .compact
  exact (decodes_boolean inner b _ hwritten).isSettled

theorem isSettled_number {written : List Char} (h : IsNumeral written) :
    IsSettled (valueWith inner) written ((numberOf? written).map .number) := by
  obtain ⟨first, more, rfl, hfirst⟩ := h.exists_cons
  refine isSettled_of_first (not_isJsonBlank_of_starts_number hfirst)
    (ne_of_starts_number hfirst (by decide) (by decide)) fun rest hrest => ?_
  simp only
  rw [ite_of_starts_number hfirst]
  exact gives_map _ (gives_numeral h hrest)

end

theorem isSettled_valueWith {Inner : Outline → List Char → Prop} {inner : Option (Scan Json)}
    {part : Option (Outline → Option Json)}
    (hinner : inner = none ∧ part = none ∨ ∃ item value, inner = some item ∧ part = some value ∧
      ∀ o spelled, Inner o spelled → IsSettled item spelled (value o))
    {o : Outline} {spelled : List Char} (h : o.IsSpelledWith Inner spelled) :
    IsSettled (valueWith inner) spelled (o.valueWith? part) := by
  cases o with
  | null => exact h ▸ isSettled_null inner
  | boolean b => exact h ▸ isSettled_boolean inner b
  | number written =>
    obtain ⟨hnumeral, rfl⟩ := h
    exact isSettled_number inner hnumeral
  | text s => exact (isSpelling_text inner h).isSettled
  | array items =>
    obtain ⟨list, hlist, rfl⟩ := h
    refine isSettled_of_first (by decide) (by decide) fun rest _ => ?_
    rcases hinner with ⟨rfl, rfl⟩ | ⟨item, value, rfl, rfl, hparts⟩
    · exact refuses_failNext _ _
    · have hitems := gives_arrayItems hparts hlist rest
      exact gives_map _ (gives_bracketedArray hitems)
  | object members =>
    obtain ⟨list, hlist, rfl⟩ := h
    refine isSettled_of_first (by decide) (by decide) fun rest _ => ?_
    rcases hinner with ⟨rfl, rfl⟩ | ⟨item, value, rfl, rfl, hparts⟩
    · exact refuses_failNext _ _
    · have hmembers := gives_objectMembers hparts hlist rest
      have hgives := gives_map (fun members : SortedMap String Json => Json.object members.entries)
        (gives_bracketedObject hmembers)
      rw [Option.map_map] at hgives
      exact hgives

/-- Every text of an outline gives what the outline stands for. The parts of arrays and objects stand one
level down, so the induction is on the levels. -/
theorem isSettled_value {levels depth : Nat} {o : Outline} {spelled : List Char}
    (h : o.IsSpelled depth spelled) : IsSettled (value levels) spelled (o.value? levels) := by
  induction levels generalizing depth o spelled with
  | zero =>
    cases depth with
    | zero => exact h.elim
    | succ depth => exact isSettled_valueWith (.inl ⟨rfl, rfl⟩) h
  | succ levels ih =>
    cases depth with
    | zero => exact h.elim
    | succ depth => exact isSettled_valueWith (.inr ⟨_, _, rfl, rfl, fun _ _ h => ih h⟩) h

/-- A text is read as what its outline stands for, and refused if it stands for nothing. -/
theorem Outline.HasText.read_eq_ok_iff {o : Outline} {text : String} (h : o.HasText text) {j : Json} :
    Json.read text = .ok j ↔ o.value? deepest = some j := by
  obtain ⟨depth, blank, spelled, blank', hblank, hspelled, hblank', htext⟩ := h
  exact (isSettled_value hspelled).readWith_eq_ok_iff hblank hblank' htext

end HomeHub.Json
