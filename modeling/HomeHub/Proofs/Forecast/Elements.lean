import HomeHub.Forecast.Assembly
import HomeHub.Proofs.Markup.Forest
import Mathlib.Data.List.Forall2

/-!
# What the elements of a forecast say

The parts of a forecast by where its elements stand, without regard to the order in which tags come:
which elements are consulted, when one of them is sound, and which document they make together.
-/
namespace HomeHub.Forecast
open Markup

def isRoot (p : Element) : Bool := decide (p.around = [])

def isProduct (p : Element) : Bool := decide (p.around = ["weatherdata"] ∧ p.name = "product")

def isModel (p : Element) : Bool := decide (p.around = ["weatherdata", "meta"] ∧ p.name = "model")

def isTime (p : Element) : Bool := decide (p.around = ["weatherdata", "product"] ∧ p.name = "time")

/-- An element of any name inside a location. -/
def isVariable (p : Element) : Bool :=
  decide (p.around = ["weatherdata", "product", "time", "location"])

theorem not_isModel_of_isTime {p : Element} (h : isTime p) : ¬isModel p := by
  have haround := (of_decide_eq_true h).1
  simp [isModel, haround]

theorem not_isModel_of_isVariable {p : Element} (h : isVariable p) : ¬isModel p := by
  have haround := of_decide_eq_true h
  simp [isModel, haround]

/-- A tag has an attribute of a name, and it is the timestamp of an instant. -/
def HasTimestamp (tag : Tag) (name : String) (t : Instant) : Prop :=
  ∃ attributes text, tag.attributes = .ok attributes ∧ attributes.get? name = some text ∧
    Timestamp.read text.toList = .ok t

structure IsSound (p : Element) : Prop where
  rootName : isRoot p → p.name = "weatherdata"
  nextRun : isModel p → ∃ t, HasTimestamp p.tag "nextrun" t
  validFrom : isTime p → ∃ t, HasTimestamp p.tag "from" t
  validTo : isTime p → ∃ t, HasTimestamp p.tag "to" t
  attributes : isVariable p → ∃ attributes, p.tag.attributes = .ok attributes

/-- The elements that are consulted: of the models only the first. -/
def consulted : List Element → List Element
  | [] => []
  | p :: rest => if isModel p then p :: rest.filter fun q => !isModel q else p :: consulted rest

/-- A forest has an unsound element that is consulted, or a part of it is missing. -/
def IsRefused (f : Forest) : Prop :=
  (∃ p ∈ consulted (f.elements []), ¬IsSound p) ∨ (∀ p ∈ f.elements [], ¬isRoot p) ∨
    (∀ p ∈ f.elements [], ¬isModel p) ∨ ∀ p ∈ f.elements [], ¬isProduct p

/-- The entry of a time element: its ends, and under each name the attributes of the first element of
that name in its locations. -/
structure IsEntryOf (time : Element) (entry : Entry) : Prop where
  validFrom : HasTimestamp time.tag "from" entry.validFrom
  validTo : HasTimestamp time.tag "to" entry.validTo
  conditions (name : String) : entry.conditions.get? name =
    ((time.below.filter isVariable).find? fun v => v.name = name).bind fun v =>
      v.tag.attributes.toOption

/-- The document of a forest: the next run of the first model, and an entry for each time element in
document order. -/
structure IsDocumentOf (f : Forest) (document : Document) : Prop where
  nextRun : ∃ model, (f.elements []).find? isModel = some model ∧
    HasTimestamp model.tag "nextrun" document.nextRun
  entries : List.Forall₂ IsEntryOf ((f.elements []).filter isTime) document.entries

def faultOf {α : Type} : Except DocumentFault α → Option DocumentFault
  | .error fault => some fault
  | .ok _ => none

@[simp] theorem faultOf_error {α : Type} (fault : DocumentFault) :
    faultOf (.error fault : Except DocumentFault α) = some fault := rfl

@[simp] theorem faultOf_ok {α : Type} (a : α) : faultOf (.ok a) = none := rfl

theorem faultOf_eq_none_iff {α : Type} {e : Except DocumentFault α} :
    faultOf e = none ↔ ∃ a, e = .ok a := by
  cases e <;> simp

def faultAt (p : Element) : Option DocumentFault :=
  if isRoot p then if p.name = "weatherdata" then none else some (.unexpectedRoot p.name)
  else if isModel p then faultOf (Assembly.readModel p.tag)
  else if isTime p then faultOf (Assembly.readEntry p.tag)
  else if isVariable p then faultOf (Assembly.readAttributes p.tag)
  else none

theorem readModel_eq_ok_iff {tag : Tag} {t : Instant} :
    Assembly.readModel tag = .ok t ↔ HasTimestamp tag "nextrun" t := by
  unfold Assembly.readModel Assembly.readAttributes Assembly.require Assembly.readTimestamp
    HasTimestamp
  cases ha : tag.attributes with
  | error fault => simp [Except.mapError, bind, Except.bind]
  | ok attributes =>
    cases hn : attributes.get? "nextrun" with
    | none => simp [Except.mapError, bind, Except.bind, hn]
    | some text =>
      cases ht : Timestamp.read text.toList <;>
        simp [Except.mapError, bind, Except.bind, hn, ht]

theorem readEntry_eq_ok_iff {tag : Tag} {entry : Entry} :
    Assembly.readEntry tag = .ok entry ↔ HasTimestamp tag "from" entry.validFrom ∧
      HasTimestamp tag "to" entry.validTo ∧ entry.conditions = .empty := by
  unfold Assembly.readEntry Assembly.readAttributes Assembly.require Assembly.readTimestamp
    HasTimestamp
  obtain ⟨validFrom, validTo, conditions⟩ := entry
  cases ha : tag.attributes with
  | error fault => simp [Except.mapError, bind, Except.bind]
  | ok attributes =>
    cases hf : attributes.get? "from" with
    | none => simp [Except.mapError, bind, Except.bind, hf]
    | some start =>
      cases ht : attributes.get? "to" with
      | none => simp [Except.mapError, bind, Except.bind, hf, ht]
      | some ending =>
        cases hs : Timestamp.read start.toList <;> cases he : Timestamp.read ending.toList <;>
          simp [Except.mapError, bind, Except.bind, hf, ht, hs, he, eq_comm]

theorem readAttributes_eq_ok_iff {tag : Tag} {attributes : SortedMap String String} :
    Assembly.readAttributes tag = .ok attributes ↔ tag.attributes = .ok attributes := by
  unfold Assembly.readAttributes
  cases tag.attributes <;> simp [Except.mapError]

theorem faultAt_eq_none_iff {p : Element} : faultAt p = none ↔ IsSound p := by
  have hmodel : (∃ t, HasTimestamp p.tag "nextrun" t) ↔ ∃ t, Assembly.readModel p.tag = .ok t :=
    exists_congr fun t => readModel_eq_ok_iff.symm
  have hentry : ((∃ t, HasTimestamp p.tag "from" t) ∧ ∃ t, HasTimestamp p.tag "to" t) ↔
      ∃ entry, Assembly.readEntry p.tag = .ok entry := by
    constructor
    · rintro ⟨⟨s, hs⟩, e, he⟩
      exact ⟨⟨s, e, .empty⟩, readEntry_eq_ok_iff.mpr ⟨hs, he, rfl⟩⟩
    · rintro ⟨entry, h⟩
      obtain ⟨hs, he, -⟩ := readEntry_eq_ok_iff.mp h
      exact ⟨⟨_, hs⟩, _, he⟩
  have hvariable : (∃ attributes, p.tag.attributes = .ok attributes) ↔
      ∃ attributes, Assembly.readAttributes p.tag = .ok attributes :=
    exists_congr fun attributes => readAttributes_eq_ok_iff.symm
  have hsound : IsSound p ↔ (isRoot p → p.name = "weatherdata") ∧
      (isModel p → ∃ t, Assembly.readModel p.tag = .ok t) ∧
      (isTime p → ∃ entry, Assembly.readEntry p.tag = .ok entry) ∧
      (isVariable p → ∃ attributes, Assembly.readAttributes p.tag = .ok attributes) := by
    rw [← hmodel, ← hentry, ← hvariable]
    exact ⟨fun ⟨hr, hm, hs, he, hv⟩ => ⟨hr, hm, fun h => ⟨hs h, he h⟩, hv⟩,
      fun ⟨hr, hm, ht, hv⟩ => ⟨hr, hm, fun h => (ht h).1, fun h => (ht h).2, hv⟩⟩
  rw [hsound, faultAt]
  by_cases hr : isRoot p
  · have : p.around = [] := by simpa [isRoot] using hr
    simp [hr, isModel, isTime, isVariable, this]
  by_cases hm : isModel p
  · have : p.around = ["weatherdata", "meta"] := by simp_all [isModel]
    simp [hm, isRoot, isTime, isVariable, this, faultOf_eq_none_iff]
  by_cases ht : isTime p
  · have : p.around = ["weatherdata", "product"] := by simp_all [isTime]
    simp [ht, isRoot, isModel, isVariable, this, faultOf_eq_none_iff]
  by_cases hv : isVariable p
  · simp [hr, hm, ht, hv, faultOf_eq_none_iff]
  · simp [hr, hm, ht, hv]

end HomeHub.Forecast
