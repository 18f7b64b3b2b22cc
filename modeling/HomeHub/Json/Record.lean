import HomeHub.Json.Decoder

/-!
# Records as JSON objects

A record lists its fields with their names, what they do when missing, and how each is read and
written. It is written as an object in field order. It is read from an object with its fields in any
order and others ignored, or from an array with its fields by position.
-/
namespace HomeHub.Json

open Scan

/-- When a field may be missing. -/
inductive Presence where
  | required
  /-- Not in an array. -/
  | nullable
  | defaulted
  deriving DecidableEq, Repr

structure Field (α : Type) where
  name : String
  presence : Presence
  /-- Reads the value of the field and puts it into a record. -/
  read : Decoder (α → α)
  /-- The value of the field, none when it is left out. -/
  write : α → Option Json

structure Record (α : Type) where
  title : String
  /-- The record of default values. -/
  blank : α
  fields : List (Field α)

namespace Record

variable {α : Type}

def expected (r : Record α) : String := "struct " ++ r.title

/-- Reads fields by position from the rest of an array. -/
def fromItems (r : Record α) (levels : Nat) :
    List (Field α) → (first : Bool) → (index : Nat) → α → Scan α
  | [], _, _, a => pure a
  | field :: rest, first, index, a => do
    if ← nextItem first then
      let set ← field.read levels
      fromItems r levels rest false (index + 1) (set a)
    else if field.presence = .defaulted then fromItems r levels rest first (index + 1) a
    else raise (.wrongLength index s!"{r.expected} with {r.fields.length} elements")

/-- Reads one member into a record, given the names that came before. -/
def readMember (r : Record α) (levels : Nat) (state : α × List String) (name : String) :
    Scan (α × List String) := do
  match r.fields.find? (·.name = name) with
  | none => do
    colon
    skipValue
    pure state
  | some field =>
    if state.2.contains name then raise (.duplicateField name)
    else do
      colon
      let set ← field.read levels
      pure (set state.1, name :: state.2)

/-- Reads fields by name from the rest of an object. -/
def fromMembers (r : Record α) (levels : Nat) : Scan α := do
  let (a, seen) ← foldMembers memberName (r.readMember levels) (r.blank, [])
  match r.fields.find? fun field => field.presence = .required && !seen.contains field.name with
  | some field => raise (.missingField field.name)
  | none => pure a

def decoder (r : Record α) : Decoder α := fun levels => do
  match ← Decoder.token, levels with
  | '[', 0 => failNext .tooDeep
  | '[', levels + 1 => bracketedArray (r.fromItems levels r.fields true 0 r.blank)
  | '\x7b', 0 => failNext .tooDeep
  | '\x7b', levels + 1 => bracketedObject (r.fromMembers levels)
  | _, _ => Decoder.mismatch r.expected

def toJson (r : Record α) (a : α) : Json :=
  .object (r.fields.filterMap fun field => (field.write a).map fun v => (field.name, v))

end Record

end HomeHub.Json
