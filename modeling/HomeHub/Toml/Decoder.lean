import HomeHub.Fault
import HomeHub.Number.Shortest
import HomeHub.Toml.Basic

/-!
# Reading TOML as values of known types
-/
namespace HomeHub.Toml

/-- Numbers in faults are as people see them, but always with a point. -/
def faultLayout : NumeralLayout := { displayLayout with keepsPoint := true }

/-- What a value is called in faults. -/
def found : Toml → Found
  | .text value => .text value
  | .integer value => .integer value
  | .real value => .real (String.ofList (faultLayout.writeBinary64 value))
  | .boolean value => .boolean value
  | .array _ => .sequence
  | .moment | .table _ => .map

/-- A fault, and what was left of the text at the value that has it, if that is known already. -/
structure Misfit where
  fault : Fault
  left : Option Nat
  deriving DecidableEq, Repr

/-- A fault inside a value has the place of the value, unless it has one of its own. -/
def Misfit.within (m : Misfit) (v : Located Toml) : Misfit := ⟨m.fault, some (m.left.getD v.left)⟩

def Decoder (α : Type) : Type := Located Toml → Except Misfit α

namespace Decoder

variable {α β : Type}

def mismatch (v : Located Toml) (expected : String) : Except Misfit α :=
  .error ⟨.wrongType v.value.found expected, some v.left⟩

/-- A string, called `expected` in faults. -/
def textAs (expected : String) : Decoder String := fun v =>
  match v.value with
  | .text value => .ok value
  | _ => mismatch v expected

def text : Decoder String := textAs "a string"

def integerWithin (low high : Int) (expected : String) : Decoder Int := fun v =>
  match v.value with
  | .integer n =>
    if low ≤ n ∧ n ≤ high then .ok n else .error ⟨.outOfRange n expected, some v.left⟩
  | _ => mismatch v expected

def word16 : Decoder UInt16 := fun v =>
  (integerWithin 0 65535 "u16" v).map fun n => UInt16.ofNat n.toNat

def signed64 : Decoder Int64 := fun v =>
  (integerWithin (-9223372036854775808) 9223372036854775807 "i64" v).map Int64.ofInt

/-- A double; integers are rounded. -/
def real : Decoder Binary64 := fun v =>
  match v.value with
  | .real x => .ok x
  | .integer n => .ok (.ofInt n)
  | _ => mismatch v "f64"

/-- There is no null, so a value that is there is some value. -/
def optional (decoder : Decoder α) : Decoder (Option α) := fun v => (decoder v).map some

def list (item : Decoder α) : Decoder (List α) := fun v =>
  match v.value with
  | .array items => (items.mapM item).mapError fun misfit => misfit.within v
  | _ => mismatch v "a sequence"

end Decoder

end HomeHub.Toml
