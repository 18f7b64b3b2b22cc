import HomeHub.Json.Decoder

/-!
# Readings

A reading is the text of the forecast as it stood there, or a number where the sensor wants one.
-/
namespace HomeHub

inductive Reading where
  | text (value : String)
  | number (value : Binary64)
  deriving DecidableEq, Repr

namespace Reading

/-- Texts are equal by character, numbers by value. -/
def same : Reading → Reading → Bool
  | text a, text b => a == b
  | number a, number b => a.sameNumber b
  | _, _ => false

def display : Reading → String
  | text value => value
  | number value => value.display

def toJson : Reading → Json
  | text value => .text value
  | number value => .number (.real value)

def decoder : Json.Decoder Reading := fun levels => do
  match ← Json.Decoder.any levels with
  | .text value => pure (.text value)
  | .number (.integer n) => pure (.number (.ofInt n))
  | .number (.real x) => pure (.number x)
  | _ => Json.Scan.raise (.noVariant "ScalarValue")

/-- Equality of what two sensors may hold. -/
def sameState : Option Reading → Option Reading → Bool
  | none, none => true
  | some a, some b => a.same b
  | _, _ => false

end Reading

end HomeHub
