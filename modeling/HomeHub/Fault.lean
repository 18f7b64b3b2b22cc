import HomeHub.Text.Quoted

/-!
# Why well-formed data does not fit

Both data formats report the same faults when a value is not of the kind that its place asks for.
-/
namespace HomeHub

/-- What stood where something else was expected. -/
inductive Found where
  | null
  | boolean (value : Bool)
  | integer (value : Int)
  | real (numeral : String)
  | text (value : String)
  | sequence
  | map
  deriving DecidableEq, Repr

def Found.describe : Found → String
  | null => "null"
  | boolean value => s!"boolean `{value}`"
  | integer value => s!"integer `{value}`"
  | real numeral => s!"floating point `{numeral}`"
  | text value => s!"string {Text.quoted value}"
  | sequence => "sequence"
  | map => "map"

inductive Fault where
  | wrongType (found : Found) (expected : String)
  | outOfRange (value : Int) (expected : String)
  | missingField (name : String)
  | duplicateField (name : String)
  | wrongLength (length : Nat) (expected : String)
  | unknownVariant (name : String) (known : List String)
  | noVariant (name : String)
  | unknownSensorKind (key : String)
  deriving DecidableEq, Repr

namespace Fault

def unknownSensorMessage (key : String) : String := s!"unknown sensor type '{key}'"

def message : Fault → String
  | wrongType found expected => s!"invalid type: {found.describe}, expected {expected}"
  | outOfRange value expected =>
    s!"invalid value: {(Found.integer value).describe}, expected {expected}"
  | missingField name => s!"missing field `{name}`"
  | duplicateField name => s!"duplicate field `{name}`"
  | wrongLength length expected => s!"invalid length {length}, expected {expected}"
  | unknownVariant name known =>
    let choice := ", ".intercalate (known.map fun k => s!"`{k}`")
    s!"unknown variant `{name}`, expected one of {choice}"
  | noVariant name => s!"data did not match any variant of untagged enum {name}"
  | unknownSensorKind key => unknownSensorMessage key

end Fault

end HomeHub
