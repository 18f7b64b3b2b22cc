import HomeHub.Device.EntityId
import HomeHub.Json.Decoder
import HomeHub.Storage.File
import HomeHub.Text.Blank

/-!
# Device options

The options of a device are JSON members of two names: whether it is ignored, and how often it is
polled. Of several bad members the first in key order is reported.
-/
namespace HomeHub.Device

abbrev Options := SortedMap String Json

inductive DataFault where
  | notObject
  | unknownOption (name : String)
  | badValue (name : String) (value : Json)
  deriving DecidableEq, Repr

def DataFault.message : DataFault → String
  | notObject => "expected a dictionary"
  | unknownOption name => s!"extra keys not allowed @ data['{name}']"
  | badValue name value => s!"invalid value for data['{name}']: {value.compact}"

inductive DeviceFault where
  | invalidJson
  | invalidId (id : String)
  | invalidData (fault : DataFault)
  | storage (fault : StorageFault)
  | unreadable (fault : Json.Error)
  deriving DecidableEq, Repr

namespace DeviceFault

def message : DeviceFault → String
  | invalidJson => "Invalid JSON specified"
  | invalidId id => s!"Key malformed: invalid entity id {id}"
  | invalidData fault => s!"Message malformed: {fault.message}"
  | storage fault => s!"device config I/O failed: {fault.message}"
  | unreadable fault => s!"device config is not valid JSON: {fault.message}"

def isClientFault : DeviceFault → Bool
  | invalidJson | invalidId _ | invalidData _ => true
  | storage _ | unreadable _ => false

end DeviceFault

/-- The words that stand for yes or no, in any case. -/
def booleanWords : List String :=
  ["1", "true", "yes", "on", "enable", "0", "false", "no", "off", "disable"]

def isBooleanLike : Json → Bool
  | .boolean _ | .number _ => true
  | .text word => booleanWords.contains (String.ofList (word.toList.map Char.toLower))
  | _ => false

/-- An integer of 64 bits with an optional sign. -/
def readInteger? (text : List Char) : Option Int :=
  let (negative, digits) := Decimal.splitSign text
  if digits.isEmpty || !digits.all Char.isDigit then none
  else
    let n : Int := if negative then -(digitsValue digits : Int) else digitsValue digits
    if -9223372036854775808 ≤ n ∧ n ≤ 9223372036854775807 then some n else none

/-- Fractions are cut off first, so a number above -1 counts as not negative. -/
def isPollingIntensity : Json → Bool
  | .boolean _ => true
  | .number (.integer n) => 0 ≤ n
  | .number (.real x) => x.isFinite && 0 ≤ x.integerPart
  | .text text =>
    match readInteger? (Text.trim text.toList) with
    | some n => 0 ≤ n
    | none => false
  | _ => false

/-- What each option accepts; none for an unknown name. -/
def acceptance? (name : String) : Option (Json → Bool) :=
  if name = "ignored" then some isBooleanLike
  else if name = "polling_intensity" then some isPollingIntensity
  else none

def memberFault? (name : String) (value : Json) : Option DataFault :=
  match acceptance? name with
  | none => some (.unknownOption name)
  | some accepts => if accepts value then none else some (.badValue name value)

def readOptions (data : Json) : Except DataFault Options :=
  match data with
  | .object members =>
    let options := SortedMap.ofList members
    match options.entries.findSome? fun (name, value) => memberFault? name value with
    | some fault => .error fault
    | none => .ok options
  | _ => .error .notObject

end HomeHub.Device
