/-!
# Entity ids

An entity id is a domain and an object name joined by a point, each of lower-case letters, digits
and underscores.
-/
namespace HomeHub.Device

def isIdChar (c : Char) : Bool := c.isLower || c.isDigit || c = '_'

def isIdPart (part : List Char) : Bool := !part.isEmpty && part.all isIdChar

/-- Only the first point separates. -/
def isEntityId (id : String) : Bool :=
  match id.toList.dropWhile (· ≠ '.') with
  | [] => false
  | _ :: object => isIdPart (id.toList.takeWhile (· ≠ '.')) && isIdPart object

end HomeHub.Device
