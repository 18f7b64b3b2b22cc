import HomeHub.Json.Printer
import HomeHub.Number.Shortest

/-!
# Where a forecast is for

The forecast service is asked by query parameters: latitude, longitude, and metres above sea level.
-/
namespace HomeHub

structure Coordinates where
  latitude : Binary64
  longitude : Binary64
  /-- Metres above sea level. -/
  elevation : Int64
  deriving DecidableEq, Repr

namespace Coordinates

def query (c : Coordinates) : List (String × String) :=
  [("lat", c.latitude.display), ("lon", c.longitude.display), ("msl", toString c.elevation.toInt)]

def toJson (c : Coordinates) : Json :=
  .object [("latitude", .number (.real c.latitude)), ("longitude", .number (.real c.longitude)),
    ("elevation", .number (.integer c.elevation.toInt))]

end Coordinates

end HomeHub
