import HomeHub.SortedMap
import HomeHub.Time.Instant

/-!
# Forecast documents

A forecast says when the next one is made and has an entry for each period. An entry holds variables
by name, and a variable holds the attribute texts as they were written.
-/
namespace HomeHub.Forecast

/-- The attributes of one forecast quantity, by name. -/
abbrev Variable := SortedMap String String

structure Entry where
  validFrom : Instant
  validTo : Instant
  conditions : SortedMap String Variable
  deriving DecidableEq, Repr

structure Document where
  nextRun : Instant
  entries : List Entry
  deriving DecidableEq, Repr

end HomeHub.Forecast
