import HomeHub.Number.Binary64
import HomeHub.Text.Place

/-!
# TOML values

The members of a table stand in the order in which the document completes them. What is inside of
arrays and tables is known with its place; a table without one of its own has that of its key.
-/
namespace HomeHub

inductive Toml where
  | text (value : String)
  | integer (value : Int)
  | real (value : Binary64)
  | boolean (value : Bool)
  /-- A date, a time, or both. No setting is one, so its fields are not kept. -/
  | moment
  | array (items : List (Located Toml))
  | table (members : List (String × Located Toml))
  deriving Repr, Inhabited

end HomeHub
