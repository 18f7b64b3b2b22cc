import HomeHub.Toml.Moment
import HomeHub.Toml.Numeral
import HomeHub.Toml.Table

/-!
# Keys and values

An array may run over several lines and have a comma behind its last item; an inline table stands on
one line and has none. The first character of a value tells what it is.
-/
namespace HomeHub.Toml.Grammar

open HomeHub.Parser

/-- Letters, digits, underscores and dashes need no quotes in a key. -/
def isKeyChar (c : Char) : Bool := c.isAlphanum || c = '_' || c = '-'

def bareKey : Parser (List Char) := refine (takeAll isKeyChar) fun key =>
  if key.isEmpty then none else some key

def simpleKey : Parser String := do
  let key ← orElse (orElse basicText literalText) bareKey
  pure (String.ofList key)

/-- The most parts that a key has, and the most brackets that are open at once. -/
def deepest : Nat := 79

/-- The tables of a dotted key and the key in the last of them. -/
def key : Parser (List (Located String) × String) :=
  refine (separated (between blanks blanks (located simpleKey)) (char '.')) fun parts =>
    if parts.length ≤ deepest then
      parts.getLast?.map fun last => (parts.dropLast, last.value)
    else none

def assignment (value : Parser Toml) : Parser Assignment := do
  let (path, key) ← key
  commit do
    let _ ← char '='
    blanks
    let value ← located value
    pure ⟨path, key, value⟩

/-- The items of an array, from behind its opening bracket. -/
def arrayItems (value : Parser Toml) : Parser (List (Located Toml)) := do
  let items ← optional do
    let items ← separated (between spacing spacing (located value)) (char ',')
    let _ ← optional (char ',')
    pure items
  spacing
  let _ ← char ']'
  pure (items.getD [])

/-- The assignments of an inline table, from behind its opening bracket. -/
def inlineAssignments (value : Parser Toml) : Parser (List (Located Assignment)) := do
  let assignment := located (assignment value)
  let assignments ← optional (separated (between blanks blanks assignment) (char ','))
  blanks
  pure (assignments.getD [])

def number : Parser Toml :=
  orElse
    (do
      moment
      pure .moment)
    (orElse (do pure (.real (← float))) (do pure (.integer (← integer))))

def scalar : Parser Toml := fun text =>
  match text with
  | '"' :: _ | '\'' :: _ => (do pure (.text (← string)) : Parser Toml) text
  | 't' :: _ =>
    (do
      word ['t', 'r', 'u', 'e']
      pure (.boolean true) : Parser Toml) text
  | 'f' :: _ =>
    (do
      word ['f', 'a', 'l', 's', 'e']
      pure (.boolean false) : Parser Toml) text
  | text => number text

/-- A value in which so many brackets may be open. -/
def value : (levels : Nat) → Parser Toml
  | 0 => scalar
  | levels + 1 => fun text =>
    match text with
    | '[' :: rest => commit (do pure (.array (← arrayItems (value levels)))) rest
    | '\x7b' :: rest =>
      commit (do
        let table ← refine (inlineAssignments (value levels)) tableOf?
        let _ ← char '\x7d'
        pure table) rest
    | text => scalar text

end HomeHub.Toml.Grammar
