import HomeHub.Number.Decimal
import HomeHub.Toml.Text

/-!
# TOML numbers

Single underscores may stand between digits. Integers have to fit in 64 bits, and a number that is
too large for a double is refused unless it is negative.
-/
namespace HomeHub.Toml.Grammar

open HomeHub.Parser

/-- Digits without the underscores between them. -/
def digitGroup (test : Char → Bool) : Parser (List Char) := do
  let first ← charThat test
  let rest ← many <| orElse (charThat test) do
    let _ ← char '_'
    commit (charThat test)
  pure (first :: rest)

/-- Digits of a whole number, without zeros at the front. -/
def wholePart : Parser (List Char) := fun text =>
  match text with
  | '0' :: rest => .ok (['0'], rest)
  | text => digitGroup Char.isDigit text

def sign : Parser (List Char) := do
  match ← optional (charThat fun c => c = '+' || c = '-') with
  | some c => pure [c]
  | none => pure []

def exponent : Parser (List Char) := do
  let e ← charThat fun c => c = 'e' || c = 'E'
  let sign ← sign
  let digits ← commit (digitGroup Char.isDigit)
  pure (e :: (sign ++ digits))

/-- A point with digits behind it, and perhaps an exponent. -/
def fraction : Parser (List Char) := do
  let point ← char '.'
  let digits ← commit (digitGroup Char.isDigit)
  let exponent ← optional exponent
  pure (point :: (digits ++ exponent.getD []))

/-- The numeral of a number with a point or an exponent. -/
def pointedNumeral : Parser (List Char) := do
  let sign ← sign
  let whole ← wholePart
  let tail ← orElse exponent fraction
  pure (sign ++ whole ++ tail)

def pointed : Parser Binary64 :=
  demand pointedNumeral fun numeral => (Binary64.ofText? numeral).filter (· ≠ .infinity false)

def named : Parser Binary64 := do
  let sign ← sign
  orElse
    (do
      word ['i', 'n', 'f']
      ofOption (Binary64.ofText? (sign ++ ['i', 'n', 'f'])))
    (do
      word ['n', 'a', 'n']
      ofOption (Binary64.ofText? (sign ++ ['n', 'a', 'n'])))

def float : Parser Binary64 := orElse pointed named

/-- An integer, if it fits in 64 bits with its sign. -/
def fitting? (n : Int) : Option Int :=
  if -9223372036854775808 ≤ n ∧ n ≤ 9223372036854775807 then some n else none

/-- The digits of a number in another base than ten, behind the mark of the base. -/
def markedDigits (mark : Char) (base : Nat) : Parser (List Char) := do
  word ['0', mark]
  commit (digitGroup fun c => (digitIn? base c).isSome)

def marked (mark : Char) (base : Nat) : Parser Int :=
  demand (markedDigits mark base) fun digits =>
    fitting? (digits.foldl (fun n c => base * n + ((digitIn? base c).getD 0 : Nat)) 0)

/-- The sign and the digits of a number in base ten. -/
def signedDigits : Parser (List Char × List Char) := do
  let sign ← sign
  let digits ← wholePart
  pure (sign, digits)

def decimal : Parser Int :=
  demand signedDigits fun (sign, digits) =>
    fitting? (if sign = ['-'] then -(digitsValue digits : Int) else digitsValue digits)

def integer : Parser Int :=
  orElse (orElse (marked 'x' 16) (marked 'o' 8)) (orElse (marked 'b' 2) decimal)

end HomeHub.Toml.Grammar
