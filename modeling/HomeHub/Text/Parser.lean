import HomeHub.Text.Place

/-!
# Parsers

A parser takes a value from the front of a text and leaves the rest, or fails somewhere in it.
Alternatives are tried where a parser fails, unless it fails for good.
-/
namespace HomeHub

/-- How a parser fails: with the text that is left there, and whether for good. -/
structure ParseFailure where
  rest : List Char
  isFinal : Bool
  deriving DecidableEq, Repr

def Parser (α : Type) : Type := List Char → Except ParseFailure (α × List Char)

namespace Parser

variable {α β : Type}

instance : Monad Parser where
  pure value := fun text => .ok (value, text)
  bind first next := fun text =>
    match first text with
    | .error failure => .error failure
    | .ok (value, rest) => next value rest

def run (parser : Parser α) (text : List Char) : Option α :=
  match parser text with
  | .ok (value, []) => some value
  | _ => none

def fail : Parser α := fun text => .error ⟨text, false⟩

def ofOption : Option α → Parser α
  | none => fail
  | some value => pure value

/-- Makes every failure final. -/
def commit (parser : Parser α) : Parser α := fun text =>
  (parser text).mapError fun failure => { failure with isFinal := true }

/-- What a value stands for. Where it stands for nothing, the parser fails in front of it. -/
def refine (parser : Parser α) (read : α → Option β) : Parser β := fun text =>
  match parser text with
  | .error failure => .error failure
  | .ok (value, rest) =>
    match read value with
    | none => .error ⟨text, false⟩
    | some meaning => .ok (meaning, rest)

/-- As `refine`, but for good. -/
def demand (parser : Parser α) (read : α → Option β) : Parser β := fun text =>
  match parser text with
  | .error failure => .error failure
  | .ok (value, rest) =>
    match read value with
    | none => .error ⟨text, true⟩
    | some meaning => .ok (meaning, rest)

def orElse (first second : Parser α) : Parser α := fun text =>
  match first text with
  | .error ⟨_, false⟩ => second text
  | result => result

def optional (parser : Parser α) : Parser (Option α) := fun text =>
  match parser text with
  | .error ⟨_, false⟩ => .ok (none, text)
  | .error failure => .error failure
  | .ok (value, rest) => .ok (some value, rest)

/-- A value with the place where it starts. -/
def located (parser : Parser α) : Parser (Located α) := fun text =>
  (parser text).map fun (value, rest) => (⟨value, text.length⟩, rest)

def charThat (test : Char → Bool) : Parser Char := fun text =>
  match text with
  | c :: rest => if test c then .ok (c, rest) else fail text
  | [] => fail text

def char (expected : Char) : Parser Char := charThat (· == expected)

def word (expected : List Char) : Parser Unit := fun text =>
  if expected.isPrefixOf text then .ok ((), text.drop expected.length) else fail text

def takeAll (test : Char → Bool) : Parser (List Char) := fun text =>
  .ok (text.takeWhile test, text.dropWhile test)

def takeExactly (count : Nat) (test : Char → Bool) : Parser (List Char) := fun text =>
  let taken := text.take count
  if taken.length = count ∧ taken.all test then .ok (taken, text.drop count) else fail text

/-- As many values as there are; a parser that takes nothing ends them. -/
def manyFrom (parser : Parser α) (text : List Char) : Except ParseFailure (List α × List Char) :=
  match parser text with
  | .error ⟨_, false⟩ => .ok ([], text)
  | .error failure => .error failure
  | .ok (value, rest) =>
    if rest.length < text.length then
      (manyFrom parser rest).map fun (values, rest) => (value :: values, rest)
    else .ok ([], text)
termination_by text.length

def many (parser : Parser α) : Parser (List α) := manyFrom parser

def separated (parser : Parser α) (separator : Parser β) : Parser (List α) := do
  let first ← parser
  let rest ← many do
    let _ ← separator
    parser
  pure (first :: rest)

def between (left : Parser β) (right : Parser β) (parser : Parser α) : Parser α := do
  let _ ← left
  let value ← parser
  let _ ← right
  pure value

end Parser

end HomeHub
