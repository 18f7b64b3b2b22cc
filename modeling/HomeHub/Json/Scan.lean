import HomeHub.Fault
import HomeHub.Text.Place

/-!
# Scanning JSON text

A scanner reads from a cursor and ends in one of three ways: with a value and the cursor behind it,
with an error at a place of the text, or with a fault of the data whose place the enclosing array or
object decides. Lines count from one and columns in bytes.
-/
namespace HomeHub.Json

structure Cursor where
  rest : List Char
  place : Place
  deriving DecidableEq, Repr

namespace Cursor

def start (text : String) : Cursor := ⟨text.toList, ⟨1, 0⟩⟩

/-- The place one byte further, or the end of the text. -/
def nextPlace (c : Cursor) : Place :=
  match c.rest with
  | [] => c.place
  | '\n' :: _ => ⟨c.place.line + 1, 0⟩
  | _ :: _ => ⟨c.place.line, c.place.column + 1⟩

def advance (c : Cursor) : Cursor :=
  match c.rest with
  | [] => c
  | ch :: rest => ⟨rest, c.place.after ch⟩

def isJsonBlank (ch : Char) : Bool := ch = ' ' || ch = '\n' || ch = '\t' || ch = '\r'

def skipWhile (test : Char → Bool) (c : Cursor) : Cursor :=
  let skipped := c.rest.takeWhile test
  ⟨c.rest.dropWhile test, skipped.foldl Place.after c.place⟩

def skipBlanks (c : Cursor) : Cursor := c.skipWhile isJsonBlank

end Cursor

inductive Cause where
  | endInList
  | endInObject
  | endInText
  | endInValue
  | expectedColon
  | expectedListEnd
  | expectedObjectEnd
  | expectedWord
  | expectedValue
  | expectedQuote
  | invalidEscape
  | invalidNumber
  | numberOutOfRange
  | controlCharacter
  | nameNotText
  | nameNotNumeric
  | loneSurrogate
  | cutSurrogatePair
  | trailingComma
  | trailingCharacters
  | tooDeep
  | fault (fault : Fault)
  deriving DecidableEq, Repr

def Cause.message : Cause → String
  | endInList => "EOF while parsing a list"
  | endInObject => "EOF while parsing an object"
  | endInText => "EOF while parsing a string"
  | endInValue => "EOF while parsing a value"
  | expectedColon => "expected `:`"
  | expectedListEnd => "expected `,` or `]`"
  | expectedObjectEnd => "expected `,` or `\x7d`"
  | expectedWord => "expected ident"
  | expectedValue => "expected value"
  | expectedQuote => "expected `\"`"
  | invalidEscape => "invalid escape"
  | invalidNumber => "invalid number"
  | numberOutOfRange => "number out of range"
  | controlCharacter => "control character (\\u0000-\\u001F) found while parsing a string"
  | nameNotText => "key must be a string"
  | nameNotNumeric => "invalid value: expected key to be a number in quotes"
  | loneSurrogate => "lone leading surrogate in hex escape"
  | cutSurrogatePair => "unexpected end of hex escape"
  | trailingComma => "trailing comma"
  | trailingCharacters => "trailing characters"
  | tooDeep => "recursion limit exceeded"
  | fault f => f.message

structure Error where
  cause : Cause
  place : Place
  deriving DecidableEq, Repr

def Error.message (e : Error) : String :=
  s!"{e.cause.message} at line {e.place.line} column {e.place.column}"

/-- How a scan ends; a fault comes with the cursor where it was noticed. -/
inductive Outcome (α : Type) where
  | done (value : α) (cursor : Cursor)
  | fault (fault : Fault) (cursor : Cursor)
  | error (error : Error)
  deriving DecidableEq, Repr

def Scan (α : Type) : Type := Cursor → Outcome α

namespace Scan

instance : Monad Scan where
  pure value := fun c => .done value c
  bind first next := fun c =>
    match first c with
    | .done value c => next value c
    | .fault f c => .fault f c
    | .error e => .error e

def failHere {α : Type} (cause : Cause) : Scan α := fun c => .error ⟨cause, c.place⟩

def failNext {α : Type} (cause : Cause) : Scan α := fun c => .error ⟨cause, c.nextPlace⟩

/-- A fault of the data, not placed yet. -/
def raise {α : Type} (f : Fault) : Scan α := fun c => .fault f c

def cursor : Scan Cursor := fun c => .done c c

def peek : Scan (Option Char) := fun c => .done c.rest.head? c

def skip : Scan Unit := fun c => .done () c.advance

def blanks : Scan Unit := fun c => .done () c.skipBlanks

/-- Skips blanks and looks at what follows. -/
def peekToken : Scan (Option Char) := do
  blanks
  peek

/-- Puts the faults of a scan where it left the cursor. -/
def placed {α : Type} (scan : Scan α) : Scan α := fun c =>
  match scan c with
  | .fault f c => .error ⟨.fault f, c.place⟩
  | outcome => outcome

/-- Repeats a step at most `fuel` times, until it gives a result. -/
def iterate {σ α : Type} (step : σ → Scan (σ ⊕ α)) : (fuel : Nat) → σ → Scan α
  | 0, _ => failHere .endInValue
  | fuel + 1, s => do
    match ← step s with
    | .inl s => iterate step fuel s
    | .inr value => pure value

/-- Repeats a step until it gives a result. Each repetition moves the cursor on, so the characters
ahead bound their number. -/
def loop {σ α : Type} (step : σ → Scan (σ ⊕ α)) (start : σ) : Scan α := fun c =>
  iterate step (c.rest.length + 1) start c

end Scan

end HomeHub.Json
