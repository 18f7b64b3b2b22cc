import HomeHub.Number.Digits
import HomeHub.Text.ByteSize

/-!
# References in attribute values

A reference stands between an ampersand and a semicolon: one of the five XML entities, or the number
of a character. Positions count bytes in the value.
-/
namespace HomeHub.Markup

open Text (byteSize)

inductive NumberFault where
  | sign
  | empty
  | digit
  | tooLarge
  | zero
  | noCharacter (number : Nat)
  deriving DecidableEq, Repr

def NumberFault.message : NumberFault → String
  | sign => "unexpected number sign"
  | empty => "cannot parse integer from empty string"
  | digit => "invalid digit found in string"
  | tooLarge => "number too large to fit in target type"
  | zero => "0x0 character is not permitted in XML"
  | noCharacter number => s!"`{number}` is not a valid codepoint"

inductive ReferenceFault where
  | unterminated (start stop : Nat)
  | unknown (start stop : Nat) (name : String)
  | number (fault : NumberFault)
  deriving DecidableEq, Repr

def ReferenceFault.message : ReferenceFault → String
  | unterminated start stop =>
    s!"Error while escaping character at range {start}..{stop}: Cannot find ';' after '&'"
  | unknown start stop name => s!"at {start}..{stop}: unrecognized entity `{name}`"
  | number fault => s!"invalid character reference: {fault.message}"

/-- Numbers of characters are read as words of 32 bits. -/
def largestNumber : Nat := 4294967295

/-- Reads digits from left to right; the first one that is wrong or too much is reported. -/
def readDigits (base : Nat) : (sofar : Nat) → List Char → Except NumberFault Nat
  | sofar, [] => .ok sofar
  | sofar, c :: rest =>
    match digitIn? base c with
    | none => .error .digit
    | some d =>
      if largestNumber < sofar * base + d then .error .tooLarge
      else readDigits base (sofar * base + d) rest

def readNumber (text : List Char) : Except NumberFault Nat :=
  let (base, digits) := match text with
    | 'x' :: digits => (16, digits)
    | digits => (10, digits)
  match digits with
  | [] => .error .empty
  | c :: _ => if c = '+' ∨ c = '-' then .error .sign else readDigits base 0 digits

def characterOf (number : Nat) : Except NumberFault Char :=
  if number = 0 then .error .zero
  else if h : number.isValidChar then .ok (Char.ofNatAux number h)
  else .error (.noCharacter number)

def entities : List (String × Char) :=
  [("lt", '<'), ("gt", '>'), ("amp", '&'), ("apos", '\''), ("quot", '"')]

/-- The character of a reference that starts at a position, given what stands before its semicolon. -/
def resolve (position : Nat) (name : List Char) : Except ReferenceFault Char :=
  match name with
  | '#' :: number =>
    match readNumber number >>= characterOf with
    | .ok c => .ok c
    | .error fault => .error (.number fault)
  | name =>
    match entities.lookup (String.ofList name) with
    | some c => .ok c
    | none => .error (.unknown (position + 1) (position + 1 + byteSize name) (String.ofList name))

/-- Neither begins nor ends a reference. -/
def isNameChar (c : Char) : Bool := c ≠ '&' && c ≠ ';'

/-- What stands before the next semicolon and behind it, unless another ampersand comes first. -/
def splitReference (text : List Char) : Option (List Char × List Char) :=
  match text.dropWhile isNameChar with
  | ';' :: rest => some (text.takeWhile isNameChar, rest)
  | _ => none

theorem length_splitReference {text name rest : List Char}
    (h : splitReference text = some (name, rest)) : rest.length < text.length := by
  unfold splitReference at h
  have hle := (List.dropWhile_sublist isNameChar (l := text)).length_le
  split at h
  · rename_i tail ht
    rw [ht] at hle
    injection h with h
    injection h with _ h
    subst h
    exact hle
  · simp at h

/-- Replaces the references of a value of so many bytes, from a position on. -/
def unescapeFrom (size : Nat) (position : Nat) : List Char → Except ReferenceFault (List Char)
  | [] => .ok []
  | c :: rest =>
    if c = '&' then
      match h : splitReference rest with
      | none => .error (.unterminated position size)
      | some (name, tail) => do
        let character ← resolve position name
        let after ← unescapeFrom size (position + byteSize name + 2) tail
        .ok (character :: after)
    else do
      let after ← unescapeFrom size (position + c.utf8Size) rest
      .ok (c :: after)
termination_by text => text.length
decreasing_by
  · have := length_splitReference h
    simp
    omega
  · simp

def unescape (text : List Char) : Except ReferenceFault (List Char) :=
  unescapeFrom (byteSize text) 0 text

end HomeHub.Markup
