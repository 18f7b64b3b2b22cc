import HomeHub.Json.Basic

/-!
# Writing JSON

The compact form has no blanks; the indented form has one element a line, two spaces for each level
and nothing between the brackets of an empty array or object.
-/
namespace HomeHub.Json

/-- Exponents from -5 to 15 are written out, a whole number keeps its point, and of two equally near
numerals the even one is taken. -/
def numeralLayout : NumeralLayout := ⟨some (-5, 15), true, .toEven⟩

/-- NaN and infinities have no numeral and are written as null. -/
def writeNumber : JsonNumber → List Char
  | .integer n => (toString n).toList
  | .real x => if x.isFinite then numeralLayout.writeBinary64 x else "null".toList

def hexDigit (n : Nat) : Char := Nat.digitChar n

def writeChar (c : Char) : List Char :=
  if c = '"' ∨ c = '\\' then ['\\', c]
  else if c = '\x08' then ['\\', 'b']
  else if c = '\x0c' then ['\\', 'f']
  else if c = '\n' then ['\\', 'n']
  else if c = '\r' then ['\\', 'r']
  else if c = '\t' then ['\\', 't']
  else if c < ' ' then ['\\', 'u', '0', '0', hexDigit (c.toNat / 16), hexDigit (c.toNat % 16)]
  else [c]

def writeText (text : String) : List Char := '"' :: (text.toList.flatMap writeChar ++ ['"'])

def writeBoolean (b : Bool) : List Char := if b then "true".toList else "false".toList

mutual

def writeCompact : Json → List Char
  | null => "null".toList
  | boolean b => writeBoolean b
  | number n => writeNumber n
  | text s => writeText s
  | array items => '[' :: writeCompactItems items ++ [']']
  | object members => '\x7b' :: writeCompactMembers members ++ ['\x7d']

def writeCompactItems : List Json → List Char
  | [] => []
  | [item] => writeCompact item
  | item :: rest => writeCompact item ++ ',' :: writeCompactItems rest

def writeCompactMembers : List (String × Json) → List Char
  | [] => []
  | [(name, value)] => writeText name ++ ':' :: writeCompact value
  | (name, value) :: rest =>
    writeText name ++ ':' :: writeCompact value ++ ',' :: writeCompactMembers rest

end

/-- A line break and the blanks of a level. -/
def newLine (level : Nat) : List Char := '\n' :: List.replicate (2 * level) ' '

mutual

def writeIndented (level : Nat) : Json → List Char
  | null => "null".toList
  | boolean b => writeBoolean b
  | number n => writeNumber n
  | text s => writeText s
  | array [] => ['[', ']']
  | array items => '[' :: writeIndentedItems (level + 1) items ++ newLine level ++ [']']
  | object [] => ['\x7b', '\x7d']
  | object members =>
    '\x7b' :: writeIndentedMembers (level + 1) members ++ newLine level ++ ['\x7d']

def writeIndentedItems (level : Nat) : List Json → List Char
  | [] => []
  | [item] => newLine level ++ writeIndented level item
  | item :: rest =>
    newLine level ++ writeIndented level item ++ ',' :: writeIndentedItems level rest

def writeIndentedMembers (level : Nat) : List (String × Json) → List Char
  | [] => []
  | [(name, value)] =>
    newLine level ++ writeText name ++ ':' :: ' ' :: writeIndented level value
  | (name, value) :: rest =>
    newLine level ++ writeText name ++ ':' :: ' ' :: writeIndented level value ++
      ',' :: writeIndentedMembers level rest

end

def compact (j : Json) : String := String.ofList (writeCompact j)

def indented (j : Json) : String := String.ofList (writeIndented 0 j)

end HomeHub.Json
