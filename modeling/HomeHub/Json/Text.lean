import HomeHub.Json.Scan
import HomeHub.Number.Digits
import HomeHub.Text.ByteSize

/-!
# Reading JSON strings

The opening quote is behind the cursor. Escapes of characters beyond the basic plane come as pairs
of surrogates.
-/
namespace HomeHub.Json

open Scan

/-- The place after so many bytes, which may end inside a character. -/
def placeAfterBytes : (bytes : Nat) → List Char → Place → Place
  | 0, _, p => p
  | _, [], p => p
  | bytes, c :: rest, p =>
    if c.utf8Size ≤ bytes then placeAfterBytes (bytes - c.utf8Size) rest (p.after c)
    else ⟨p.line, p.column + bytes⟩
termination_by _ text => text.length

/-- Four hexadecimal digits, four bytes in any case. -/
def hexUnit : Scan Nat := fun c =>
  let size := Text.byteSize c.rest
  if size < 4 then .error ⟨.endInText, placeAfterBytes size c.rest c.place⟩
  else
    match c.rest.take 4 |>.mapM hexDigit? with
    | some digits =>
      .done (digits.foldl (fun n d => 16 * n + d) 0)
        ⟨c.rest.drop 4, ⟨c.place.line, c.place.column + 4⟩⟩
    | none => .error ⟨.invalidEscape, placeAfterBytes 4 c.rest c.place⟩

/-- The character ahead, which has to be there and the one asked for. -/
def surrogateMark (mark : Char) : Scan Unit := do
  match ← peek with
  | none => failHere .endInText
  | some c => if c = mark then skip else failNext .cutSurrogatePair

/-- The character of a Unicode escape, from behind its `u`. -/
def unicodeEscape : Scan Char := do
  let unit ← hexUnit
  if 0xDC00 ≤ unit ∧ unit ≤ 0xDFFF then failHere .loneSurrogate
  else if 0xD800 ≤ unit ∧ unit ≤ 0xDBFF then
    surrogateMark '\\'
    surrogateMark 'u'
    let low ← hexUnit
    if 0xDC00 ≤ low ∧ low ≤ 0xDFFF then
      pure (Char.ofNat ((unit - 0xD800) * 0x400 + (low - 0xDC00) + 0x10000))
    else failHere .loneSurrogate
  else pure (Char.ofNat unit)

def shortEscapes : List (Char × Char) :=
  [('"', '"'), ('\\', '\\'), ('/', '/'), ('b', '\x08'), ('f', '\x0c'), ('n', '\n'), ('r', '\r'),
    ('t', '\t')]

/-- The character of an escape, from behind its backslash. -/
def escape : Scan Char := do
  match ← peek with
  | none => failHere .endInText
  | some c =>
    match shortEscapes.lookup c with
    | some meant => do
      skip
      pure meant
    | none =>
      if c = 'u' then do
        skip
        unicodeEscape
      else failNext .invalidEscape

/-- One character of a string, or its end; the characters so far are kept in reverse. -/
def textStep (read : List Char) : Scan (List Char ⊕ String) := do
  match ← peek with
  | none => failHere .endInText
  | some '"' => do
    skip
    pure (.inr (String.ofList read.reverse))
  | some '\\' => do
    skip
    pure (.inl ((← escape) :: read))
  | some c =>
    if c < ' ' then failNext .controlCharacter
    else do
      skip
      pure (.inl (c :: read))

/-- The rest of a string, with its closing quote. -/
def textBody : Scan String := loop textStep []

/-- Skips one character of a string that nobody reads; its surrogates are not checked. -/
def skipTextStep (_ : Unit) : Scan (Unit ⊕ Unit) := do
  match ← peek with
  | none => failHere .endInText
  | some '"' => do
    skip
    pure (.inr ())
  | some '\\' => do
    skip
    match ← peek with
    | none => failHere .endInText
    | some c =>
      if (shortEscapes.lookup c).isSome then skip
      else if c = 'u' then do
        skip
        let _ ← hexUnit
      else failNext .invalidEscape
    pure (.inl ())
  | some c =>
    if c < ' ' then failHere .controlCharacter
    else do
      skip
      pure (.inl ())

/-- Skips the rest of a string, with its closing quote. -/
def skipTextBody : Scan Unit := loop skipTextStep ()

end HomeHub.Json
