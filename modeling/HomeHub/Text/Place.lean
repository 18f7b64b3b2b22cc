import HomeHub.Text.ByteSize

/-!
# Places in a text

A place is known by its line and its column, or by the characters that are left there. Lines count
from one.
-/
namespace HomeHub

structure Place where
  line : Nat
  column : Nat
  deriving DecidableEq, Repr

namespace Place

/-- The place behind a character, with columns in bytes; a line break starts the next line. -/
def after (p : Place) (c : Char) : Place :=
  if c = '\n' then ⟨p.line + 1, 0⟩ else ⟨p.line, p.column + c.utf8Size⟩

/-- What stands behind the last line break. -/
def lastLine (text : List Char) : List Char := (text.reverse.takeWhile (· ≠ '\n')).reverse

/-- The place where so many characters of a text are left. Columns count characters from one, or
bytes where the next character is not ASCII. The end of a text belongs to its last line, together
with the line break that may close it. -/
def ofLeft (text : List Char) (left : Nat) : Place :=
  let front := text.take (text.length - left)
  match text.drop front.length with
  | [] => ⟨text.dropLast.count '\n' + 1, (lastLine text.dropLast).length + 2⟩
  | next :: _ =>
    let line := lastLine front
    let column := if next.utf8Size = 1 then line.length else Text.byteSize line
    ⟨front.count '\n' + 1, column + 1⟩

end Place

/-- Something read from a text, with the number of characters that were left where it starts. -/
structure Located (α : Type) where
  value : α
  left : Nat
  deriving Repr, Inhabited

end HomeHub
