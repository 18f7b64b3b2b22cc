import HomeHub.Text.Parser

/-!
# Blanks, line ends and comments
-/
namespace HomeHub.Toml.Grammar

open HomeHub.Parser

/-- Characters of comments and strings: the tab and all others that are no ASCII controls. -/
def isPlain (c : Char) : Bool := c = '\t' || (' ' ≤ c && c ≠ '\x7f')

def isBlank (c : Char) : Bool := c = ' ' || c = '\t'

def blanks : Parser Unit := do
  let _ ← takeAll isBlank

def lineEnd : Parser Unit := orElse (word ['\n']) (word ['\r', '\n'])

def comment : Parser Unit := do
  let _ ← char '#'
  let _ ← takeAll isPlain

/-- Blanks, line ends and comments, as they may stand inside an array. -/
def spacing : Parser Unit := do
  let _ ← many do
    orElse (orElse lineEnd comment) do
      let _ ← charThat isBlank

def lineStop : Parser Unit := fun text =>
  match text with
  | [] => .ok ((), [])
  | text => lineEnd text

/-- What may follow on the line of a statement. -/
def lineTail : Parser Unit := do
  blanks
  let _ ← optional comment
  lineStop

end HomeHub.Toml.Grammar
