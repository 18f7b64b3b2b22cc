import HomeHub.Text.Visible

/-!
# Texts quoted in messages

A quoted text stands between double quotes. Tab, line breaks, quotes, backslashes and NUL have short
escapes, and any other character that does not show by itself is spelled by its code point.
-/
namespace HomeHub.Text

/-- A character spelled by its code point in lower-case hexadecimal. -/
def spelled (c : Char) : List Char :=
  ['\\', 'u', '\x7b'] ++ Nat.toDigits 16 c.toNat ++ ['\x7d']

def quoteChar (c : Char) : List Char :=
  if c = '\x00' then ['\\', '0']
  else if c = '\t' then ['\\', 't']
  else if c = '\r' then ['\\', 'r']
  else if c = '\n' then ['\\', 'n']
  else if c = '"' ∨ c = '\\' then ['\\', c]
  else if ' ' ≤ c ∧ c ≤ '~' then [c]
  else if isVisible c then [c]
  else spelled c

def quoted (text : String) : String :=
  String.ofList ('"' :: (text.toList.flatMap quoteChar ++ ['"']))

end HomeHub.Text
