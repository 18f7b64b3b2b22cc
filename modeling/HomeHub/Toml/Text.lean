import HomeHub.Number.Digits
import HomeHub.Toml.Blank

/-!
# TOML strings

A basic string has escapes, a literal one is taken as written. Between three quotes a string may run
over several lines; a line break right behind the opening quotes is dropped, and every other one is
a single line feed.
-/
namespace HomeHub.Toml.Grammar

open HomeHub.Parser

def hexValue (digits : List Char) : Nat :=
  digits.foldl (fun n c => 16 * n + (hexDigit? c).getD 0) 0

def isHexDigit (c : Char) : Bool := (hexDigit? c).isSome

/-- A character by its code point in so many digits. -/
def codePoint (digits : Nat) : Parser Char :=
  refine (takeExactly digits isHexDigit) fun written =>
    if h : (hexValue written).isValidChar then some (Char.ofNatAux (hexValue written) h) else none

def escape : Parser Char := do
  let _ ← char '\\'
  let mark ← charThat fun _ => true
  commit <| match mark with
  | 'b' => pure '\x08'
  | 't' => pure '\t'
  | 'n' => pure '\n'
  | 'f' => pure '\x0c'
  | 'r' => pure '\r'
  | '"' => pure '"'
  | '\\' => pure '\\'
  | 'u' => codePoint 4
  | 'U' => codePoint 8
  | _ => fail

def basicChar : Parser Char := orElse (charThat fun c => isPlain c && c ≠ '"' && c ≠ '\\') escape

def literalChar : Parser Char := charThat fun c => isPlain c && c ≠ '\''

def basicText : Parser (List Char) := between (char '"') (commit (char '"')) (many basicChar)

def literalText : Parser (List Char) := between (char '\'') (char '\'') (many literalChar)

/-- A backslash at the end of a line, which removes the blanks and line ends up to what follows. -/
def joinedLine : Parser Unit := do
  let _ ← char '\\'
  blanks
  lineEnd
  let _ ← many do
    orElse lineEnd do
      let _ ← charThat isBlank

def lineFeed : Parser (List Char) := do
  lineEnd
  pure ['\n']

def single (content : Parser Char) : Parser (List Char) := do
  pure [← content]

/-- One or two quotes inside a string between three of them. -/
def innerQuotes (quote : Char) : Parser (List Char) := do
  let quotes ← takeAll (· == quote)
  if quotes.length = 1 ∨ quotes.length = 2 then pure quotes else fail

/-- The closing quotes, and up to two quotes more that end the content. -/
def closingQuotes (quote : Char) : Parser (List Char) := fun text =>
  let count := (text.takeWhile (· == quote)).length
  if count < 3 then fail text
  else .ok (List.replicate (min count 5 - 3) quote, text.drop (min count 5))

def blockText (quote : Char) (content : Parser (List Char)) : Parser (List Char) := do
  word [quote, quote, quote]
  let _ ← optional lineEnd
  let pieces ← many (orElse content (innerQuotes quote))
  let last ← commit (closingQuotes quote)
  pure (pieces.flatten ++ last)

def basicBlockContent : Parser (List Char) :=
  orElse (orElse lineFeed do
    joinedLine
    pure []) (single basicChar)

def literalBlockContent : Parser (List Char) := orElse lineFeed (single literalChar)

def string : Parser String := do
  let content ← orElse
    (orElse (blockText '"' basicBlockContent) basicText)
    (orElse (blockText '\'' literalBlockContent) literalText)
  pure (String.ofList content)

end HomeHub.Toml.Grammar
