import HomeHub.Toml.Value

/-!
# TOML documents

A document is a list of lines: assignments, headers, and those that say nothing. The assignments
behind a header belong to its table. A text that is no document is reported by the first place where
it is none.
-/
namespace HomeHub.Toml

/-- A table of the document with its assignments. -/
inductive Header where
  | root
  | table (path : List (Located String)) (key : String)
  | item (path : List (Located String)) (key : String)

inductive Statement where
  | assignment (a : Assignment)
  | header (h : Header)

structure Section where
  header : Located Header
  assignments : List (Located Assignment)

namespace Grammar

open HomeHub.Parser

/-- The table or the array of tables between brackets. -/
def bracketed (left right : List Char) (make : List (Located String) → String → Header) :
    Parser Header := do
  word left
  commit do
    let (path, key) ← key
    word right
    pure (make path key)

def header : Parser Header :=
  orElse (bracketed ['[', '['] [']', ']'] .item) (bracketed ['['] [']'] .table)

def statement : Parser (Option Statement) := fun text =>
  match text with
  | [] | '#' :: _ | '\n' :: _ | '\r' :: _ => .ok (none, text)
  | ['['] => fail text
  | '[' :: _ => (do pure (some (.header (← header))) : Parser (Option Statement)) text
  | text =>
    (do pure (some (.assignment (← assignment (value deepest)))) : Parser (Option Statement)) text

def line : Parser (Located (Option Statement)) := do
  blanks
  let said ← located statement
  lineTail
  pure said

end Grammar

/-- The statements of a text, and what is left where it cannot be read any further. -/
def statementsOf (text : List Char) : List (Located Statement) × Option (List Char) :=
  match Grammar.line text with
  | .error failure => ([], some failure.rest)
  | .ok (said, rest) =>
    if rest.length < text.length then
      let (more, stop) := statementsOf rest
      ((said.value.map fun s => ⟨s, said.left⟩).toList ++ more, stop)
    else ([], none)
termination_by text.length

/-- Gathers statements into sections, from the last statement to the first. -/
def sectionStep (statement : Located Statement) (state : List (Located Assignment) × List Section) :
    List (Located Assignment) × List Section :=
  match statement.value with
  | .assignment a => (⟨a, statement.left⟩ :: state.1, state.2)
  | .header h => ([], ⟨⟨h, statement.left⟩, state.1⟩ :: state.2)

/-- The sections of a document, the assignments in front of any header first. -/
def sectionsOf (statements : List (Located Statement)) : List Section :=
  let (first, rest) := statements.foldr sectionStep ([], [])
  ⟨⟨.root, 0⟩, first⟩ :: rest

def addSection (root : Members) (s : Section) : Except Nat Members :=
  let left := s.header.left
  match s.header.value with
  | .root => root.assignAll s.assignments
  | .table path key => root.addTable path key left s.assignments
  | .item path key => root.addItem path key left s.assignments

def byteOrderMark : Char := '\ufeff'

def withoutMark : List Char → List Char
  | c :: rest => if c = byteOrderMark then rest else c :: rest
  | [] => []

/-- Reads a document. The fault is what was left of the text where it is no document; lines that
were read come before the line that was not. -/
def read (text : List Char) : Except Nat (Located Toml) := do
  let (statements, stop) := statementsOf (withoutMark text)
  let root ← (sectionsOf statements).foldlM addSection []
  match stop with
  | some rest => .error rest.length
  | none => .ok ⟨.table (membersToToml root), text.length⟩

end HomeHub.Toml
