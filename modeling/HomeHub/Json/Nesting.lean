import HomeHub.Json.Text

/-!
# Arrays and objects

An array or object is read from behind its opening bracket, element by element; what an element is
read with is a parameter. How deep they may nest is counted down by the scanners of the elements.
-/
namespace HomeHub.Json

open Scan

/-- How many arrays and objects may stand inside each other. -/
def deepest : Nat := 127

/-- The letters of a word, from behind its first one. -/
def letters : List Char → Scan Unit
  | [] => pure ()
  | expected :: rest => do
    match ← peek with
    | none => failHere .endInValue
    | some c =>
      if c = expected then do
        skip
        letters rest
      else failNext .expectedWord

/-- Whether another element of an array follows; its comma is read. -/
def nextItem (first : Bool) : Scan Bool := do
  match ← peekToken with
  | none => failNext .endInList
  | some c =>
    if c = ']' then pure false
    else if first then pure true
    else if c = ',' then do
      skip
      match ← peekToken with
      | none => failNext .endInValue
      | some ']' => failNext .trailingComma
      | some _ => pure true
    else failNext .expectedListEnd

/-- Whether another member of an object follows; its comma is read. -/
def nextMember (first : Bool) : Scan Bool := do
  match ← peekToken with
  | none => failNext .endInObject
  | some c =>
    if c = '\x7d' then pure false
    else if first then
      if c = '"' then pure true else failNext .nameNotText
    else if c = ',' then do
      skip
      match ← peekToken with
      | none => failNext .endInValue
      | some '"' => pure true
      | some '\x7d' => failNext .trailingComma
      | some _ => failNext .nameNotText
    else failNext .expectedObjectEnd

def colon : Scan Unit := do
  match ← peekToken with
  | none => failNext .endInObject
  | some ':' => skip
  | some _ => failNext .expectedColon

/-- Reads the elements of an array one by one into a state. -/
def foldItems {σ : Type} (item : σ → Scan σ) (start : σ) : Scan σ :=
  loop (fun (first, s) => do
    if ← nextItem first then pure (.inl (false, ← item s)) else pure (.inr s)) (true, start)

/-- Reads the members of an object one by one into a state: a name, a colon and what `value` reads. -/
def foldMembers {κ σ : Type} (name : Scan κ) (value : σ → κ → Scan σ) (start : σ) : Scan σ :=
  loop (fun (first, s) => do
    if ← nextMember first then
      let k ← name
      pure (.inl (false, ← value s k))
    else pure (.inr s)) (true, start)

/-- A name of an object, from its quote on. -/
def memberName : Scan String := do
  skip
  textBody

def closeArray : Scan Unit := do
  match ← peekToken with
  | none => failNext .endInList
  | some ']' => skip
  | some ',' => do
    skip
    if (← peekToken) = some ']' then failNext .trailingComma else failNext .trailingCharacters
  | some _ => failNext .trailingCharacters

/-- Where a fault inside an array is placed: behind its closing bracket or next comma, if they come
next. -/
def placeOfArray (c : Cursor) : Place :=
  let c := c.skipBlanks
  match c.rest.head? with
  | some ']' => c.advance.place
  | some ',' => c.advance.skipBlanks.place
  | _ => c.place

def closeObject : Scan Unit := do
  match ← peekToken with
  | none => failNext .endInObject
  | some '\x7d' => skip
  | some ',' => failNext .trailingComma
  | some _ => failNext .trailingCharacters

/-- Where a fault inside an object is placed: behind its closing bracket if that comes next. -/
def placeOfObject (c : Cursor) : Place :=
  let c := c.skipBlanks
  if c.rest.head? = some '\x7d' then c.advance.place else c.place

/-- Reads what stands between brackets, the opening one ahead, and places its faults. -/
def bracketed {α : Type} (inside : Scan α) (close : Scan Unit) (placeOf : Cursor → Place) :
    Scan α := fun c =>
  match inside c.advance with
  | .done value c =>
    match close c with
    | .done () c => .done value c
    | .fault f c => .fault f c
    | .error e => .error e
  | .fault f c => .error ⟨.fault f, placeOf c⟩
  | .error e => .error e

def bracketedArray {α : Type} (inside : Scan α) : Scan α := bracketed inside closeArray placeOfArray

def bracketedObject {α : Type} (inside : Scan α) : Scan α :=
  bracketed inside closeObject placeOfObject

/-- Nothing but blanks may follow. -/
def finish : Scan Unit := do
  match ← peekToken with
  | none => pure ()
  | some _ => failNext .trailingCharacters

end HomeHub.Json
