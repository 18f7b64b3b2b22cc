import HomeHub.Forecast.Document
import HomeHub.Markup.Event
import HomeHub.Time.Timestamp

/-!
# Forecast documents from tags

A forecast is assembled tag by tag. The path of open elements tells what a tag means: the first
model says when the next forecast is made, a time element is an entry, and the elements in its
locations are its variables, of which the first of each name counts.
-/
namespace HomeHub.Forecast

inductive DocumentFault where
  | text (fault : Markup.TextFault)
  | attributes (fault : Markup.AttributeFault)
  | timestamp (fault : TimestampFault)
  | unexpectedRoot (name : String)
  | modelWithoutNextRun
  | entryWithoutStart
  | entryWithoutEnd
  | unfinished
  | noRoot
  | noModel
  | noProduct
  deriving DecidableEq, Repr

def DocumentFault.message : DocumentFault → String
  | text fault => fault.message
  | attributes fault => fault.message
  | timestamp fault => s!"invalid timestamp: {fault.message}"
  | unexpectedRoot name => s!"unexpected root element '{name}'"
  | modelWithoutNextRun => "model has no nextrun"
  | entryWithoutStart => "time entry has no 'from'"
  | entryWithoutEnd => "time entry has no 'to'"
  | unfinished => "unexpected end of document"
  | noRoot => "missing weatherdata element"
  | noModel => "missing meta/model"
  | noProduct => "missing product element"

structure Assembly where
  /-- The names of the open elements, the innermost first. -/
  path : List String
  sawRoot : Bool
  sawProduct : Bool
  sawModel : Bool
  nextRun : Option Instant
  current : Option Entry
  entries : List Entry
  deriving DecidableEq, Repr

namespace Assembly

def start : Assembly := ⟨[], false, false, false, none, none, []⟩

/-- The paths, innermost first, at which tags have a meaning. -/
def rootPath : List String := ["weatherdata"]

def metaPath : List String := ["meta", "weatherdata"]

def productPath : List String := ["product", "weatherdata"]

def locationPath : List String := ["location", "time", "product", "weatherdata"]

def readAttributes (tag : Markup.Tag) : Except DocumentFault (SortedMap String String) :=
  tag.attributes.mapError .attributes

def readTimestamp (text : String) : Except DocumentFault Instant :=
  (Timestamp.read text.toList).mapError .timestamp

def require (attributes : SortedMap String String) (name : String) (fault : DocumentFault) :
    Except DocumentFault String :=
  match attributes.get? name with
  | some text => .ok text
  | none => .error fault

def readModel (tag : Markup.Tag) : Except DocumentFault Instant := do
  let attributes ← readAttributes tag
  readTimestamp (← require attributes "nextrun" .modelWithoutNextRun)

/-- An entry without variables; both attributes are looked up before either is read. -/
def readEntry (tag : Markup.Tag) : Except DocumentFault Entry := do
  let attributes ← readAttributes tag
  let validFrom ← require attributes "from" .entryWithoutStart
  let validTo ← require attributes "to" .entryWithoutEnd
  let validFrom ← readTimestamp validFrom
  let validTo ← readTimestamp validTo
  .ok ⟨validFrom, validTo, .empty⟩

/-- Adds a variable unless the entry has one of its name. -/
def addVariable (entry : Entry) (name : String) (v : Variable) : Entry :=
  { entry with conditions := entry.conditions.insertNew name v }

/-- What a start tag of a name means where it stands. -/
def interpret (a : Assembly) (name : String) (tag : Markup.Tag) : Except DocumentFault Assembly :=
  if a.path = [] then
    if name = "weatherdata" then .ok { a with sawRoot := true } else .error (.unexpectedRoot name)
  else if a.path = rootPath ∧ name = "product" then .ok { a with sawProduct := true }
  else if a.path = metaPath ∧ name = "model" then
    if a.sawModel then .ok a
    else do .ok { a with sawModel := true, nextRun := some (← readModel tag) }
  else if a.path = productPath ∧ name = "time" then do
    .ok { a with current := some (← readEntry tag) }
  else if a.path = locationPath then do
    let v ← readAttributes tag
    .ok { a with current := a.current.map fun entry => addVariable entry name v }
  else .ok a

/-- Leaves the innermost element; the end of a time element completes its entry. -/
def leave (a : Assembly) : Assembly :=
  match a.path with
  | [] => a
  | name :: outer =>
    if name = "time" ∧ outer = productPath then
      { a with path := outer, current := none, entries := a.entries ++ a.current.toList }
    else { a with path := outer }

def enter (a : Assembly) (tag : Markup.Tag) : Except DocumentFault Assembly := do
  let name := String.ofList tag.name
  let a ← a.interpret name tag
  .ok { a with path := name :: a.path }

def step (a : Assembly) : Markup.Event → Except DocumentFault Assembly
  | .starting tag => a.enter tag
  | .empty tag => do .ok (← a.enter tag).leave
  | .ending => .ok a.leave

def finish (a : Assembly) : Except DocumentFault Document :=
  if a.path ≠ [] then .error .unfinished
  else if !a.sawRoot then .error .noRoot
  else
    match a.nextRun with
    | none => .error .noModel
    | some nextRun => if a.sawProduct then .ok ⟨nextRun, a.entries⟩ else .error .noProduct

end Assembly

/-- Reads a forecast; a fault of the text counts only if no tag before it is at fault. -/
def Document.read (text : String) : Except DocumentFault Document := do
  let tags := Markup.Events.ofText text.toList
  let assembled ← tags.events.foldlM Assembly.step .start
  match tags.fault with
  | some fault => .error (.text fault)
  | none => assembled.finish

end HomeHub.Forecast
