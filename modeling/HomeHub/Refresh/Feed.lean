/-!
# Where forecasts come from

A fetch gives the text of a forecast or fails. A feed is a source whose answers are laid out ahead;
once they are used up, every fetch fails.
-/
namespace HomeHub

inductive FetchFault where
  | transport (message : String)
  | timeout (seconds : Nat)
  | status (url : String) (code : Nat)
  | content (message : String)
  deriving DecidableEq, Repr

def FetchFault.message : FetchFault → String
  | transport message => s!"HTTP request failed: {message}"
  | timeout seconds => s!"Request timed out after {seconds}s"
  | status url code => s!"{url} returned {code}"
  | content message => s!"Parse error: {message}"

abbrev Response := Except FetchFault String

structure Feed where
  pending : List Response
  /-- How many fetches there were. -/
  fetches : Nat

namespace Feed

def ofList (responses : List Response) : Feed := ⟨responses, 0⟩

def fetch (f : Feed) : Response × Feed :=
  match f.pending with
  | [] => (.error (.transport "no more responses"), ⟨[], f.fetches + 1⟩)
  | response :: rest => (response, ⟨rest, f.fetches + 1⟩)

end Feed

end HomeHub
