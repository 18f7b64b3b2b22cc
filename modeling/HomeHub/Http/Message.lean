/-!
# Requests and responses

What the server takes and gives. Header names are in lower case, and a header may be given several
times.
-/
namespace HomeHub.Http

inductive Method where
  | get
  | head
  | post
  | options
  | other (name : String)
  deriving DecidableEq, Repr

/-- Methods are named in upper case. -/
def Method.ofName (name : String) : Method :=
  if name = "GET" then .get
  else if name = "HEAD" then .head
  else if name = "POST" then .post
  else if name = "OPTIONS" then .options
  else .other name

abbrev Headers := List (String × String)

structure Request where
  method : Method
  target : String
  headers : Headers
  body : ByteArray

def Headers.valuesOf (headers : Headers) (name : String) : List String :=
  (headers.filter fun h => h.1 = name).map Prod.snd

structure Response where
  status : Nat
  headers : Headers
  /-- The text of the body before any content coding. -/
  body : String
  deriving DecidableEq, Repr

namespace Response

def header? (r : Response) (name : String) : Option String := (r.headers.valuesOf name).head?

def withHeader (r : Response) (name value : String) : Response :=
  { r with headers := r.headers ++ [(name, value)] }

/-- States the length of the body, unless a coding is yet to change it. -/
def withLength (r : Response) : Response :=
  if (r.header? "content-encoding").isSome then r
  else r.withHeader "content-length" (toString r.body.utf8ByteSize)

def bare (status : Nat) : Response := ⟨status, [], ""⟩

def plain (status : Nat) (text : String) : Response :=
  ⟨status, [("content-type", "text/plain; charset=utf-8")], text⟩

def json (status : Nat) (text : String) : Response :=
  ⟨status, [("content-type", "application/json")], text⟩

end Response

end HomeHub.Http
