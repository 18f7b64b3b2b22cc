import HomeHub.Forecast.Coordinates
import HomeHub.Refresh.Feed
import HomeHub.Text.Encoding

/-!
# Fetching forecasts

A link sends a request and follows redirections. A forecast is fetched with the coordinates in the
query, and only status 200 with a UTF-8 body gives one.
-/
namespace HomeHub.Http

structure Query where
  url : String
  userAgent : String
  deriving DecidableEq, Repr

/-- The last answer behind all redirections. -/
structure Reply where
  /-- Where the answer comes from. -/
  url : String
  status : Nat
  body : ByteArray

inductive LinkFault where
  | timeout
  | failed (message : String)
  deriving DecidableEq, Repr

abbrev Link : Type := Query → Except LinkFault Reply

/-- A link over which nothing can be reached. -/
def Link.down : Link := fun query => .error (.failed s!"error sending request for url ({query.url})")

/-- Appends pairs to the query of a URL and drops its fragment. -/
def withQuery (url : String) (pairs : List (String × String)) : String :=
  let base := String.ofList (url.toList.takeWhile (· ≠ '#'))
  let written := "&".intercalate (pairs.map fun (name, value) => name ++ "=" ++ value)
  match base.toList.dropWhile (· ≠ '?') with
  | [] => base ++ "?" ++ written
  | [_] => base ++ written
  | _ => base ++ "&" ++ written

structure Client where
  url : String
  coordinates : Coordinates
  deriving DecidableEq, Repr

namespace Client

def userAgent : String := "hearth/0.1.0"

/-- A fetch is given up after so many seconds. -/
def patience : Nat := 10

def query (c : Client) : Query := ⟨withQuery c.url c.coordinates.query, userAgent⟩

def readReply (reply : Reply) : HomeHub.Response :=
  if reply.status ≠ 200 then .error (.status reply.url reply.status)
  else (Text.ofBytes reply.body).mapError fun fault =>
    .content s!"response is not UTF-8: {fault.message}"

def fetch (c : Client) (link : Link) : HomeHub.Response :=
  match link c.query with
  | .error .timeout => .error (.timeout patience)
  | .error (.failed message) => .error (.transport message)
  | .ok reply => readReply reply

end Client

end HomeHub.Http
