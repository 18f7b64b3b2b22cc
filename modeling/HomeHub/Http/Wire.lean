import HomeHub.Http.Message
import HomeHub.Number.Digits
import HomeHub.Text.Blank
import HomeHub.Text.Split

/-!
# Messages as text

The head of a request is its first line and its headers, one a line. A response is written with a
length in any case, its own if it states one.
-/
namespace HomeHub.Http

/-- A header line; its name is put into lower case. -/
def readHeader? (line : String) : Option (String × String) :=
  let name := line.toList.takeWhile (· ≠ ':')
  match line.toList.drop name.length with
  | _ :: value => some (String.ofList (name.map Char.toLower), String.ofList (Text.trim value))
  | [] => none

def Request.ofHead? (lines : List String) : Option Request :=
  match lines with
  | [] => none
  | first :: headers =>
    match Text.split ' ' first with
    | [method, target, _] => some ⟨.ofName method, target, headers.filterMap readHeader?, .empty⟩
    | _ => none

def Request.bodyLength (r : Request) : Nat :=
  let written := (r.headers.valuesOf "content-length").head?
  (written.bind (readUpTo? 4294967295)).getD 0

def reason : (status : Nat) → String
  | 200 => "OK"
  | 400 => "Bad Request"
  | 404 => "Not Found"
  | 405 => "Method Not Allowed"
  | 413 => "Payload Too Large"
  | _ => "Internal Server Error"

def Response.write (r : Response) : String :=
  let sized := if (r.header? "content-length").isSome then r else r.withLength
  let head := s!"HTTP/1.1 {r.status} {reason r.status}" ::
    sized.headers.map fun (name, value) => name ++ ": " ++ value
  "\r\n".intercalate (head ++ ["", r.body])

end HomeHub.Http
