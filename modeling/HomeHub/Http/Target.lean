import HomeHub.Number.Digits
import HomeHub.Text.Split

/-!
# Request targets

The path of a target ends before its query or fragment. A segment is decoded on its own: `%` with
two hexadecimal digits is a byte, any other `%` stands for itself.
-/
namespace HomeHub.Http

/-- What follows the scheme and the authority of an absolute target. It starts with a slash, even if
the target has none there. -/
def withoutAuthority (target : List Char) : List Char :=
  match target.dropWhile (· ≠ ':') with
  | ':' :: '/' :: '/' :: rest =>
    if target.head? = some '/' then target
    else match rest.dropWhile fun c => c ≠ '/' ∧ c ≠ '?' ∧ c ≠ '#' with
      | '/' :: path => '/' :: path
      | query => '/' :: query
  | _ => target

def pathOf (target : String) : String :=
  String.ofList ((withoutAuthority target.toList).takeWhile fun c => c ≠ '?' ∧ c ≠ '#')

/-- Whether a target names a path; `*` and a mere authority do not. -/
def isPath (target : String) : Bool := (pathOf target).startsWith "/"

/-- The segments behind the leading slash of a path, none if there is no such slash. -/
def segmentsOf (path : String) : List String :=
  match Text.split '/' path with
  | "" :: segments => segments
  | _ => []

def decodeBytes : List Char → List UInt8
  | '%' :: a :: b :: rest =>
    match hexDigit? a, hexDigit? b with
    | some x, some y => UInt8.ofNat (16 * x + y) :: decodeBytes rest
    | _, _ => '%'.toString.toUTF8.toList ++ decodeBytes (a :: b :: rest)
  | c :: rest => c.toString.toUTF8.toList ++ decodeBytes rest
  | [] => []

/-- The text of a segment, none if its bytes are no UTF-8. -/
def decodeSegment? (segment : String) : Option String :=
  String.fromUTF8? ⟨(decodeBytes segment.toList).toArray⟩

end HomeHub.Http
