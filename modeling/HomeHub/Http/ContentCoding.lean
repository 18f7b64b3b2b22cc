import HomeHub.Http.Message
import HomeHub.Number.Digits
import HomeHub.Text.Blank
import HomeHub.Text.Split

/-!
# Content codings

A client lists the codings it accepts, each with a quality. The one of the highest quality is
chosen, gzip before identity among equals; codings of quality zero are refused, unknown ones and
those with a malformed quality are passed over.
-/
namespace HomeHub.Http

inductive Coding where
  | identity
  | gzip
  deriving DecidableEq, Repr

namespace Coding

/-- Codings by name, in any case. -/
def ofName? (name : String) : Option Coding :=
  let name := String.ofList (name.toList.map Char.toLower)
  if name = "gzip" ∨ name = "x-gzip" then some .gzip
  else if name = "identity" then some .identity
  else none

def rank : Coding → Nat
  | identity => 0
  | gzip => 1

/-- The most that a quality can be, in thousandths. -/
def fullQuality : Nat := 1000

/-- A quality in thousandths: `q=`, then 0 or 1, and at most three decimals up to one in all. -/
def readQuality? (text : List Char) : Option Nat :=
  match text with
  | q :: '=' :: whole :: rest =>
    if (q = 'q' ∨ q = 'Q') ∧ (whole = '0' ∨ whole = '1') then
      let units := digitValue whole * fullQuality
      match rest with
      | [] => some units
      | '.' :: decimals =>
        if decimals.length ≤ 3 ∧ decimals.all Char.isDigit then
          let quality := units + digitsValue decimals * Nat.pow 10 (3 - decimals.length)
          if quality ≤ fullQuality then some quality else none
        else none
      | _ => none
    else none
  | _ => none

def readEntry? (entry : String) : Option (Coding × Nat) :=
  let name := entry.toList.takeWhile (· ≠ ';')
  match ofName? (String.ofList (Text.trim name)) with
  | none => none
  | some coding =>
    match entry.toList.drop name.length with
    | [] => some (coding, fullQuality)
    | _ :: quality => (readQuality? (Text.trim quality)).map fun q => (coding, q)

/-- Whether the second of two entries is at least as good as the first. -/
def noWorse (a b : Coding × Nat) : Bool := a.2 < b.2 || (a.2 = b.2 && a.1.rank ≤ b.1.rank)

/-- Whether a header value is plain text: visible ASCII, blanks and tabs. -/
def isPlain (value : String) : Bool := value.toList.all fun c => c = '\t' ∨ ' ' ≤ c ∧ c ≤ '~'

/-- The coding that a client prefers. Values that are no plain text are ignored as a whole. -/
def preferred (accepted : List String) : Coding :=
  let entries := ((accepted.filter isPlain).flatMap (Text.split ',')).filterMap readEntry?
  let best := (entries.filter (0 < ·.2)).foldl (fun best entry =>
    match best with
    | none => some entry
    | some b => if noWorse b entry then some entry else some b) none
  (best.map Prod.fst).getD .identity

/-- The smallest body that is worth coding, in bytes. -/
def leastBody : Nat := 32

/-- Codes a response as the client prefers, and tells caches what it depends on. -/
def apply (accepted : List String) (r : Response) : Response :=
  if r.body.utf8ByteSize < leastBody then r
  else
    let varied := r.withHeader "vary" "accept-encoding"
    match preferred accepted with
    | .gzip => varied.withHeader "content-encoding" "gzip"
    | .identity => varied

end Coding

end HomeHub.Http
