import HomeHub.Number.Digits
import HomeHub.Text.Parser

/-!
# Socket addresses

An address is an IPv4 address with a port, or an IPv6 address in brackets with an optional scope and
a port. It is written in its shortest form: the longest run of zero groups, if there are two or
more, becomes `::`.
-/
namespace HomeHub.Http

structure Ipv4 where
  octets : Vector UInt8 4
  deriving DecidableEq, Repr

structure Ipv6 where
  groups : Vector UInt16 8
  deriving DecidableEq, Repr

inductive Address where
  | v4 (ip : Ipv4) (port : UInt16)
  | v6 (ip : Ipv6) (scope : UInt32) (port : UInt16)
  deriving DecidableEq, Repr

namespace Ipv4

/-- The address of no interface, and those of the one that leads back. -/
def isOwn (ip : Ipv4) : Bool := ip.octets[0] = 127 || ip.octets.toList.all (· = 0)

/-- The two groups of an IPv6 address that end in this address. -/
def groups (ip : Ipv4) : List UInt16 :=
  [ip.octets[0].toUInt16 <<< 8 ||| ip.octets[1].toUInt16,
    ip.octets[2].toUInt16 <<< 8 ||| ip.octets[3].toUInt16]

def display (ip : Ipv4) : String := ".".intercalate (ip.octets.toList.map fun n => toString n.toNat)

end Ipv4

namespace Ipv6

/-- Groups of which there have to be eight. -/
def ofGroups? (groups : List UInt16) : Option Ipv6 :=
  if h : groups.length = 8 then some ⟨⟨groups.toArray, by simpa using h⟩⟩ else none

/-- The address of no interface, that of the one that leads back, and such IPv4 addresses. -/
def isOwn (ip : Ipv6) : Bool :=
  match ip.groups.toList with
  | [0, 0, 0, 0, 0, 0, 0, 0] | [0, 0, 0, 0, 0, 0, 0, 1] | [0, 0, 0, 0, 0, 0xffff, 0, 0] => true
  | [0, 0, 0, 0, 0, 0xffff, a, _] => a >>> 8 = 127
  | _ => false

def groupsText (groups : List UInt16) : String :=
  ":".intercalate (groups.map fun g => String.ofList (Nat.toDigits 16 g.toNat))

/-- Where the longest run of zeros starts and how long it is; the first of several. -/
def longestZeros (groups : List UInt16) : Nat × Nat :=
  (List.range groups.length).foldl (fun best start =>
    let run := ((groups.drop start).takeWhile (· == 0)).length
    if best.2 < run then (start, run) else best) (0, 0)

/-- An IPv4 address that is mapped into IPv6 keeps its points. -/
def display (ip : Ipv6) : String :=
  match ip.groups.toList with
  | [0, 0, 0, 0, 0, 0xffff, a, b] =>
    let octets := [a >>> 8, a &&& 0xff, b >>> 8, b &&& 0xff]
    "::ffff:" ++ ".".intercalate (octets.map fun n => toString n.toNat)
  | groups =>
    let (start, run) := longestZeros groups
    if run < 2 then groupsText groups
    else groupsText (groups.take start) ++ "::" ++ groupsText (groups.drop (start + run))

end Ipv6

namespace Address

open HomeHub.Parser

/-- A decimal number up to a limit; unless `padded` it has no zeros in front. -/
def decimal (limit : Nat) (padded : Bool) : Parser Nat := do
  let digits ← takeAll Char.isDigit
  let isPadded := digits.head? = some '0' ∧ 1 < digits.length
  if digits.isEmpty ∨ limit < digitsValue digits ∨ (isPadded ∧ !padded) then fail
  else pure (digitsValue digits)

/-- One to four hexadecimal digits. -/
def group : Parser UInt16 := do
  let digits ← takeAll fun c => (hexDigit? c).isSome
  if digits.isEmpty ∨ 4 < digits.length then fail
  else pure (UInt16.ofNat (digits.foldl (fun n c => 16 * n + (hexDigit? c).getD 0) 0))

/-- Four numbers with points between them. -/
def ipv4 : Parser Ipv4 := do
  let a ← decimal 255 false
  let _ ← char '.'
  let b ← decimal 255 false
  let _ ← char '.'
  let c ← decimal 255 false
  let _ ← char '.'
  let d ← decimal 255 false
  pure ⟨#v[UInt8.ofNat a, UInt8.ofNat b, UInt8.ofNat c, UInt8.ofNat d]⟩

/-- A part of an IPv6 address, with a colon in front unless it is the first one. -/
def part {α : Type} (first : Bool) (parser : Parser α) : Parser α := do
  if !first then let _ ← char ':'
  parser

/-- At most so many groups, of which the last two may be written as an IPv4 address; also tells
whether they were. -/
def groups : (room : Nat) → (first : Bool) → Parser (List UInt16 × Bool)
  | 0, _ => pure ([], false)
  | room + 1, first => do
    match ← optional (part first (if room = 0 then fail else ipv4)) with
    | some ip => pure (ip.groups, true)
    | none =>
      match ← optional (part first group) with
      | none => pure ([], false)
      | some g =>
        let (rest, mixed) ← groups room false
        pure (g :: rest, mixed)

/-- Eight groups, or fewer with `::` for at least one zero group. -/
def ipv6 : Parser Ipv6 := do
  let (front, mixed) ← groups 8 true
  if front.length = 8 then ofOption (Ipv6.ofGroups? front)
  else if mixed then fail
  else
    word [':', ':']
    let (back, _) ← groups (7 - front.length) true
    let zeros := List.replicate (8 - front.length - back.length) 0
    ofOption (Ipv6.ofGroups? (front ++ zeros ++ back))

def portNumber : Parser UInt16 := do
  let _ ← char ':'
  pure (UInt16.ofNat (← decimal 65535 true))

def scopeNumber : Parser UInt32 := do
  let _ ← char '%'
  pure (UInt32.ofNat (← decimal 4294967295 true))

def address : Parser Address :=
  orElse
    (do pure (.v4 (← ipv4) (← portNumber)))
    (do
      let _ ← char '['
      let ip ← ipv6
      let scope ← optional scopeNumber
      let _ ← char ']'
      pure (.v6 ip (scope.getD 0) (← portNumber)))

def read? (text : String) : Option Address := address.run text.toList

/-- Whether every machine can be reached at an address by itself: it names no interface, or the one
that leads back. -/
def isOwn : Address → Bool
  | v4 ip _ => ip.isOwn
  | v6 ip _ _ => ip.isOwn

def display : Address → String
  | v4 ip port => s!"{ip.display}:{port.toNat}"
  | v6 ip scope port =>
    let zone := if scope = 0 then "" else s!"%{scope.toNat}"
    s!"[{ip.display}{zone}]:{port.toNat}"

end Address

end HomeHub.Http
