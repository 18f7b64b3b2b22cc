/-!
# Bytes that are no UTF-8

A fault of the encoding lies behind the longest valid beginning. It is either some bytes that no
character starts with, or a character that the text ends in.
-/
namespace HomeHub.Text

structure EncodingFault where
  /-- How many bytes are in order. -/
  index : Nat
  /-- How many bytes are wrong, none when more are missing. -/
  length : Option Nat
  deriving DecidableEq, Repr

def EncodingFault.message (fault : EncodingFault) : String :=
  match fault.length with
  | some length => s!"invalid utf-8 sequence of {length} bytes from index {fault.index}"
  | none => s!"incomplete utf-8 byte sequence from index {fault.index}"

/-- The bounds of the bytes that follow a first byte, none when no character starts with it. -/
def followers? (first : UInt8) : Option (List (UInt8 × UInt8)) :=
  let any : UInt8 × UInt8 := (0x80, 0xbf)
  if first < 0x80 then some []
  else if first < 0xc2 then none
  else if first < 0xe0 then some [any]
  else if first = 0xe0 then some [(0xa0, 0xbf), any]
  else if first = 0xed then some [(0x80, 0x9f), any]
  else if first < 0xf0 then some [any, any]
  else if first = 0xf0 then some [(0x90, 0xbf), any, any]
  else if first < 0xf4 then some [any, any, any]
  else if first = 0xf4 then some [(0x80, 0x8f), any, any]
  else none

/-- Checks bytes against bounds when some bytes of the character were taken; gives the rest, or how
many bytes are wrong. -/
def follow (taken : Nat) : List (UInt8 × UInt8) → List UInt8 → Except (Option Nat) (List UInt8)
  | [], rest => .ok rest
  | _ :: _, [] => .error none
  | (low, high) :: bounds, b :: rest =>
    if low ≤ b ∧ b ≤ high then follow (taken + 1) bounds rest else .error (some taken)

/-- The first fault from an index on, with at most so many characters to go. -/
def faultFrom? (index : Nat) : (fuel : Nat) → List UInt8 → Option EncodingFault
  | 0, _ | _, [] => none
  | fuel + 1, first :: rest =>
    match followers? first with
    | none => some ⟨index, some 1⟩
    | some bounds =>
      match follow 1 bounds rest with
      | .error length => some ⟨index, length⟩
      | .ok rest => faultFrom? (index + 1 + bounds.length) fuel rest

/-- The first fault; every character takes a byte at least. -/
def encodingFault? (bytes : List UInt8) : Option EncodingFault := faultFrom? 0 bytes.length bytes

def ofBytes (bytes : ByteArray) : Except EncodingFault String :=
  match String.fromUTF8? bytes, encodingFault? bytes.toList with
  | some text, _ => .ok text
  | none, some fault => .error fault
  | none, none => .error ⟨bytes.size, none⟩

end HomeHub.Text
