import HomeHub.Markup.Reference
import HomeHub.SortedMap

/-!
# Tags and their attributes

A tag is what stands between its angle brackets. Its attributes are read only on demand, from left
to right; the first fault is reported with its position in bytes.
-/
namespace HomeHub.Markup

def isMarkupBlank (c : Char) : Bool := c = ' ' || c = '\t' || c = '\n' || c = '\r'

structure Tag where
  content : List Char
  deriving DecidableEq, Repr

inductive AttributeFault where
  | noEquals (position : Nat)
  | noValue (position : Nat)
  | unquoted (position : Nat)
  | unclosed (position : Nat) (quote : Char)
  | duplicate (position first : Nat)
  | reference (fault : ReferenceFault)
  deriving DecidableEq, Repr

def AttributeFault.message : AttributeFault → String
  | noEquals position =>
    s!"position {position}: attribute key must be directly followed by `=` or space"
  | noValue position => s!"position {position}: `=` must be followed by an attribute value"
  | unquoted position =>
    s!"position {position}: attribute value must be enclosed in `\"` or `'`"
  | unclosed position quote =>
    s!"position {position}: missing closing quote `{quote}` in attribute value"
  | duplicate position first =>
    s!"position {position}: duplicated attribute, previous declaration at position {first}"
  | reference fault => fault.message

/-- The rest of a tag with the position where it starts. -/
structure Remainder where
  position : Nat
  text : List Char
  deriving DecidableEq, Repr

namespace Remainder

def span (r : Remainder) (test : Char → Bool) : List Char × Remainder :=
  let taken := r.text.takeWhile test
  (taken, ⟨r.position + Text.byteSize taken, r.text.dropWhile test⟩)

def skipBlanks (r : Remainder) : Remainder := (r.span isMarkupBlank).2

theorem length_span (r : Remainder) (test : Char → Bool) :
    (r.span test).2.text.length ≤ r.text.length :=
  (List.dropWhile_sublist test).length_le

end Remainder

/-- The name of the next attribute: a first character of any kind, then all up to `=` or a blank. -/
def attributeName (first : Char) (r : Remainder) : List Char × Remainder :=
  let (more, r) := r.span fun c => c ≠ '=' && !isMarkupBlank c
  (first :: more, r)

def passEquals (r : Remainder) : Except AttributeFault Remainder :=
  let r := r.skipBlanks
  match r.text with
  | '=' :: rest => .ok ⟨r.position + 1, rest⟩
  | _ => .error (.noEquals r.position)

/-- The quoted value behind an equals sign, with its references as written. -/
def quotedValue (r : Remainder) : Except AttributeFault (List Char × Remainder) :=
  let r := r.skipBlanks
  match r.text with
  | [] => .error (.noValue r.position)
  | quote :: rest =>
    if quote = '"' ∨ quote = '\'' then
      let (value, r) := (Remainder.mk (r.position + 1) rest).span (· ≠ quote)
      match r.text with
      | [] => .error (.unclosed r.position quote)
      | _ :: rest => .ok (value, ⟨r.position + 1, rest⟩)
    else .error (.unquoted r.position)

theorem length_passEquals {r s : Remainder} (h : passEquals r = .ok s) :
    s.text.length < r.text.length := by
  unfold passEquals at h
  have hle := r.length_span isMarkupBlank
  simp only [Remainder.skipBlanks] at h
  split at h
  · rename_i rest hr
    injection h with h
    subst h
    rw [hr] at hle
    exact hle
  · simp at h

theorem length_quotedValue {r s : Remainder} {value : List Char}
    (h : quotedValue r = .ok (value, s)) : s.text.length ≤ r.text.length := by
  unfold quotedValue at h
  have hle := r.length_span isMarkupBlank
  simp only [Remainder.skipBlanks] at h
  split at h
  · simp at h
  · rename_i quote rest hr
    rw [hr] at hle
    split at h
    · have hspan := (Remainder.mk ((r.span isMarkupBlank).2.position + 1) rest).length_span (· ≠ quote)
      split at h
      · simp at h
      · rename_i c rest' hr'
        injection h with h
        injection h with _ h
        subst h
        rw [hr'] at hspan
        simp only [List.length_cons] at hle hspan ⊢
        omega
    · simp at h

structure Attribute where
  name : List Char
  position : Nat
  value : List Char
  deriving DecidableEq, Repr

/-- The attribute from its first character on, given the positions of earlier ones. -/
def readAttribute (earlier : List (List Char × Nat)) (position : Nat) (first : Char)
    (rest : List Char) : Except AttributeFault (Attribute × Remainder) := do
  let (name, r) := attributeName first ⟨position + first.utf8Size, rest⟩
  let r ← passEquals r
  match earlier.lookup name with
  | some before => .error (.duplicate position before)
  | none =>
    let (raw, r) ← quotedValue r
    match unescape raw with
    | .error fault => .error (.reference fault)
    | .ok value => .ok (⟨name, position, value⟩, r)

theorem length_readAttribute {earlier : List (List Char × Nat)} {position : Nat} {first : Char}
    {rest : List Char} {found : Attribute} {r : Remainder}
    (h : readAttribute earlier position first rest = .ok (found, r)) :
    r.text.length ≤ rest.length := by
  unfold readAttribute at h
  have h1 := (Remainder.mk (position + first.utf8Size) rest).length_span
    fun c => c ≠ '=' && !isMarkupBlank c
  simp only [attributeName, bind, Except.bind] at h
  split at h
  · simp at h
  · rename_i behind he
    have h2 := length_passEquals he
    split at h
    · simp at h
    · split at h
      · simp at h
      · rename_i raw hv
        have h3 := length_quotedValue (show quotedValue behind = .ok (raw.1, raw.2) from hv)
        split at h
        · simp at h
        · injection h with h
          injection h with _ h
          subst h
          simp only at h1
          omega

def attributesFrom (earlier : List (List Char × Nat)) (sofar : SortedMap String String)
    (r : Remainder) : Except AttributeFault (SortedMap String String) :=
  match _h : r.skipBlanks.text with
  | [] => .ok sofar
  | first :: rest =>
    match _ha : readAttribute earlier r.skipBlanks.position first rest with
    | .error fault => .error fault
    | .ok (found, after) =>
      attributesFrom ((found.name, found.position) :: earlier)
        (sofar.insert (String.ofList found.name) (String.ofList found.value)) after
termination_by r.text.length
decreasing_by
  have h1 := r.length_span isMarkupBlank
  rw [show (r.span isMarkupBlank).2.text = first :: rest from _h] at h1
  have h2 := length_readAttribute _ha
  simp only [List.length_cons] at h1
  omega

namespace Tag

/-- The name of a tag runs to its first blank. -/
def name (t : Tag) : List Char := t.content.takeWhile fun c => !isMarkupBlank c

def attributes (t : Tag) : Except AttributeFault (SortedMap String String) :=
  let name := t.name
  attributesFrom [] .empty ⟨Text.byteSize name, t.content.drop name.length⟩

end Tag

end HomeHub.Markup
