import HomeHub.Toml.Basic

/-!
# Building tables

A table is built from assignments and headers. Dotted keys make tables on their way, and can enter
again only tables that such keys made; a table gets a header of its own at most once. What cannot be
added is reported by its place.
-/
namespace HomeHub.Toml

inductive Origin where
  /-- By its own header. -/
  | header
  /-- On the way to a table with a header. -/
  | implied
  /-- On the way of a dotted key. -/
  | dotted
  deriving DecidableEq, Repr

/-- What stands behind a key while a document is built. A table has the place of its header, or else
of the key that made it. -/
inductive Node where
  | value (v : Located Toml)
  | table (origin : Origin) (left : Nat) (members : List (String × Node))
  | tables (all : List (Nat × List (String × Node)))

abbrev Members := List (String × Node)

/-- A value for a key, in the table that a path of keys leads to. -/
structure Assignment where
  path : List (Located String)
  key : String
  value : Located Toml

mutual

def Node.toToml : Node → Located Toml
  | .value v => v
  | .table _ left members => ⟨.table (membersToToml members), left⟩
  | .tables all => ⟨.array (tablesToToml all), (all.head?.map Prod.fst).getD 0⟩

def membersToToml : List (String × Node) → List (String × Located Toml)
  | [] => []
  | (key, node) :: rest => (key, node.toToml) :: membersToToml rest

def tablesToToml : List (Nat × List (String × Node)) → List (Located Toml)
  | [] => []
  | (left, members) :: rest => ⟨.table (membersToToml members), left⟩ :: tablesToToml rest

end

namespace Members

def replace (members : Members) (key : String) (node : Node) : Members :=
  members.map fun entry => if entry.1 = key then (key, node) else entry

/-- Changes the table at the end of a path, making those that are missing on the way. Of an array of
tables the last one is entered. Where there is no way, the fault is at `culprit`. -/
def changeAt (byDots : Bool) (culprit : Nat) (change : Origin → Members → Except Nat Members) :
    List (Located String) → Origin → Members → Except Nat Members
  | [], origin, members => change origin members
  | ⟨key, left⟩ :: path, _, members =>
    match members.lookup key with
    | none =>
      let origin := if byDots then .dotted else .implied
      (changeAt byDots culprit change path origin []).map fun inner =>
        members ++ [(key, .table origin left inner)]
    | some (.value _) => .error culprit
    | some (.table origin left inner) =>
      if byDots ∧ origin = .header then .error culprit
      else
        (changeAt byDots culprit change path origin inner).map fun inner =>
          members.replace key (.table origin left inner)
    | some (.tables all) =>
      match all.getLast? with
      | none => .error culprit
      | some (left, last) =>
        (changeAt byDots culprit change path .header last).map fun inner =>
          members.replace key (.tables (all.dropLast ++ [(left, inner)]))

/-- Makes an assignment to a key that is not there yet; a dotted key ends in a table that dotted keys
made. -/
def assign (members : Members) (a : Located Assignment) : Except Nat Members :=
  let ⟨path, key, value⟩ := a.value
  members.changeAt true a.left (fun origin members =>
    if (path ≠ [] ∧ origin ≠ .dotted) ∨ (members.lookup key).isSome then .error a.left
    else .ok (members ++ [(key, .value value)])) path .header

def assignAll (members : Members) (assignments : List (Located Assignment)) : Except Nat Members :=
  assignments.foldlM assign members

/-- Adds a table with a header of its own. A table that was only implied is moved to the end. -/
def addTable (path : List (Located String)) (key : String) (left : Nat)
    (assignments : List (Located Assignment)) (root : Members) : Except Nat Members :=
  root.changeAt false left (fun _ members =>
    match members.lookup key with
    | none =>
      (assignAll [] assignments).map fun inner => members ++ [(key, .table .header left inner)]
    | some (.table .implied _ inner) =>
      (assignAll inner assignments).map fun inner =>
        members.filter (·.1 ≠ key) ++ [(key, .table .header left inner)]
    | some _ => .error left) path .header

def addItem (path : List (Located String)) (key : String) (left : Nat)
    (assignments : List (Located Assignment)) (root : Members) : Except Nat Members :=
  root.changeAt false left (fun _ members =>
    match members.lookup key with
    | none => (assignAll [] assignments).map fun inner => members ++ [(key, .tables [(left, inner)])]
    | some (.tables all) =>
      (assignAll [] assignments).map fun inner =>
        members.replace key (.tables (all ++ [(left, inner)]))
    | some _ => .error left) path .header

end Members

/-- The table of some assignments alone. -/
def tableOf? (assignments : List (Located Assignment)) : Option Toml :=
  match Members.assignAll [] assignments with
  | .ok members => some (.table (membersToToml members))
  | .error _ => none

end HomeHub.Toml
