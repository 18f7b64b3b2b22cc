import HomeHub.Storage.File
import HomeHub.Text.Split

/-!
# Paths

Files lie in a tree of directories. A path starts at the working directory or, with a leading slash,
at the root; every step but the last has to lead into a directory.
-/
namespace HomeHub

/-- The names from a place in the tree up to its root. -/
abbrev Location := List String

structure Storage where
  home : Location
  files : List (Location × File)
  deriving DecidableEq, Repr

namespace Storage

/-- The longest name in a directory, in bytes. -/
def longestName : Nat := 255

/-- The longest path, in bytes. -/
def longestPath : Nat := 4095

/-- What lies at a location; the root and the working directory are always there, and nothing lies
under a name that is too long. -/
def get (s : Storage) (location : Location) : File :=
  if location = [] ∨ location = s.home then .directory
  else if longestName < (location.headD "").utf8ByteSize then .unreachable .nameTooLong .nameTooLong
  else (s.files.lookup location).getD .absent

def set (s : Storage) (location : Location) (file : File) : Storage :=
  { s with files := (location, file) :: s.files.filter fun entry => entry.1 ≠ location }

/-- The steps of a path; empty ones and `.` stand for staying. -/
def steps (path : String) : List String := Text.split '/' path

def isStay (step : String) : Bool := step = "" || step = "."

/-- Why one cannot go on from a location, if so. -/
def obstacle? (s : Storage) (location : Location) : Option StorageFault :=
  match s.get location with
  | .directory => none
  | .absent => some .notFound
  | .unreachable reading _ => some reading
  | _ => some .notDirectory

def walk (s : Storage) (location : Location) : List String → Except StorageFault Location
  | [] => .ok location
  | step :: rest =>
    match s.obstacle? location with
    | some fault => .error fault
    | none =>
      if isStay step then s.walk location rest
      else if step = ".." then s.walk location.tail rest
      else s.walk (step :: location) rest

def origin (s : Storage) (path : String) : Location := if path.startsWith "/" then [] else s.home

def withoutSlashes (path : String) : String :=
  String.ofList (path.toList.reverse.dropWhile (· == '/')).reverse

/-- Why a path leads nowhere, whatever the files, if so. -/
def flaw? (path : String) : Option StorageFault :=
  if path = "" then some .notFound
  else if path.toList.contains '\x00' then some .nulInPath
  else if longestPath < path.utf8ByteSize then some .nameTooLong
  else none

/-- The location of a path; slashes at its end are left to `find`. -/
def locate (s : Storage) (path : String) : Except StorageFault Location :=
  match flaw? path with
  | some fault => .error fault
  | none => s.walk (s.origin path) (steps (withoutSlashes path))

/-- What can be found behind a slash that follows a file: only a directory can be read there, and
nothing can be written. -/
def asDirectory : File → File
  | .directory => .directory
  | .absent => .unreachable .notFound .isDirectory
  | .unreachable reading _ => .unreachable reading .isDirectory
  | _ => .unreachable .notDirectory .isDirectory

def find (s : Storage) (path : String) : File :=
  match s.locate path with
  | .error fault => .unreachable fault fault
  | .ok location => if path.endsWith "/" then asDirectory (s.get location) else s.get location

def put (s : Storage) (path : String) (file : File) : Storage :=
  match s.locate path with
  | .error _ => s
  | .ok location => s.set location file

/-- A working directory below the root with nothing in it. -/
def empty : Storage := ⟨["hub", "home"], [(["home"], .directory)]⟩

/-- Makes the directories that a path needs, then puts a file there. -/
def place (s : Storage) (path : String) (file : File) : Storage :=
  let parents := (List.range (steps path).length).map fun n => "/".intercalate ((steps path).take n)
  let withParents := parents.foldl (fun s parent =>
    if parent = "" ∨ (s.find parent).exists? then s else s.put parent .directory) s
  withParents.put path file

def read (s : Storage) (path : String) : Except StorageFault String := (s.find path).read

def write (s : Storage) (path content : String) : Except StorageFault Storage := do
  let file ← (s.find path).write content
  .ok (s.put path file)

end Storage

end HomeHub
