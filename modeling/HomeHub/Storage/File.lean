/-!
# Files

What the program can find at a path, and what reading and writing there do. A write replaces the
whole content.
-/
namespace HomeHub

inductive StorageFault where
  | notFound
  | isDirectory
  | notDirectory
  | notText
  | nameTooLong
  /-- A path with a NUL names nothing. -/
  | nulInPath
  deriving DecidableEq, Repr

def StorageFault.message : StorageFault → String
  | notFound => "No such file or directory (os error 2)"
  | isDirectory => "Is a directory (os error 21)"
  | notDirectory => "Not a directory (os error 20)"
  | notText => "stream did not contain valid UTF-8"
  | nameTooLong => "File name too long (os error 36)"
  | nulInPath => "file name contained an unexpected NUL byte"

inductive File where
  | absent
  | text (content : String)
  /-- Bytes that are no UTF-8 text. -/
  | binary (bytes : List UInt8)
  | directory
  /-- No file can stand at the path. -/
  | unreachable (reading writing : StorageFault)
  deriving DecidableEq, Repr, Inhabited

namespace File

def ofBytes (bytes : ByteArray) : File :=
  match String.fromUTF8? bytes with
  | some content => text content
  | none => binary bytes.toList

def read : File → Except StorageFault String
  | absent => .error .notFound
  | text content => .ok content
  | binary _ => .error .notText
  | directory => .error .isDirectory
  | unreachable reading _ => .error reading

def write (content : String) : File → Except StorageFault File
  | absent | text _ | binary _ => .ok (text content)
  | directory => .error .isDirectory
  | unreachable _ writing => .error writing

def exists? : File → Bool
  | absent | unreachable .. => false
  | _ => true

end File

end HomeHub
