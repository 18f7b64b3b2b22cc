import HomeHub.Http.Wire
import HomeHub.Server.Launch

/-!
# The program

Starts the server from the files and the environment at hand, then answers the requests on standard
input. What a request changes is written to its file before the answer. There is no link to other
servers here, so no forecast is fetched, and nothing is compressed.
-/
namespace HomeHub.Program

def lookAt (path : String) : IO File := do
  try return .ofBytes (← IO.FS.readBinFile path)
  catch
    | .noFileOrDirectory .. => return .absent
    | .inappropriateType .. => return .directory
    | _ => return .unreachable .notDirectory .notDirectory

def collect (storage : Storage) (paths : List String) : IO Storage :=
  paths.foldlM (fun storage path => do
    let file ← lookAt path
    return if file = .absent then storage else storage.place path file) storage

def readEnvironment : IO Environment :=
  return ⟨← IO.getEnv "HEARTH_CONFIG", ← IO.getEnv "HOST", ← IO.getEnv "PORT", ← IO.getEnv "RUST_LOG"⟩

/-- The files that a start with these settings can touch. -/
def pathsOf (s : ZWaveSettings) : List String :=
  s.deviceConfigPath :: s.networkConfigPath :: s.networkSnapshot.toList

def gather (env : Environment) : IO Storage := do
  let storage ← collect .empty (env.configPath.toList ++ Settings.usualPaths)
  match Settings.load storage env with
  | .ok settings => collect storage (pathsOf settings.zwave)
  | .error _ => return storage

/-- Writes the files in which two states differ. -/
def save (paths : List String) (before after : Storage) : IO Unit :=
  paths.forM fun path => do
    let file := after.find path
    if file = before.find path then return
    match file.read with
    | .ok text => IO.FS.writeFile path text
    | .error _ => return

/-- The lines of a head, up to an empty one. -/
partial def readHead (input : IO.FS.Stream) (lines : List String) : IO (List String) := do
  let line ← input.getLine
  let text := String.ofList (Text.trimEnd line.toList)
  if text.isEmpty then return lines.reverse
  readHead input (text :: lines)

partial def readBody (input : IO.FS.Stream) (length : Nat) (body : ByteArray) : IO ByteArray := do
  if length ≤ body.size then return body
  let more ← input.read (USize.ofNat (length - body.size))
  if more.isEmpty then return body
  readBody input length (body ++ more)

partial def serveAll (paths : List String) (input output : IO.FS.Stream) (service : Http.Service) :
    IO Unit := do
  match Http.Request.ofHead? (← readHead input []) with
  | none => return
  | some head =>
    let body ← readBody input head.bodyLength .empty
    let headers := head.headers.filter (·.1 ≠ "accept-encoding")
    let (after, response) := service.answer { head with headers, body }
    save paths service.storage after.storage
    output.putStr response.write
    output.flush
    serveAll paths input output after

def run : IO UInt32 := do
  let env ← readEnvironment
  let (log, result) := launch (← gather env) env
  for line in log do
    IO.eprintln s!"{line.level.name} hearth_server: {line.message}"
  match result with
  | .error fault =>
    IO.eprintln s!"Error: {fault.message}"
    return 1
  | .ok ready =>
    let service := ready.service
    let network := (service.network.map fun n => n.configPath).toList
    serveAll (service.storePath :: network) (← IO.getStdin) (← IO.getStdout) service
    return 0

end HomeHub.Program

def main : IO UInt32 := HomeHub.Program.run
